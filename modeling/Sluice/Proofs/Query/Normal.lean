import Sluice.Proofs.Query.Comment
import Sluice.Query.Admission
import Mathlib.Data.List.DropRight

/-!
# Texts that are admitted as they are

An admitted text is never empty and has no blanks at its ends.  It is free of comments, and is then
admitted again as it is, exactly if the deletion of blocks brought no two characters together that
begin a comment (`isTrimmed_and_self_iff_of_screen`).
-/

namespace Sluice.Text

/-! ## Trimmed texts -/

/-- A text without blanks at its ends. -/
def IsTrimmed (s : List Char) : Prop :=
  (∀ c ∈ s.head?, isBlank c = false) ∧ ∀ c ∈ s.getLast?, isBlank c = false

theorem trimRight_eq_rdropWhile (s : List Char) : trimRight s = s.rdropWhile isBlank := rfl

theorem trim_isInfix (s : List Char) : trim s <:+: s :=
  (List.rdropWhile_prefix isBlank (trimLeft s)).isInfix.trans
    (List.dropWhile_suffix isBlank).isInfix

theorem isTrimmed_trim (s : List Char) : IsTrimmed (trim s) := by
  constructor
  · intro c hc
    -- what is left at the right end begins as the text that was cut
    obtain ⟨t, ht⟩ := List.rdropWhile_prefix isBlank (trimLeft s)
    obtain ⟨u, hu⟩ := List.head?_eq_some_iff.mp hc
    rw [trim, trimRight_eq_rdropWhile] at hu
    have h := List.head?_dropWhile_not isBlank s
    rw [show s.dropWhile isBlank = c :: (u ++ t) by rw [← List.cons_append, ← hu, ht]; rfl] at h
    simpa using h
  · intro c hc
    obtain ⟨hne, rfl⟩ := List.mem_getLast?_eq_getLast hc
    exact Bool.eq_false_iff.mpr (List.rdropWhile_last_not isBlank (trimLeft s) hne)

theorem trimLeft_eq_self {s : List Char} (h : IsTrimmed s) : trimLeft s = s := by
  refine List.dropWhile_eq_self_iff.mpr fun hs ↦ ?_
  simp [h.1 s[0] (by simp [List.head?_eq_getElem?])]

theorem trim_eq_self {s : List Char} (h : IsTrimmed s) : trim s = s := by
  rw [trim, trimLeft_eq_self h, trimRight_eq_rdropWhile, List.rdropWhile_eq_self_iff]
  intro hs
  simp [h.2 _ (List.getLast_mem_getLast? hs)]

end Sluice.Text

namespace Sluice.Query

open Text

/-! ## Admitted texts -/

theorem eq_normalize_of_screen {q s : List Char} (h : screen q = .ok s) : s = normalize q :=
  (screen_eq_ok_iff.mp h).1

theorem rejection?_of_screen {q s : List Char} (h : screen q = .ok s) : rejection? s = none := by
  rw [eq_normalize_of_screen h]
  exact (screen_eq_ok_iff.mp h).2

theorem ne_nil_of_screen {q s : List Char} (h : screen q = .ok s) : s ≠ [] := by
  rintro rfl
  simpa [rejection?] using rejection?_of_screen h

theorem isTrimmed_of_screen {q s : List Char} (h : screen q = .ok s) : IsTrimmed s := by
  rw [eq_normalize_of_screen h]
  exact isTrimmed_trim _

theorem normalize_eq_self {s : List Char} (ht : IsTrimmed s) (hc : removeComments s = s) :
    normalize s = s := by
  rw [normalize, hc, trim_eq_self ht]

/-- A text is admitted again as it is if it loses nothing. -/
theorem screen_self_iff {q s : List Char} (h : screen q = .ok s) :
    screen s = .ok s ↔ removeComments s = s := by
  rw [screen_eq_ok_iff]
  constructor
  · rintro ⟨hs, -⟩
    have ht := (trim_isInfix (removeComments s)).sublist.length_le
    refine (removeComments_sublist s).eq_of_length_le ?_
    rwa [← normalize, ← hs] at ht
  · intro hs
    rw [normalize_eq_self (isTrimmed_of_screen h) hs]
    exact ⟨rfl, rejection?_of_screen h⟩

theorem isSpliced_of_screen {q s : List Char} (h : screen q = .ok s) (hs : HoldsComment s) :
    IsSpliced (dropDashComments false q) := by
  rw [eq_normalize_of_screen h] at hs
  exact isSpliced_of_holdsComment (hs.of_isInfix (trim_isInfix _))

/-- An admitted text is trimmed and not empty.  It loses nothing when its comments are removed, and
is admitted again as it is, exactly if it holds no comment; and it holds one only where deleted
blocks stood between two dashes or between a slash and a star. -/
theorem isTrimmed_and_self_iff_of_screen {q s : List Char} (h : screen q = .ok s) :
    (s ≠ [] ∧ IsTrimmed s) ∧
      (removeComments s = s ↔ ¬ HoldsComment s) ∧
      (screen s = .ok s ↔ ¬ HoldsComment s) ∧
      (HoldsComment s → IsSpliced (dropDashComments false q)) :=
  ⟨⟨ne_nil_of_screen h, isTrimmed_of_screen h⟩, removeComments_eq_self_iff,
    (screen_self_iff h).trans removeComments_eq_self_iff, isSpliced_of_screen h⟩

/-- A block between two dashes: the text that is admitted is a query and a comment. -/
theorem screen_dashes : screen "SELECT 1 -/**/- x".toList = .ok "SELECT 1 -- x".toList :=
  screen_eq_ok_iff.mpr ⟨by decide +kernel, by decide +kernel⟩

theorem holdsComment_dashes : HoldsComment "SELECT 1 -- x".toList :=
  .inl ⟨"SELECT 1 ".toList, " x".toList, rfl⟩

/-- The comment was spliced, and the text is not admitted again as it is. -/
theorem isTrimmed_and_self_iff_of_screen_dashes :
    screen "SELECT 1 -/**/- x".toList = .ok "SELECT 1 -- x".toList ∧
      screen "SELECT 1 -- x".toList ≠ .ok "SELECT 1 -- x".toList ∧
      IsSpliced (dropDashComments false "SELECT 1 -/**/- x".toList) := by
  obtain ⟨-, -, hs, hc⟩ := isTrimmed_and_self_iff_of_screen screen_dashes
  exact ⟨screen_dashes, fun h ↦ hs.mp h holdsComment_dashes, hc holdsComment_dashes⟩

/-- Not every admitted text is free of comments. -/
theorem not_removeComments_eq_self_of_screen :
    ¬ ∀ q s : List Char, screen q = .ok s →
      (s ≠ [] ∧ IsTrimmed s) ∧ removeComments s = s ∧ screen s = .ok s := by
  intro h
  obtain ⟨-, hs, -⟩ := h _ _ screen_dashes
  exact removeComments_eq_self_iff.mp hs holdsComment_dashes

end Sluice.Query
