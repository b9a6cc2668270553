import Sluice.Tool.Identifier

/-!
# Names as patterns

A server that is asked for tables by a pattern takes some characters of it for more than themselves:
an underscore as it is would match tables of other names too.  Of these characters a name has the
underscore alone, and it is escaped.  So the pattern of a name matches the name and nothing else
(`matches_likePattern_iff`).
-/

namespace Sluice.Tool

open List

variable {c : Char} {n s cs ps : List Char}

/-! ## Patterns -/

/-- A text matches a pattern: `_` stands for any one character, `%` for any run of them, a backslash
makes the next character literal, and every other character stands for itself. -/
inductive Matches : List Char → List Char → Prop
  | nil : Matches [] []
  | one (c : Char) {ps cs : List Char} (h : Matches ps cs) : Matches ('_' :: ps) (c :: cs)
  | run (ds : List Char) {ps cs : List Char} (h : Matches ps cs) : Matches ('%' :: ps) (ds ++ cs)
  | escaped (c : Char) {ps cs : List Char} (h : Matches ps cs) : Matches ('\\' :: c :: ps) (c :: cs)
  | itself {c : Char} {ps cs : List Char} (hc : c ∉ ['_', '%', '\\']) (h : Matches ps cs) :
    Matches (c :: ps) (c :: cs)

theorem matches_nil_iff : Matches [] cs ↔ cs = [] := by
  constructor
  · rintro ⟨⟩
    rfl
  · rintro rfl
    exact .nil

theorem matches_escaped_iff :
    Matches ('\\' :: c :: ps) cs ↔ ∃ ds, cs = c :: ds ∧ Matches ps ds := by
  constructor
  · intro h
    generalize hq : '\\' :: c :: ps = q at h
    cases h with
    | nil => cases hq
    | one | run => simp at hq
    | escaped c h =>
      cases hq
      exact ⟨_, rfl, h⟩
    | itself hc h =>
      cases hq
      simp at hc
  · rintro ⟨ds, rfl, h⟩
    exact .escaped c h

theorem matches_itself_iff (hc : c ∉ ['_', '%', '\\']) :
    Matches (c :: ps) cs ↔ ∃ ds, cs = c :: ds ∧ Matches ps ds := by
  constructor
  · intro h
    cases h with
    | one | run | escaped => simp at hc
    | itself _ h => exact ⟨_, rfl, h⟩
  · rintro ⟨ds, rfl, h⟩
    exact .itself hc h

/-! ## Names -/

/-- A letter or digit of ASCII, or the underscore. -/
def IsNameChar (c : Char) : Prop :=
  'A' ≤ c ∧ c ≤ 'Z' ∨ 'a' ≤ c ∧ c ≤ 'z' ∨ '0' ≤ c ∧ c ≤ '9' ∨ c = '_'

theorem isIdentifierChar_iff : isIdentifierChar c = true ↔ IsNameChar c := by
  have heq : isIdentifierChar c = (decide ('A' ≤ c ∧ c ≤ 'Z') || ('a' ≤ c && c ≤ 'z') ||
      ('0' ≤ c && c ≤ '9') || c = '_') := rfl
  simp [heq, IsNameChar, or_assoc]

/-- Of all that a pattern may hold for more than itself, a name has the underscore alone. -/
theorem IsNameChar.notMem (h : IsNameChar c) (hc : c ≠ '_') : c ∉ ['_', '%', '\\'] := by
  have hpercent : ¬ IsNameChar '%' := by unfold IsNameChar; decide
  have hbackslash : ¬ IsNameChar '\\' := by unfold IsNameChar; decide
  simp only [mem_cons, not_mem_nil, or_false, not_or]
  exact ⟨hc, fun h' ↦ hpercent (h' ▸ h), fun h' ↦ hbackslash (h' ▸ h)⟩

/-- The pattern of a name matches the name and nothing else. -/
theorem matches_likePattern_iff (hn : ∀ c ∈ n, IsNameChar c) :
    Matches (likePattern n) cs ↔ cs = n := by
  induction n generalizing cs with
  | nil => exact matches_nil_iff
  | cons c n ih =>
    obtain ⟨hc, hn⟩ := forall_mem_cons.mp hn
    have hcons : Matches (likePattern (c :: n)) cs ↔
        ∃ ds, cs = c :: ds ∧ Matches (likePattern n) ds := by
      unfold likePattern
      rw [flatMap_cons]
      split
      next hu =>
        subst hu
        exact matches_escaped_iff
      next hu => exact matches_itself_iff (hc.notMem hu)
    simp [hcons, ih hn]

/-- `n` is the part of `s` that is made of exactly its characters with `P`, in order: a sublist of
such characters that holds every other one. -/
structure IsPart (P : Char → Prop) (n s : List Char) : Prop where
  sublist : n <+ s
  of_mem : ∀ c ∈ n, P c
  greatest : ∀ t, t <+ s → (∀ c ∈ t, P c) → t <+ n

theorem isPart_identifier (s : List Char) : IsPart IsNameChar (identifier s) s where
  sublist := identifier_sublist s
  of_mem c hc := isIdentifierChar_iff.mp (mem_filter.mp hc).2
  greatest t ht hP := by
    have hkept : identifier t = t :=
      filter_eq_self.mpr fun c hc ↦ isIdentifierChar_iff.mpr (hP c hc)
    rw [← hkept]
    exact ht.filter isIdentifierChar

/-- What is left of a table's name is made of exactly its letters, digits and underscores, in order,
and the pattern that is asked for matches this and nothing else. -/
theorem matches_likePattern_identifier_iff (s : List Char) :
    IsPart IsNameChar (identifier s) s ∧
      ∀ cs, Matches (likePattern (identifier s)) cs ↔ cs = identifier s :=
  ⟨isPart_identifier s, fun _ ↦ matches_likePattern_iff (isPart_identifier s).of_mem⟩

end Sluice.Tool
