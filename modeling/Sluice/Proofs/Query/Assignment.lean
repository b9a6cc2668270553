import Sluice.Proofs.Query.Token
import Sluice.Proofs.Query.Verdict

/-!
# Assignments

A statement that begins with `SET` is a list of assignments, and only those to variables of the
session's user are harmless.  The rules look for the at sign that the first target begins with, and
for nothing else in the list: whether a second at sign follows, and what the other targets are, is
left to the query (`targets_iff_of_set`).

Which blanks stand in front of that sign is not all the same.  A line feed is one of them, but the
rule that refuses assignments looks for the sign on the line alone, and it may begin to look in the
middle of the blanks (`screen_self_iff_of_blanks`).
-/

namespace Sluice.Query

open Text

/-! ## The list -/

/-- How many parentheses are open after a token, if `n` are before it. -/
def nesting (n : ℕ) : Token → ℕ
  | .bare '(' => n + 1
  | .bare ')' => n - 1
  | _ => n

/-- The assignments of a list that begins inside `n` parentheses.  They stand apart by the commas
outside of parentheses, strings, names and blocks. -/
def assignments (n : ℕ) : List Token → List (List Token)
  | [] => [[]]
  | τ :: τs =>
    if τ = .bare ',' ∧ n = 0 then [] :: assignments 0 τs
    else (assignments (nesting n τ) τs).modifyHead (τ :: ·)

/-- Whether a token is nothing but room between words. -/
def Token.isRoom : Token → Bool
  | .bare c => isBlank c
  | .comment _ => true
  | .quoted _ _ => false

/-- An assignment as it is written, from its target on. -/
def target (α : List Token) : List Char := textOf (α.dropWhile Token.isRoom)

/-- A text names a variable of the session's user: an at sign, and not two. -/
def IsUserVariable (t : List Char) : Prop := t.head? = some '@' ∧ ¬ ['@', '@'] <+: t

instance (t : List Char) : Decidable (IsUserVariable t) := inferInstanceAs (Decidable (_ ∧ _))

theorem assignments_ne_nil (n : ℕ) (τs : List Token) : assignments n τs ≠ [] := by
  induction τs generalizing n with
  | nil => simp [assignments]
  | cons τ τs ih =>
    rw [assignments]
    split
    · simp
    · rw [Ne, List.modifyHead_eq_nil_iff]
      exact ih _

/-- A sign that neither ends an assignment nor opens or closes parentheses is the first of one. -/
theorem assignments_bare_cons {c : Char} (hc : c ≠ ',' ∧ c ≠ '(' ∧ c ≠ ')') (n : ℕ)
    (τs : List Token) :
    assignments n (.bare c :: τs) = (assignments n τs).modifyHead (.bare c :: ·) := by
  obtain ⟨hk, ho, hz⟩ := hc
  have hn : nesting n (.bare c) = n := by
    unfold nesting
    split <;> simp_all
  rw [assignments, if_neg (by simp [hk]), hn]

theorem assignments_blank_append {w : List Char} (hw : ∀ c ∈ w, isBlank c = true)
    (τs : List Token) :
    assignments 0 (w.map .bare ++ τs) = (assignments 0 τs).modifyHead (w.map .bare ++ ·) := by
  induction w with
  | nil => exact (congrFun List.modifyHead_id _).symm
  | cons c w ih =>
    have hc : c ≠ ',' ∧ c ≠ '(' ∧ c ≠ ')' := by
      refine ⟨?_, ?_, ?_⟩ <;> rintro rfl <;> exact absurd (hw _ List.mem_cons_self) (by decide)
    rw [List.map_cons, List.cons_append, assignments_bare_cons hc, ih fun d h ↦ hw d (by simp [h]),
      List.modifyHead_modifyHead]
    rfl

theorem target_blank_append {w : List Char} (hw : ∀ c ∈ w, isBlank c = true) (α : List Token) :
    target (w.map .bare ++ α) = target α := by
  rw [target, List.dropWhile_append_of_pos, target]
  intro τ hτ
  obtain ⟨c, hc, rfl⟩ := List.mem_map.mp hτ
  exact hw c hc

/-! ## The first target -/

/-- A blank opens and closes neither quotes nor a block. -/
theorem inert_of_isBlank {c : Char} (hc : isBlank c = true) :
    isQuoteSign c = false ∧ c ≠ '/' ∧ c ≠ '*' := by
  refine ⟨Bool.eq_false_iff.mpr fun h ↦ ?_, ?_, ?_⟩
  · simp only [isQuoteSign, Bool.or_eq_true, decide_eq_true_eq] at h
    rcases h with (rfl | rfl) | rfl <;> exact absurd hc (by decide)
  · rintro rfl
    exact absurd hc (by decide)
  · rintro rfl
    exact absurd hc (by decide)

/-- The target of the first assignment begins with the at sign that the rules look for. -/
theorem BeginsAt.exists_assignments {r : List Char} (h : BeginsAt r) :
    ∃ α αs, assignments 0 (tokens r) = α :: αs ∧ (target α).head? = some '@' := by
  obtain ⟨w, x, rfl, -, hw, -⟩ := h
  obtain ⟨α, αs, hα⟩ := List.exists_cons_of_ne_nil (assignments_ne_nil 0 (tokens x))
  refine ⟨w.map .bare ++ .bare '@' :: α, αs, ?_, ?_⟩
  · rw [tokens_inert_append fun c hc ↦ inert_of_isBlank (hw c hc), assignments_blank_append hw,
      tokens_cons (by decide) (by decide), assignments_bare_cons (by decide), hα]
    rfl
  · rw [target_blank_append hw]
    rfl

/-! ## Admitted assignments -/

/-- A list of assignments is admitted exactly if blanks, with no line feed behind the first one, and
an at sign follow the word `SET`, no dangerous clause occurs and no statement is stacked.  Then the
first target begins with an at sign, and all targets are user variables exactly if that sign is not
doubled and the targets behind the first one, which nothing looks at, are user variables. -/
theorem targets_iff_of_set {q r : List Char}
    (hr : afterWord? "SET".toList (normalize q) = some r) :
    ((∃ s, screen q = .ok s) ↔ BeginsAt r ∧
      (∀ ws ∈ dangerousClauses, occurs ws (normalize q) = false) ∧
        isStacked (normalize q) = false) ∧
    (∀ s, screen q = .ok s → ∃ α αs, assignments 0 (tokens r) = α :: αs ∧
      (target α).head? = some '@' ∧
      ((∀ β ∈ assignments 0 (tokens r), IsUserVariable (target β)) ↔
        ¬ ['@', '@'] <+: target α ∧ ∀ β ∈ αs, IsUserVariable (target β))) := by
  have hok : (∃ s, screen q = .ok s) ↔ rejection? (normalize q) = none := by
    simp [screen_eq_ok_iff]
  have hs : rejection? (normalize q) = none ↔ _ :=
    rejection?_eq_none_iff_of_set (trimLeft_eq_self (isTrimmed_trim _)) hr
  refine ⟨hok.trans hs, fun s h ↦ ?_⟩
  obtain ⟨hb, -⟩ := hs.mp (hok.mp ⟨s, h⟩)
  obtain ⟨α, αs, hα, hat⟩ := hb.exists_assignments
  refine ⟨α, αs, hα, hat, ?_⟩
  rw [hα, List.forall_mem_cons, IsUserVariable, and_iff_right hat]

/-- A variable of the server behind one of the user. -/
theorem screen_autocommit :
    screen "SET @a = 1, autocommit = 0".toList = .ok "SET @a = 1, autocommit = 0".toList :=
  screen_eq_ok_iff.mpr ⟨by decide +kernel, by decide +kernel⟩

/-- The first target is a user variable, and the list is none of user variables alone. -/
theorem targets_iff_of_set_autocommit :
    screen "SET @a = 1, autocommit = 0".toList = .ok "SET @a = 1, autocommit = 0".toList ∧
      ¬ ∀ β ∈ assignments 0 (tokens " @a = 1, autocommit = 0".toList),
        IsUserVariable (target β) := by
  have hr : afterWord? "SET".toList (normalize "SET @a = 1, autocommit = 0".toList) =
      some " @a = 1, autocommit = 0".toList := by decide +kernel
  refine ⟨screen_autocommit, fun h ↦ ?_⟩
  obtain ⟨α, αs, hα, -, hiff⟩ := (targets_iff_of_set hr).2 _ screen_autocommit
  have hs := (hiff.mp h).2
  have hα' : assignments 0 (tokens " @a = 1, autocommit = 0".toList) =
      [" @a = 1".toList.map .bare, " autocommit = 0".toList.map .bare] := by decide +kernel
  obtain ⟨-, rfl⟩ := List.cons_eq_cons.mp (hα.symm.trans hα')
  exact absurd (hs _ List.mem_cons_self) (by decide +kernel)

/-- Not every list of assignments that is admitted has user variables alone as its targets. -/
theorem not_forall_isUserVariable_of_screen :
    ¬ ∀ q s r : List Char, screen q = .ok s → afterWord? "SET".toList s = some r →
      ∀ β ∈ assignments 0 (tokens r), IsUserVariable (target β) := by
  intro h
  have hβ := h _ _ " @a = 1, autocommit = 0".toList screen_autocommit (by decide +kernel)
    (" autocommit = 0".toList.map .bare) (by decide +kernel)
  exact absurd hβ (by decide +kernel)

/-! ## Blanks in front of the at sign -/

/-- The blanks that an at sign follows are the only ones it can follow. -/
theorem beginsAt_append_iff {w : List Char} (hne : w ≠ []) (hw : ∀ c ∈ w, isBlank c = true)
    (x : List Char) : BeginsAt (w ++ '@' :: x) ↔ '\n' ∉ w.tail := by
  constructor
  · rintro ⟨v, y, h, -, hv, hn⟩ hl
    have hl' := (losesAt_append_iff hw x).mpr hl
    rw [h] at hl'
    exact hn ((losesAt_append_iff hv y).mp hl')
  · intro hn
    exact ⟨w, x, rfl, hne, hw, hn⟩

section Blanks

variable {m w x : List Char} (hm : m.map keyLetter = "SET".toList) (hne : w ≠ [])
  (hw : ∀ c ∈ w, isBlank c = true)

include hm hne hw

/-- A list of assignments that has lost its comments is looked at as it is. -/
theorem normalize_set_eq_self (hl : ∀ c ∈ (m ++ (w ++ '@' :: x)).getLast?, isBlank c = false)
    (hc : removeComments (m ++ (w ++ '@' :: x)) = m ++ (w ++ '@' :: x)) :
    normalize (m ++ (w ++ '@' :: x)) = m ++ (w ++ '@' :: x) := by
  have hk : IsKeyword "SET" := by simp [IsKeyword]
  obtain ⟨b, w, rfl⟩ := List.exists_cons_of_ne_nil hne
  have ho : OpensWith "SET" (m ++ (b :: w ++ '@' :: x)) :=
    (opensWith_iff hk).mpr ⟨m, b, w ++ '@' :: x, rfl, hm, hw b List.mem_cons_self⟩
  exact normalize_eq_self (ho.isTrimmed hk hl) hc

/-- Of a list of assignments that nothing else speaks against, the blanks between `SET` and the at
sign decide: it is admitted as it is exactly if no line feed stands behind the first of them, and
otherwise it is refused as an assignment to something else than a user variable. -/
theorem screen_self_iff_of_blanks
    (hl : ∀ c ∈ (m ++ (w ++ '@' :: x)).getLast?, isBlank c = false)
    (hc : removeComments (m ++ (w ++ '@' :: x)) = m ++ (w ++ '@' :: x))
    (hd : ∀ ws ∈ dangerousClauses, occurs ws (m ++ (w ++ '@' :: x)) = false)
    (hs : isStacked (m ++ (w ++ '@' :: x)) = false) :
    (screen (m ++ (w ++ '@' :: x)) = .ok (m ++ (w ++ '@' :: x)) ↔ '\n' ∉ w.tail) ∧
      (screen (m ++ (w ++ '@' :: x)) = .error (.mutation "SET") ↔ '\n' ∈ w.tail) := by
  have hn := normalize_set_eq_self hm hne hw hl hc
  have ht : trimLeft (m ++ (w ++ '@' :: x)) = m ++ (w ++ '@' :: x) := by
    rw [← hn]
    exact trimLeft_eq_self (isTrimmed_trim _)
  have hr : afterWord? "SET".toList (m ++ (w ++ '@' :: x)) = some (w ++ '@' :: x) :=
    afterWord?_append hm _
  have hok : rejection? (m ++ (w ++ '@' :: x)) = none ↔ '\n' ∉ w.tail := by
    rw [rejection?_eq_none_iff_of_set ht hr, beginsAt_append_iff hne hw x]
    exact and_iff_left ⟨hd, hs⟩
  constructor
  · rw [screen_eq_ok_iff, hn, and_iff_right rfl, hok]
  · rw [screen_eq_error_iff, hn]
    constructor
    · intro h
      by_contra hf
      rw [hok.mpr hf] at h
      cases h
    · intro hf
      have hle := (losesAt_append_iff hw x).mpr hf
      rw [rejection?, refusedOpening?_of_set ht hr, if_pos hle]
      simp [hne]

end Blanks

/-- A line feed behind a space: the search for the at sign begins in front of it and finds none. -/
theorem screen_self_iff_of_blanks_newline :
    screen "set \n@a = ';'".toList = .error (.mutation "SET") ∧
      screen "set\n @a = ';'".toList = .ok "set\n @a = ';'".toList := by
  have hm : "set".toList.map keyLetter = "SET".toList := by decide
  have hl : ∀ c ∈ some '\'', isBlank c = false := by
    rintro c ⟨⟩
    decide
  constructor
  · have hw : ∀ c ∈ " \n".toList, isBlank c = true := List.all_eq_true.mp (by decide)
    exact (screen_self_iff_of_blanks (x := "a = ';'".toList) hm (by decide) hw hl
      (by decide +kernel) (by decide +kernel) (by decide +kernel)).2.mpr (by decide)
  · have hw : ∀ c ∈ "\n ".toList, isBlank c = true := List.all_eq_true.mp (by decide)
    exact (screen_self_iff_of_blanks (x := "a = ';'".toList) hm (by decide) hw hl
      (by decide +kernel) (by decide +kernel) (by decide +kernel)).1.mpr (by decide)

/-- Not every run of blanks may stand in front of the at sign. -/
theorem not_forall_screen_of_blanks :
    ¬ ∀ w x : List Char, w ≠ [] → (∀ c ∈ w, isBlank c = true) →
      (∀ c ∈ ("SET".toList ++ (w ++ '@' :: x)).getLast?, isBlank c = false) →
      removeComments ("SET".toList ++ (w ++ '@' :: x)) = "SET".toList ++ (w ++ '@' :: x) →
      (∀ ws ∈ dangerousClauses, occurs ws ("SET".toList ++ (w ++ '@' :: x)) = false) →
      isStacked ("SET".toList ++ (w ++ '@' :: x)) = false →
      screen ("SET".toList ++ (w ++ '@' :: x)) = .ok ("SET".toList ++ (w ++ '@' :: x)) := by
  intro h
  have hw : ∀ c ∈ " \n".toList, isBlank c = true := List.all_eq_true.mp (by decide)
  have hl : ∀ c ∈ some '1', isBlank c = false := by
    rintro c ⟨⟩
    decide
  have hok := h " \n".toList "a = 1".toList (by decide) hw hl (by decide +kernel)
    (by decide +kernel) (by decide +kernel)
  have hr : rejection? (normalize "SET \n@a = 1".toList) = some (.mutation "SET") := by
    decide +kernel
  rw [show "SET".toList ++ (" \n".toList ++ '@' :: "a = 1".toList) = "SET \n@a = 1".toList from rfl,
    screen_eq_ok_iff, hr] at hok
  cases hok.2

end Sluice.Query
