import Sluice.Proofs.Query.Opening

/-!
# Statements behind common tables

What a statement that begins with `WITH` does is decided by the word behind its list of common
tables.  The rules on how a query opens never get that far: an update or a deletion behind such a
list is refused exactly if the blank behind `WITH` goes with the comments, if a dangerous clause
stands somewhere, or if a further statement is stacked (`screen_append_iff_of_isCommonTables`).

The list is laid down by a grammar over its lexemes (`IsCommonTables`), and the lexemes of a text
stand apart by gaps of blanks and comments (`Joined`).
-/

namespace Sluice.Query

open Text

/-! ## Gaps -/

/-- A comment as the server reads it: a block up to the nearest star-slash, or the rest of a line
after two dashes and a blank or after a hash sign. -/
inductive IsComment : List Char → Prop
  | block {m : List Char} (hm : afterClose? m = some []) : IsComment ('/' :: '*' :: m)
  | dashes {c : Char} {m : List Char} (hc : isBlank c = true) (hm : '\n' ∉ (c :: m).dropLast)
      (hn : (c :: m).getLast? = some '\n') : IsComment ('-' :: '-' :: c :: m)
  | hash {m : List Char} (hm : '\n' ∉ m) : IsComment ('#' :: (m ++ ['\n']))

/-- What may stand between two lexemes: blanks and comments, or nothing at all. -/
inductive IsGap : List Char → Prop
  | nil : IsGap []
  | blank {c : Char} {s : List Char} (hc : isBlank c = true) (hs : IsGap s) : IsGap (c :: s)
  | comment {m s : List Char} (hm : IsComment m) (hs : IsGap s) : IsGap (m ++ s)

/-- A character of a plain name. -/
def isNameChar (c : Char) : Bool := isWord c || c = '$'

/-- Two lexemes that would be one word if nothing stood between them. -/
def Merge (m n : List Char) : Prop :=
  m.getLast?.any isNameChar = true ∧ n.head?.any isNameChar = true

instance (m n : List Char) : Decidable (Merge m n) := inferInstanceAs (Decidable (_ ∧ _))

/-- Lexemes with gaps between them. -/
inductive Joined : List (List Char) → List Char → Prop
  | single (m : List Char) : Joined [m] m
  | cons {m n g s : List Char} {ms : List (List Char)} (hg : IsGap g) (hm : Merge m n → g ≠ [])
      (hs : Joined (n :: ms) s) : Joined (m :: n :: ms) (m ++ (g ++ s))

/-! ## Common tables -/

/-- A keyword in any letter case. -/
def IsWritten (w : String) (m : List Char) : Prop := m.map Char.toUpper = w.toList

/-- A name, plain or in backticks. -/
inductive IsName : List Char → Prop
  | plain {m : List Char} (hne : m ≠ []) (hm : ∀ c ∈ m, isNameChar c = true) : IsName m
  | quoted {m : List Char} (hm : Closes '`' m) : IsName ('`' :: m)

/-- Whether a text begins with a comment. -/
def opensComment : List Char → Bool
  | '/' :: '*' :: _ => true
  | '-' :: '-' :: s => s.head?.all isBlank
  | '#' :: _ => true
  | _ => false

/-- A text whose parentheses match, those in quotes and in comments aside. -/
inductive IsBalanced : List Char → Prop
  | nil : IsBalanced []
  | bare {c : Char} {s : List Char} (hc : c ≠ '(' ∧ c ≠ ')' ∧ isQuoteSign c = false)
      (ho : opensComment (c :: s) = false) (hs : IsBalanced s) : IsBalanced (c :: s)
  | quoted {d : Char} {m s : List Char} (hd : isQuoteSign d = true) (hm : Closes d m)
      (hs : IsBalanced s) : IsBalanced (d :: (m ++ s))
  | comment {m s : List Char} (hm : IsComment m) (hs : IsBalanced s) : IsBalanced (m ++ s)
  | nested {m s : List Char} (hm : IsBalanced m) (hs : IsBalanced s) :
      IsBalanced ('(' :: (m ++ ')' :: s))

/-- The lexemes that name the columns of a common table, if they are named. -/
inductive NamesColumns : List (List Char) → Prop
  | none : NamesColumns []
  | some {νs : List (List Char)} (hne : νs ≠ []) (hν : ∀ ν ∈ νs, IsName ν) :
      NamesColumns (['('] :: (νs.intersperse [','] ++ [[')']]))

/-- The lexemes of a common table.  Its body is one of them. -/
inductive IsCommonTable : List (List Char) → Prop
  | mk {ν α β : List Char} {κs : List (List Char)} (hν : IsName ν) (hκ : NamesColumns κs)
      (hα : IsWritten "AS" α) (hβ : IsBalanced β) :
      IsCommonTable (ν :: (κs ++ [α, '(' :: (β ++ [')'])]))

/-- The lexemes of common tables with commas between them. -/
inductive AreCommonTables : List (List Char) → Prop
  | single {τ : List (List Char)} (hτ : IsCommonTable τ) : AreCommonTables τ
  | cons {τ τs : List (List Char)} (hτ : IsCommonTable τ) (hs : AreCommonTables τs) :
      AreCommonTables (τ ++ [','] :: τs)

/-- A list of common tables: `WITH`, perhaps `RECURSIVE`, and the tables. -/
def IsCommonTables (ℓ : List Char) : Prop :=
  ∃ ω ρ τs, IsWritten "WITH" ω ∧ (ρ = [] ∨ ∃ m, ρ = [m] ∧ IsWritten "RECURSIVE" m) ∧
    AreCommonTables τs ∧ Joined (ω :: (ρ ++ τs)) ℓ

/-- The first word of a text is `UPDATE` or `DELETE`. -/
def ChangesData (t : List Char) : Prop :=
  ∃ g m r, t = g ++ (m ++ r) ∧ IsGap g ∧ (IsWritten "UPDATE" m ∨ IsWritten "DELETE" m) ∧
    r.head?.any isNameChar = false

theorem Joined.exists_append {m s : List Char} {ms : List (List Char)} (h : Joined (m :: ms) s) :
    ∃ r, s = m ++ r := by
  cases h with
  | single => exact ⟨[], by rw [List.append_nil]⟩
  | cons hg hm hs => exact ⟨_, rfl⟩

theorem isKeyword_with : IsKeyword "WITH" := by simp [IsKeyword]

/-- A list of common tables begins with `WITH`, and so it does when comments are removed. -/
theorem exists_normalize_of_isCommonTables {ℓ : List Char} (hℓ : IsCommonTables ℓ)
    (t : List Char) :
    ∃ m r, normalize (ℓ ++ t) = m ++ r ∧ trimLeft (m ++ r) = m ++ r ∧
      afterWord? "WITH".toList (m ++ r) = some r := by
  obtain ⟨m, ρ, τs, hm, -, -, hj⟩ := hℓ
  obtain ⟨r, rfl⟩ := hj.exists_append
  obtain ⟨c, m', rfl, hc⟩ := isKeyword_with.exists_cons hm
  have ha := isKeyword_with.isAlpha hm
  refine ⟨c :: m', trimRight (removeComments (r ++ t)), ?_, ?_, ?_⟩
  · rw [List.append_assoc, normalize_append (List.cons_ne_nil c m') ha]
  · exact trimLeft_cons (isBlank_of_isAlpha hc) _
  · exact isKeyword_with.afterWord?_append hm _

/-- What stands behind common tables is never refused for what it does, be it an update or a
deletion.  The whole is admitted exactly if a blank is left behind `WITH` and neither a dangerous
clause nor a stacked statement is found. -/
theorem screen_append_iff_of_isCommonTables {ℓ t : List Char} (hℓ : IsCommonTables ℓ) :
    (∀ ν, screen (ℓ ++ t) ≠ .error (.mutation ν)) ∧
      ((∃ s, screen (ℓ ++ t) = .ok s) ↔
        (⟨["WITH"], true⟩ : Opening).accepts (normalize (ℓ ++ t)) = true ∧
          (∀ ws ∈ dangerousClauses, occurs ws (normalize (ℓ ++ t)) = false) ∧
          isStacked (normalize (ℓ ++ t)) = false) := by
  obtain ⟨m, r, hn, hs, hw⟩ := exists_normalize_of_isCommonTables hℓ t
  have hne : m ++ r ≠ [] := by
    intro h
    rw [h] at hw
    cases hw
  constructor
  · intro ν h
    rw [screen_eq_error_iff, hn, rejection?, refusedOpening?_of_with hs hw] at h
    split at h
    · cases h
    · dsimp only at h
      repeat' split at h
      all_goals cases h
  · have ha : (⟨["WITH"], true⟩ : Opening).accepts (m ++ r) = r.head?.any isBlank := by
      rw [Opening.accepts, after?_singleton hs hw]
      simp
    have hok : (∃ s, screen (ℓ ++ t) = .ok s) ↔ rejection? (normalize (ℓ ++ t)) = none := by
      simp [screen_eq_ok_iff]
    rw [hok, hn, rejection?_eq_none_iff_of_with hs hw, ha]

/-! ## A deletion that is admitted -/

theorem isBalanced_of_bare {s t : List Char}
    (hs : ∀ c ∈ s, c ≠ '(' ∧ c ≠ ')' ∧ isQuoteSign c = false ∧ c ≠ '/' ∧ c ≠ '-' ∧ c ≠ '#')
    (ht : IsBalanced t) : IsBalanced (s ++ t) := by
  induction s with
  | nil => exact ht
  | cons c s ih =>
    obtain ⟨ho, hc, hq, hb, hd, hh⟩ := hs c (by simp)
    refine .bare ⟨ho, hc, hq⟩ ?_ (ih fun d h ↦ hs d (by simp [h]))
    unfold opensComment
    split <;> simp_all

/-- A common table with a named column and parentheses in its body. -/
theorem isCommonTables_nested : IsCommonTables "WITH x (n) AS (SELECT (1))".toList := by
  have hx : IsName ['x'] := .plain (by simp) (List.forall_mem_singleton.mpr (by decide))
  have hn : NamesColumns [['('], ['n'], [')']] :=
    .some (List.cons_ne_nil ['n'] []) (List.forall_mem_singleton.mpr
      (.plain (by simp) (List.forall_mem_singleton.mpr (by decide))))
  have h1 : IsBalanced ("(1)".toList) :=
    .nested (isBalanced_of_bare (t := []) (s := ['1']) (by simp [isQuoteSign]) .nil) .nil
  have hb : IsBalanced ("SELECT (1)".toList) := isBalanced_of_bare (s := "SELECT ".toList)
    (by simp [isQuoteSign]) h1
  have hτ : IsCommonTable
      [['x'], ['('], ['n'], [')'], "AS".toList, "(SELECT (1))".toList] :=
    .mk hx hn (show IsWritten "AS" "AS".toList from rfl) hb
  have hs : IsGap [' '] := .blank (by decide) .nil
  refine ⟨"WITH".toList, [], _, rfl, .inl rfl, .single hτ, ?_⟩
  refine .cons (g := [' ']) hs (by simp) (.cons (g := [' ']) hs (by simp) ?_)
  refine .cons (g := []) .nil (by decide) (.cons (g := []) .nil (by decide) ?_)
  exact .cons (g := [' ']) hs (by simp) (.cons (g := [' ']) hs (by simp) (.single _))

theorem changesData_delete : ChangesData " DELETE FROM users".toList :=
  ⟨[' '], "DELETE".toList, " FROM users".toList, rfl, .blank (by decide) .nil, .inr rfl,
    by decide⟩

/-- The deletion behind a common table is admitted as it stands, for nothing that is looked for is
found. -/
theorem screen_append_iff_of_isCommonTables_delete :
    IsCommonTables "WITH x (n) AS (SELECT (1))".toList ∧
      ChangesData " DELETE FROM users".toList ∧
      ∃ s, screen ("WITH x (n) AS (SELECT (1))".toList ++ " DELETE FROM users".toList) = .ok s :=
  ⟨isCommonTables_nested, changesData_delete,
    (screen_append_iff_of_isCommonTables isCommonTables_nested).2.mpr
      ⟨by decide +kernel, by decide +kernel, by decide +kernel⟩⟩

/-- Not every deletion behind common tables is refused. -/
theorem not_forall_refused_of_changesData :
    ¬ ∀ ℓ t : List Char, IsCommonTables ℓ → ChangesData t →
      ∃ ρ, screen (ℓ ++ t) = .error ρ := by
  intro h
  obtain ⟨ρ, hρ⟩ := h _ _ isCommonTables_nested changesData_delete
  rw [screen_eq_error_iff] at hρ
  have hn : rejection? (normalize
      ("WITH x (n) AS (SELECT (1))".toList ++ " DELETE FROM users".toList)) = none := by
    decide +kernel
  rw [hn] at hρ
  cases hρ

end Sluice.Query
