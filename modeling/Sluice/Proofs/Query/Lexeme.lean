import Sluice.Proofs.Query.Stacking

/-!
# Queries that are written in lexemes

To the guard against stacked statements a query is a sequence of plain runs, literals in quotes and
semicolons (`Lexeme`).  On every query that is written in these it is exact
(`isStacked_flatMap_text_iff`): whatever stands in a literal, the guard is behind the sign that
closes it as it was in front of the sign that opened it.
-/

namespace Sluice.Query

open Text

/-- What the guard distinguishes: a run of characters that it does not act upon, a literal in single
or double quotes, and a semicolon. -/
inductive Lexeme
  | run (t : List Char) (ht : ∀ c ∈ t, steers c = false ∧ c ≠ ';')
  /-- The sign that opens the literal, and the rest with the sign that closes it. -/
  | literal (d : Char) (t : List Char) (hd : d = '\'' ∨ d = '"') (ht : Closes d t)
  | semicolon

/-- A lexeme as it is written. -/
def Lexeme.text : Lexeme → List Char
  | run t _ => t
  | literal d t _ _ => d :: t
  | semicolon => [';']

/-! ## The guard behind a lexeme -/

/-- A run leaves the guard as it is. -/
theorem stacksFrom_run_append {t : List Char} (ht : ∀ c ∈ t, steers c = false ∧ c ≠ ';')
    (s : List Char) : stacksFrom none (t ++ s) = stacksFrom none s := by
  induction t with
  | nil => rfl
  | cons c t ih =>
    obtain ⟨hs, hc⟩ := ht c List.mem_cons_self
    rw [List.cons_append, stacksFrom_none_cons hs, ih fun d hd ↦ ht d (List.mem_cons_of_mem c hd)]
    simp [hc]

/-- The guard leaves a literal where the literal is closed. -/
theorem Closes.stacksFrom_append {d : Char} (hd : d = '\'' ∨ d = '"') {t : List Char}
    (ht : Closes d t) (s : List Char) : stacksFrom (some d) (t ++ s) = stacksFrom none s := by
  have hb : d ≠ '\\' := by rcases hd with rfl | rfl <;> decide
  have hn : d ≠ '`' := by rcases hd with rfl | rfl <;> decide
  induction ht with
  | close => rw [List.singleton_append, stacksFrom_some_cons hb, if_pos rfl]
  | doubled _ ih =>
    -- the first of the two signs closes the literal, and the second opens another
    rw [List.cons_append, stacksFrom_some_cons hb, if_pos rfl, List.cons_append,
      stacksFrom_none_quote hd, ih]
  | hidden _ _ ih => rw [List.cons_append, List.cons_append, stacksFrom, ih]
  | plain hc hbs _ ih =>
    rw [List.cons_append, stacksFrom_some_cons fun h ↦ hn (hbs h), if_neg hc, ih]

/-- A semicolon begins a further statement if anything follows that is not blank. -/
theorem stacksFrom_semicolon_cons (s : List Char) :
    stacksFrom none (';' :: s) = (s.any (!isBlank ·) || stacksFrom none s) := by
  rw [stacksFrom_none_cons (by decide)]
  simp

/-! ## Sequences of lexemes -/

/-- What the guard finds, it finds behind whole lexemes. -/
theorem stacksFrom_flatMap_text_append (ℓs : List Lexeme) {s : List Char}
    (h : stacksFrom none s = true) : stacksFrom none (ℓs.flatMap Lexeme.text ++ s) = true := by
  induction ℓs with
  | nil => exact h
  | cons ℓ ℓs ih =>
    rw [List.flatMap_cons, List.append_assoc]
    cases ℓ with
    | run t ht => rwa [Lexeme.text, stacksFrom_run_append ht]
    | literal d t hd ht =>
      rwa [Lexeme.text, List.cons_append, stacksFrom_none_quote hd, ht.stacksFrom_append hd]
    | semicolon =>
      rw [Lexeme.text, List.singleton_append, stacksFrom_semicolon_cons, ih, Bool.or_true]

/-- A lexeme behind a semicolon, next to it or not, holds a character that is not blank. -/
def GoesOnBehindSemicolon (ℓs : List Lexeme) : Prop :=
  ∃ κs μs, ℓs = κs ++ .semicolon :: μs ∧ ∃ μ ∈ μs, ∃ c ∈ μ.text, isBlank c = false

theorem not_goesOnBehindSemicolon_nil : ¬ GoesOnBehindSemicolon [] := by
  rintro ⟨κs, μs, h, -⟩
  simp at h

theorem goesOnBehindSemicolon_cons_iff {ℓ : Lexeme} {ℓs : List Lexeme} :
    GoesOnBehindSemicolon (ℓ :: ℓs) ↔
      (ℓ = .semicolon ∧ ∃ μ ∈ ℓs, ∃ c ∈ μ.text, isBlank c = false) ∨ GoesOnBehindSemicolon ℓs := by
  constructor
  · rintro ⟨κs, μs, h, hμ⟩
    rcases List.cons_eq_append_iff.mp h with ⟨-, h⟩ | ⟨κs, -, h⟩
    · obtain ⟨rfl, rfl⟩ := List.cons.inj h
      exact .inl ⟨rfl, hμ⟩
    · exact .inr ⟨κs, μs, h, hμ⟩
  · rintro (⟨rfl, hμ⟩ | ⟨κs, μs, rfl, hμ⟩)
    · exact ⟨[], ℓs, rfl, hμ⟩
    · exact ⟨ℓ :: κs, μs, rfl, hμ⟩

/-- A query that is written in lexemes is stacked exactly if, behind one of its semicolons, some
lexeme holds more than blanks. -/
theorem isStacked_flatMap_text_iff (ℓs : List Lexeme) :
    isStacked (ℓs.flatMap Lexeme.text) = true ↔ GoesOnBehindSemicolon ℓs := by
  rw [isStacked]
  induction ℓs with
  | nil => simp [not_goesOnBehindSemicolon_nil]
  | cons ℓ ℓs ih =>
    rw [List.flatMap_cons, goesOnBehindSemicolon_cons_iff, ← ih]
    cases ℓ with
    | run t ht => simp [Lexeme.text, stacksFrom_run_append ht]
    | literal d t hd ht =>
      simp [Lexeme.text, stacksFrom_none_quote hd, ht.stacksFrom_append hd]
    | semicolon =>
      have ha : (ℓs.flatMap Lexeme.text).any (!isBlank ·) = true ↔
          ∃ μ ∈ ℓs, ∃ c ∈ μ.text, isBlank c = false := by
        simp [List.any_flatMap]
      rw [Lexeme.text, List.singleton_append, stacksFrom_semicolon_cons, Bool.or_eq_true, ha]
      simp

end Sluice.Query
