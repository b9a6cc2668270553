import Mathlib.Data.List.Chain
import Sluice.Proofs.Query.Comment

/-!
# Queries that are put together

A query may be put together from plain texts, comments that end with their line, and blocks
(`Piece`).  Where the pieces leave each other alone (`IsWellFormed`), exactly the comments are
removed, and the line feed of each stays (`removeComments_flatMap_text`).

No pass but the first sees the pieces as they were written:

| pass | `-- c` | `# c` | `/* c */` |
|---|---|---|---|
| dashes | its line feed is left | is cut at two dashes in `c` | |
| blocks | | | nothing is left |
| hashes | | its line feed is left | |
-/

namespace Sluice.Query

/-- The line feed at the end of a comment, which may lack it. -/
def lineEnd : Bool → List Char
  | true => ['\n']
  | false => []

inductive Piece
  | plain (t : List Char)
  /-- Two dashes and what follows them. -/
  | line (c : List Char) (ends : Bool)
  | hash (c : List Char) (ends : Bool)
  | block (c : List Char)
deriving DecidableEq, Repr

namespace Piece

/-- A piece as it is written. -/
def text : Piece → List Char
  | plain t => t
  | line c ends => '-' :: '-' :: (c ++ lineEnd ends)
  | hash c ends => '#' :: (c ++ lineEnd ends)
  | block c => '/' :: '*' :: (c ++ ['*', '/'])

/-- What shall be left of a piece. -/
def kept : Piece → List Char
  | plain t => t
  | line _ ends | hash _ ends => lineEnd ends
  | block _ => []

/-- What dash comments leave of a piece. -/
def undashed : Piece → List Char
  | plain t => t
  | line _ ends => lineEnd ends
  | hash c ends => '#' :: (dropDashComments false c ++ lineEnd ends)
  | block c => (block c).text

/-- What blocks leave of that. -/
def unblocked : Piece → List Char
  | plain t => t
  | line c ends => (line c ends).undashed
  | hash c ends => (hash c ends).undashed
  | block _ => []

/-- No piece holds a mark that would end it early or begin another. -/
def IsProper : Piece → Prop
  | plain t => '#' ∉ t ∧ ¬ ['-', '-'] <:+: t ∧ ¬ ['/', '*'] <:+: t
  | line c _ => '\n' ∉ c
  | hash c _ => '\n' ∉ c ∧ ¬ ['/', '*'] <:+: c
  | block c => ¬ ['*', '/'] <:+: c ∧ ¬ ['-', '-'] <:+: c

/-- One piece may stand right before another. -/
def MayPrecede : Piece → Piece → Prop
  | plain _, plain _ => False
  | plain t, line .. => t.getLast? ≠ some '-'
  | line _ ends, _ | hash _ ends, _ => ends = true
  | _, _ => True

/-- What follows a piece does not run into it: a text that ends in `a` is not followed by `b`, and a
comment without its line feed is the end. -/
def Meets (a b : Char) : Piece → List Char → Prop
  | plain t, y => t.getLast? = some a → y.head? ≠ some b
  | line _ ends, y | hash _ ends, y => ends = false → y = []
  | block _, _ => True

end Piece

instance : DecidablePred Piece.IsProper
  | .plain t => inferInstanceAs (Decidable ('#' ∉ t ∧ ¬ ['-', '-'] <:+: t ∧ ¬ ['/', '*'] <:+: t))
  | .line c _ => inferInstanceAs (Decidable ('\n' ∉ c))
  | .hash c _ => inferInstanceAs (Decidable ('\n' ∉ c ∧ ¬ ['/', '*'] <:+: c))
  | .block c => inferInstanceAs (Decidable (¬ ['*', '/'] <:+: c ∧ ¬ ['-', '-'] <:+: c))

instance : DecidableRel Piece.MayPrecede
  | .plain _, .plain _ => inferInstanceAs (Decidable False)
  | .plain t, .line .. => inferInstanceAs (Decidable (t.getLast? ≠ some '-'))
  | .plain _, .hash .. | .plain _, .block _ => inferInstanceAs (Decidable True)
  | .line _ ends, _ | .hash _ ends, _ => inferInstanceAs (Decidable (ends = true))
  | .block _, _ => inferInstanceAs (Decidable True)

/-- No piece spoils itself or its neighbours. -/
structure IsWellFormed (πs : List Piece) : Prop where
  isProper : ∀ π ∈ πs, π.IsProper
  isChain : πs.IsChain Piece.MayPrecede

theorem IsWellFormed.tail {π : Piece} {πs : List Piece} (h : IsWellFormed (π :: πs)) :
    IsWellFormed πs :=
  ⟨fun ρ hρ ↦ h.isProper ρ (List.mem_cons_of_mem π hρ), h.isChain.tail⟩

/-- After a comment without its line feed comes nothing. -/
theorem IsWellFormed.meets {f : Piece → List Char} {a b : Char} {π : Piece} {πs : List Piece}
    (h : IsWellFormed (π :: πs))
    (hf : ∀ t, π = .plain t → t.getLast? = some a → (πs.flatMap f).head? ≠ some b) :
    π.Meets a b (πs.flatMap f) := by
  have hc := h.isChain
  cases π with
  | plain t => exact hf t rfl
  | line c ends | hash c ends =>
    rintro rfl
    cases πs with
    | nil => rfl
    | cons ρ πs => cases (List.isChain_cons_cons.mp hc).1
  | block c => trivial

theorem not_infix_lineEnd (a b : Char) (ends : Bool) : ¬ [a, b] <:+: lineEnd ends := fun h ↦ by
  have := h.length_le
  cases ends <;> simp [lineEnd] at this

/-! ## Dashes -/

theorem dropDashComments_text_append {π : Piece} {y : List Char} (hπ : π.IsProper)
    (hy : π.Meets '-' '-' y) :
    dropDashComments false (π.text ++ y) = π.undashed ++ dropDashComments false y := by
  cases π with
  | plain t => exact dropDashComments_append hπ.2.1 hy
  | line c ends =>
    have hc : dropDashComments false ('-' :: '-' :: (c ++ lineEnd ends) ++ y) =
        dropDashComments true (c ++ (lineEnd ends ++ y)) := by
      simp [dropDashComments]
    rw [Piece.text, hc, dropDashComments_true_append hπ]
    cases ends with
    | true => rfl
    | false => simp [hy rfl, lineEnd, Piece.undashed]
  | hash c ends =>
    have hc (s : List Char) : dropDashComments false ('#' :: s) = '#' :: dropDashComments false s := by
      simp [dropDashComments]
    rw [Piece.text, List.cons_append, hc]
    cases ends with
    | true => simp [lineEnd, Piece.undashed, dropDashComments_append_newline]
    | false => simp [hy rfl, lineEnd, Piece.undashed]
  | block c =>
    refine dropDashComments_append ?_ (by simp [Piece.text, List.getLast?_cons])
    simpa [Piece.text, pair_infix_cons_iff, pair_infix_append_iff] using hπ.2

/-! ## Blocks -/

theorem dropBlockComments_undashed_append {π : Piece} {y : List Char} (hπ : π.IsProper)
    (hy : π.Meets '/' '*' y) :
    dropBlockComments (π.undashed ++ y) = π.unblocked ++ dropBlockComments y := by
  cases π with
  | plain t => exact dropBlockComments_append hπ.2.2 hy
  | line c ends =>
    have hn := not_infix_lineEnd '/' '*' ends
    cases ends <;> exact dropBlockComments_append hn (by simp [Piece.undashed, lineEnd])
  | hash c ends =>
    have hd : ¬ ['/', '*'] <:+: dropDashComments false c := fun h ↦
      hπ.2 (h.trans (isPrefix_dropDashComments hπ.1).isInfix)
    refine dropBlockComments_append ?_ ?_
    · have hn : (lineEnd ends).head? ≠ some '*' := by cases ends <;> simp [lineEnd]
      simp [Piece.undashed, pair_infix_cons_iff, pair_infix_append_iff, hd, hn, not_infix_lineEnd]
    · cases ends with
      | true => simp [Piece.undashed, lineEnd, List.getLast?_cons]
      | false => simp [hy rfl]
  | block c =>
    have hc : afterClose? (c ++ ['*', '/'] ++ y) = some y := by simpa using afterClose?_append hπ.1 y
    exact dropBlockComments_of_afterClose? hc

/-! ## Hashes -/

theorem dropHashComments_unblocked_append {a b : Char} {π : Piece} {y : List Char}
    (hπ : π.IsProper) (hy : π.Meets a b y) :
    dropHashComments false (π.unblocked ++ y) = π.kept ++ dropHashComments false y := by
  cases π with
  | plain t => exact dropHashComments_append hπ.1 y
  | line c ends =>
    have hn : '#' ∉ lineEnd ends := by cases ends <;> simp [lineEnd]
    exact dropHashComments_append hn y
  | hash c ends =>
    have hd : '\n' ∉ dropDashComments false c := fun h ↦
      hπ.1 ((isPrefix_dropDashComments hπ.1).subset h)
    have hc (s : List Char) : dropHashComments false ('#' :: s) = dropHashComments true s := by
      simp [dropHashComments]
    rw [Piece.unblocked, Piece.undashed, List.cons_append, hc, List.append_assoc,
      dropHashComments_true_append hd]
    cases ends with
    | true => rfl
    | false => simp [hy rfl, lineEnd, Piece.kept]
  | block c => rfl

/-! ## All passes -/

/-- A pass goes over a query piece by piece. -/
theorem pass_flatMap {pass : List Char → List Char} {f g : Piece → List Char} {a b : Char}
    (hnil : pass [] = [])
    (hstep : ∀ {π y}, π.IsProper → π.Meets a b y → pass (f π ++ y) = g π ++ pass y)
    (hmeets : ∀ {t πs}, IsWellFormed (.plain t :: πs) → t.getLast? = some a →
      (πs.flatMap f).head? ≠ some b)
    {πs : List Piece} (h : IsWellFormed πs) : pass (πs.flatMap f) = πs.flatMap g := by
  induction πs with
  | nil => exact hnil
  | cons π πs ih =>
    have hπ := h.isProper π List.mem_cons_self
    have hy : π.Meets a b (πs.flatMap f) := h.meets fun t ht ↦ hmeets (ht ▸ h)
    rw [List.flatMap_cons, hstep hπ hy, ih h.tail, List.flatMap_cons]

/-- After a plain text that ends in a dash stands no other dash. -/
theorem IsWellFormed.head?_text {t : List Char} {πs : List Piece} (h : IsWellFormed (.plain t :: πs))
    (ht : t.getLast? = some '-') : (πs.flatMap Piece.text).head? ≠ some '-' := by
  cases πs with
  | nil => simp
  | cons ρ πs =>
    have hρ := (List.isChain_cons_cons.mp h.isChain).1
    cases ρ with
    | plain u => cases hρ
    | line c ends => exact absurd ht hρ
    | hash c ends | block c => simp [Piece.text]

/-- After a plain text stands no star when blocks are looked for. -/
theorem IsWellFormed.head?_undashed {t : List Char} {πs : List Piece}
    (h : IsWellFormed (.plain t :: πs)) : (πs.flatMap Piece.undashed).head? ≠ some '*' := by
  cases πs with
  | nil => simp
  | cons ρ πs =>
    have hρ := (List.isChain_cons_cons.mp h.isChain).1
    cases ρ with
    | plain u => cases hρ
    | line c ends =>
      cases ends with
      | true => simp [Piece.undashed, lineEnd]
      | false =>
        have hy : (Piece.line c false).Meets '/' '*' (πs.flatMap Piece.undashed) :=
          h.tail.meets fun t ht ↦ by cases ht
        simp [Piece.undashed, lineEnd, hy rfl]
    | hash c ends | block c => simp [Piece.undashed, Piece.text]

/-- No plain text ends in a hash sign. -/
theorem IsWellFormed.getLast?_ne {t : List Char} {πs : List Piece}
    (h : IsWellFormed (.plain t :: πs)) : t.getLast? ≠ some '#' := fun ht ↦
  (h.isProper _ List.mem_cons_self).1 (List.mem_of_getLast? ht)

/-- Of a query that is put together well the comments are removed, and nothing else. -/
theorem removeComments_flatMap_text {πs : List Piece} (h : IsWellFormed πs) :
    removeComments (πs.flatMap Piece.text) = πs.flatMap Piece.kept := by
  have hd := pass_flatMap rfl dropDashComments_text_append (fun h ↦ h.head?_text) h
  have hb := pass_flatMap dropBlockComments_nil dropBlockComments_undashed_append
    (fun h _ ↦ h.head?_undashed) h
  have hh := pass_flatMap (b := '#') rfl dropHashComments_unblocked_append
    (fun h ht ↦ absurd ht h.getLast?_ne) h
  rw [removeComments, hd, hb, hh]

/-- A slash and a star that only a block keeps apart, a block that begins with a slash, marks inside
other comments, a dash before a hash sign, and a last comment without its line feed. -/
theorem removeComments_flatMap_text_neighbours :
    let πs : List Piece :=
      [.plain "SELECT 1/".toList, .block "/ # /*".toList, .plain "*2 -".toList,
        .hash " -- */".toList true, .line " # /*".toList true, .plain "- '3'".toList,
        .block "".toList, .hash "#".toList false]
    IsWellFormed πs ∧ removeComments (πs.flatMap Piece.text) = "SELECT 1/*2 -\n\n- '3'".toList := by
  refine ⟨⟨by decide, by decide⟩, ?_⟩
  exact (removeComments_flatMap_text ⟨by decide, by decide⟩).trans (by decide)

end Sluice.Query
