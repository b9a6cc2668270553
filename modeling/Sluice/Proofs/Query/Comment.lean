import Sluice.Query.Comment
import Mathlib.Data.List.Infix

/-!
# Texts without comments

Removing comments leaves exactly those texts alone that hold none (`removeComments_eq_self_iff`).
It need not arrive at such a text.  Each pass is over when the next one begins, and a deleted block
makes neighbours of the characters around it, which may form a mark that no pass looks for any
more.

| pass | what it never leaves behind | what it can bring together |
|---|---|---|
| dashes | two dashes in a row | nothing: the line feed stays |
| blocks | | two dashes, slash and star |
| hashes | a hash sign | nothing: the line feed stays |

So a comment that is left stands where deleted blocks stood between two dashes or between a slash
and a star (`isSpliced_of_holdsComment`).
-/

namespace Sluice.Query

/-- A slash-star with a star-slash somewhere after it. -/
def HoldsBlock (s : List Char) : Prop := ∃ x y z, s = x ++ '/' :: '*' :: (y ++ '*' :: '/' :: z)

/-- Two dashes in a row, a hash sign, or a block. -/
def HoldsComment (s : List Char) : Prop := ['-', '-'] <:+: s ∨ '#' ∈ s ∨ HoldsBlock s

/-- Blocks to be deleted stand between two dashes, or between a slash and a star. -/
def IsSpliced (s : List Char) : Prop :=
  ∃ a b m, (a = '-' ∧ b = '-' ∨ a = '/' ∧ b = '*') ∧ m ≠ [] ∧ dropBlockComments m = [] ∧
    a :: (m ++ [b]) <:+: s

/-! ## Neighbours -/

/-- Two characters are neighbours at the front, or further on. -/
theorem pair_infix_cons_iff {a b c : Char} {s : List Char} :
    [a, b] <:+: c :: s ↔ c = a ∧ s.head? = some b ∨ [a, b] <:+: s := by
  rw [List.infix_cons_iff, List.cons_prefix_cons]
  refine or_congr_left (and_congr eq_comm ?_)
  cases s with
  | nil => simp
  | cons d s => simp [List.cons_prefix_cons, eq_comm]

/-- Two characters are neighbours in either part, or across. -/
theorem pair_infix_append_iff {a b : Char} {x y : List Char} :
    [a, b] <:+: x ++ y ↔
      [a, b] <:+: x ∨ [a, b] <:+: y ∨ x.getLast? = some a ∧ y.head? = some b := by
  induction x with
  | nil => simp
  | cons c x ih =>
    rw [List.cons_append, pair_infix_cons_iff, ih, pair_infix_cons_iff]
    cases x with
    | nil => simp; tauto
    | cons d x => simp [List.getLast?_cons]; tauto

/-- A text holds the blocks of its parts. -/
theorem HoldsBlock.of_isInfix {s t : List Char} (h : HoldsBlock s) (hst : s <:+: t) :
    HoldsBlock t := by
  obtain ⟨x, y, z, rfl⟩ := h
  obtain ⟨p, q, rfl⟩ := hst
  exact ⟨p ++ x, y, z ++ q, by simp⟩

/-- A text holds the comments of its parts. -/
theorem HoldsComment.of_isInfix {s t : List Char} (h : HoldsComment s) (hst : s <:+: t) :
    HoldsComment t := by
  rcases h with h | h | h
  · exact .inl (h.trans hst)
  · exact .inr (.inl (hst.subset h))
  · exact .inr (.inr (h.of_isInfix hst))

/-- A text is spliced where one of its parts is. -/
theorem IsSpliced.of_isInfix {s t : List Char} (h : IsSpliced s) (hst : s <:+: t) :
    IsSpliced t := by
  obtain ⟨a, b, m, hab, hm, hd, hs⟩ := h
  exact ⟨a, b, m, hab, hm, hd, hs.trans hst⟩

/-! ## Dashes -/

/-- Dropping comments behind dashes only leaves out. -/
theorem dropDashComments_sublist (inside : Bool) (s : List Char) :
    (dropDashComments inside s).Sublist s := by
  fun_induction dropDashComments inside s with
  | case1 => exact List.Sublist.refl _
  | case2 _ s ih => exact ih.cons_cons _
  | case3 c s _ ih => exact ih.cons _
  | case4 _ c s _ _ _ ih => exact ih.cons _
  | case5 _ c s _ _ _ ih => exact ih.cons_cons _

/-- What begins with a dash when comments are dropped has begun with one. -/
theorem head?_of_head?_dropDashComments {s : List Char}
    (h : (dropDashComments false s).head? = some '-') : s.head? = some '-' := by
  cases s with
  | nil => simp at h
  | cons c s =>
    by_cases hc : c = '\n'
    · subst hc
      simp [dropDashComments] at h
    · by_cases hd : c = '-' ∧ s.head? = some '-'
      · simp [hd.1]
      · simpa [dropDashComments, hc, hd] using h

/-- What is left has no two dashes in a row. -/
theorem not_dashes_dropDashComments (inside : Bool) (s : List Char) :
    ¬ ['-', '-'] <:+: dropDashComments inside s := by
  fun_induction dropDashComments inside s with
  | case1 => simp
  | case2 _ s ih =>
    rw [pair_infix_cons_iff]
    rintro (⟨h, _⟩ | h)
    · exact absurd h (by decide)
    · exact ih h
  | case3 c s _ ih => exact ih
  | case4 _ c s _ _ _ ih => exact ih
  | case5 _ c s _ _ hd ih =>
    rw [pair_infix_cons_iff]
    rintro (⟨rfl, h⟩ | h)
    · exact hd ⟨rfl, head?_of_head?_dropDashComments h⟩
    · exact ih h

/-- Nothing is dropped behind dashes just where no two stand together. -/
theorem dropDashComments_eq_self_iff {s : List Char} :
    dropDashComments false s = s ↔ ¬ ['-', '-'] <:+: s := by
  constructor
  · intro h
    rw [← h]
    exact not_dashes_dropDashComments false s
  · intro h
    induction s with
    | nil => rfl
    | cons c s ih =>
      rw [pair_infix_cons_iff, not_or] at h
      by_cases hc : c = '\n'
      · subst hc
        simp only [dropDashComments, ih h.2]
      · simp [dropDashComments, h.1, ih h.2]

/-- In front of the first two dashes nothing is dropped. -/
theorem dropDashComments_append {x y : List Char} (hx : ¬ ['-', '-'] <:+: x)
    (hy : x.getLast? = some '-' → y.head? ≠ some '-') :
    dropDashComments false (x ++ y) = x ++ dropDashComments false y := by
  induction x with
  | nil => rfl
  | cons c x ih =>
    rw [pair_infix_cons_iff, not_or] at hx
    have ih := ih hx.2 fun h ↦ hy (by simp [List.getLast?_cons, h])
    by_cases hc : c = '\n'
    · subst hc
      simp [dropDashComments, ih]
    · have hd : ¬ (c = '-' ∧ (x ++ y).head? = some '-') := by
        rintro ⟨rfl, h⟩
        cases x with
        | nil => exact hy rfl h
        | cons d x => exact hx.1 ⟨rfl, h⟩
      rw [List.cons_append, dropDashComments, if_neg (by simp), if_neg hd, ih, List.cons_append]
      exact hc

/-- Inside a comment everything before the line feed goes. -/
theorem dropDashComments_true_append {c : List Char} (hc : '\n' ∉ c) (y : List Char) :
    dropDashComments true (c ++ y) = dropDashComments true y := by
  induction c with
  | nil => rfl
  | cons d c ih =>
    rw [List.mem_cons, not_or] at hc
    simpa [dropDashComments, Ne.symm hc.1] using ih hc.2

/-- A line is looked at apart from those that follow. -/
theorem dropDashComments_append_newline (inside : Bool) (c y : List Char) :
    dropDashComments inside (c ++ '\n' :: y) =
      dropDashComments inside c ++ '\n' :: dropDashComments false y := by
  have head?_append (c : List Char) : (c ++ '\n' :: y).head? = some '-' ↔ c.head? = some '-' := by
    cases c <;> simp
  fun_induction dropDashComments inside c with
  | case1 => simp [dropDashComments]
  | case2 _ c ih => simp [dropDashComments, ih]
  | case3 d c hd ih => simpa [dropDashComments, hd] using ih
  | case4 inside d c hd hi hm ih =>
    rw [← head?_append] at hm
    rw [List.cons_append, dropDashComments, if_neg hi, if_pos hm, ih]
    exact hd
  | case5 inside d c hd hi hm ih =>
    rw [← head?_append] at hm
    rw [List.cons_append, dropDashComments, if_neg hi, if_neg hm, ih, List.cons_append]
    exact hd

/-- What is left of a line is its beginning. -/
theorem isPrefix_dropDashComments {c : List Char} (hc : '\n' ∉ c) :
    dropDashComments false c <+: c := by
  induction c with
  | nil => simp
  | cons d c ih =>
    rw [List.mem_cons, not_or] at hc
    have hd : dropDashComments true c = [] := by
      simpa using dropDashComments_true_append hc.2 []
    rw [dropDashComments, if_neg (by simp), hd]
    · split
      · exact List.nil_prefix
      · exact (List.prefix_cons_inj d).mpr (ih hc.2)
    · exact Ne.symm hc.1

/-! ## Hashes -/

/-- Dropping comments behind a hash only leaves out. -/
theorem dropHashComments_sublist (inside : Bool) (s : List Char) :
    (dropHashComments inside s).Sublist s := by
  fun_induction dropHashComments inside s with
  | case1 => exact List.Sublist.refl _
  | case2 _ s ih => exact ih.cons_cons _
  | case3 c s _ ih => exact ih.cons _
  | case4 _ s _ _ ih => exact ih.cons _
  | case5 _ c s _ _ _ ih => exact ih.cons_cons _

/-- What is left has no hash sign. -/
theorem not_hash_mem_dropHashComments (inside : Bool) (s : List Char) :
    '#' ∉ dropHashComments inside s := by
  fun_induction dropHashComments inside s with
  | case1 => simp
  | case2 _ s ih => simpa using ih
  | case3 c s _ ih => exact ih
  | case4 _ s _ _ ih => exact ih
  | case5 _ c s _ _ hc ih => simpa [eq_comm, hc] using ih

/-- Nothing is dropped behind a hash just where there is none. -/
theorem dropHashComments_eq_self_iff {s : List Char} :
    dropHashComments false s = s ↔ '#' ∉ s := by
  constructor
  · intro h
    rw [← h]
    exact not_hash_mem_dropHashComments false s
  · intro h
    induction s with
    | nil => rfl
    | cons c s ih =>
      rw [List.mem_cons, not_or] at h
      by_cases hc : c = '\n'
      · subst hc
        simp only [dropHashComments, ih h.2]
      · simp [dropHashComments, Ne.symm h.1, ih h.2]

/-- Inside a comment nothing comes before the line feed. -/
theorem eq_newline_of_head?_dropHashComments {s : List Char} {b : Char}
    (h : (dropHashComments true s).head? = some b) : b = '\n' := by
  induction s with
  | nil => simp at h
  | cons c s ih =>
    by_cases hc : c = '\n'
    · subst hc
      simpa [dropHashComments, eq_comm] using h
    · exact ih (by simpa [dropHashComments, hc] using h)

/-- What is left begins as the text does, unless it begins with a line feed. -/
theorem exists_cons_of_dropHashComments {s y : List Char} {b : Char} (hb : b ≠ '\n')
    (h : dropHashComments false s = b :: y) :
    ∃ y', s = b :: y' ∧ dropHashComments false y' = y := by
  cases s with
  | nil => simp at h
  | cons c s =>
    by_cases hc : c = '\n'
    · subst hc
      rw [dropHashComments, List.cons.injEq] at h
      exact absurd h.1.symm hb
    · by_cases hd : c = '#'
      · subst hd
        rw [dropHashComments] at h
        · exact absurd
            (eq_newline_of_head?_dropHashComments (by simpa using congrArg List.head? h)) hb
        · decide
      · rw [dropHashComments, if_neg (by simp), if_neg hd, List.cons.injEq] at h
        · exact ⟨s, by rw [h.1], h.2⟩
        · exact hc

/-- In front of the first hash nothing is dropped. -/
theorem dropHashComments_append {x : List Char} (hx : '#' ∉ x) (y : List Char) :
    dropHashComments false (x ++ y) = x ++ dropHashComments false y := by
  induction x with
  | nil => rfl
  | cons c x ih =>
    rw [List.mem_cons, not_or] at hx
    by_cases hc : c = '\n'
    · subst hc
      simp [dropHashComments, ih hx.2]
    · simp [dropHashComments, Ne.symm hx.1, ih hx.2]

/-- A comment behind a hash goes on to the end of its line. -/
theorem dropHashComments_true_append {c : List Char} (hc : '\n' ∉ c) (y : List Char) :
    dropHashComments true (c ++ y) = dropHashComments true y := by
  induction c with
  | nil => rfl
  | cons d c ih =>
    rw [List.mem_cons, not_or] at hc
    simpa [dropHashComments, Ne.symm hc.1] using ih hc.2

/-- Neighbours that are left were neighbours before, unless the second one is a line feed. -/
theorem exists_of_dropHashComments {inside : Bool} {s x y : List Char} {a b : Char}
    (hb : b ≠ '\n') (h : dropHashComments inside s = x ++ a :: b :: y) :
    ∃ x' y', s = x' ++ a :: b :: y' ∧ dropHashComments false y' = y := by
  -- a character that is kept is the first neighbour, or it stands before both
  have kept {c : Char} {s : List Char}
      (ih : ∀ {x}, dropHashComments false s = x ++ a :: b :: y →
        ∃ x' y', s = x' ++ a :: b :: y' ∧ dropHashComments false y' = y)
      {x : List Char} (h : c :: dropHashComments false s = x ++ a :: b :: y) :
      ∃ x' y', c :: s = x' ++ a :: b :: y' ∧ dropHashComments false y' = y := by
    cases x with
    | nil =>
      obtain ⟨rfl, hs⟩ := List.cons.inj h
      obtain ⟨y', rfl, hy⟩ := exists_cons_of_dropHashComments hb hs
      exact ⟨[], y', rfl, hy⟩
    | cons d x =>
      obtain ⟨rfl, hs⟩ := List.cons.inj h
      obtain ⟨x', y', rfl, hy⟩ := ih hs
      exact ⟨c :: x', y', rfl, hy⟩
  fun_induction dropHashComments inside s generalizing x with
  | case1 => simp at h
  | case2 _ s ih => exact kept ih h
  | case3 c s _ ih =>
    obtain ⟨x', y', rfl, hy⟩ := ih h
    exact ⟨c :: x', y', rfl, hy⟩
  | case4 _ s _ _ ih =>
    obtain ⟨x', y', rfl, hy⟩ := ih h
    exact ⟨'#' :: x', y', rfl, hy⟩
  | case5 _ c s _ _ _ ih => exact kept ih h

/-! ## Blocks -/

/-- A text holds a block at its front, or further on. -/
theorem holdsBlock_cons_iff {c : Char} {s : List Char} :
    HoldsBlock (c :: s) ↔
      (∃ u, c = '/' ∧ s = '*' :: u ∧ ['*', '/'] <:+: u) ∨ HoldsBlock s := by
  constructor
  · rintro ⟨x, y, z, h⟩
    cases x with
    | nil =>
      obtain ⟨rfl, rfl⟩ := List.cons.inj h
      exact .inl ⟨_, rfl, rfl, y, z, by simp⟩
    | cons d x =>
      obtain ⟨rfl, rfl⟩ := List.cons.inj h
      exact .inr ⟨x, y, z, rfl⟩
  · rintro (⟨u, rfl, rfl, y, z, rfl⟩ | h)
    · exact ⟨[], y, z, by simp⟩
    · exact h.of_isInfix (List.suffix_cons c s).isInfix

/-- A block that is never closed has no end mark behind it. -/
theorem afterClose?_eq_none_iff {s : List Char} :
    afterClose? s = none ↔ ¬ ['*', '/'] <:+: s := by
  fun_induction afterClose? s with
  | case1 s => simpa using ⟨[], s, rfl⟩
  | case2 c s h ih =>
    rw [ih, pair_infix_cons_iff, not_or, and_iff_right]
    rintro ⟨rfl, hs⟩
    obtain ⟨u, rfl⟩ := List.head?_eq_some_iff.mp hs
    exact h u rfl rfl
  | case3 => simp

/-- The first star-slash is found after the same text, whatever follows it. -/
theorem exists_of_afterClose? {s t : List Char} (h : afterClose? s = some t) :
    ∃ y, s = y ++ '*' :: '/' :: t ∧ ∀ v, afterClose? (y ++ '*' :: '/' :: v) = some v := by
  fun_induction afterClose? s with
  | case1 s =>
    cases h
    exact ⟨[], rfl, fun v ↦ by simp [afterClose?]⟩
  | case2 c s hc ih =>
    obtain ⟨y, rfl, hy⟩ := ih h
    refine ⟨c :: y, rfl, fun v ↦ ?_⟩
    rw [List.cons_append, afterClose?, hy]
    rintro u rfl hu
    cases y with
    | nil => simp at hu
    | cons d y => exact hc _ rfl (by rw [List.cons_append, (List.cons.inj hu).1])
  | case3 => cases h

/-- What stands behind a block is the end of the text. -/
theorem suffix_of_afterClose? {s t : List Char} (h : afterClose? s = some t) :
    t <:+ '/' :: '*' :: s := by
  obtain ⟨y, rfl, -⟩ := exists_of_afterClose? h
  exact ⟨'/' :: '*' :: (y ++ ['*', '/']), by simp⟩

/-- A block is dropped, and the text behind it is gone through. -/
theorem dropBlockComments_of_afterClose? {s t : List Char} (h : afterClose? s = some t) :
    dropBlockComments ('/' :: '*' :: s) = dropBlockComments t := by
  rw [dropBlockComments]
  split <;> simp_all

/-- Dropping blocks only leaves out. -/
theorem dropBlockComments_sublist (s : List Char) : (dropBlockComments s).Sublist s := by
  fun_induction dropBlockComments s with
  | case1 s t h ih => exact ih.trans (suffix_of_afterClose? h).sublist
  | case2 s h ih => exact ih.cons_cons _
  | case3 c s h ih => exact ih.cons_cons _
  | case4 => exact List.Sublist.refl _

/-- A text that begins with an open block holds a block only further on. -/
theorem holdsBlock_open_iff {s : List Char} (h : afterClose? s = none) :
    HoldsBlock ('/' :: '*' :: s) ↔ HoldsBlock ('*' :: s) := by
  rw [holdsBlock_cons_iff]
  refine or_iff_right ?_
  rintro ⟨u, -, hu, hs⟩
  obtain ⟨-, rfl⟩ := List.cons.inj hu
  exact afterClose?_eq_none_iff.mp h hs

/-- A text that begins otherwise holds a block only further on. -/
theorem holdsBlock_other_iff {c : Char} {s : List Char}
    (h : ∀ u, c = '/' → s = '*' :: u → False) : HoldsBlock (c :: s) ↔ HoldsBlock s := by
  rw [holdsBlock_cons_iff]
  refine or_iff_right ?_
  rintro ⟨u, hc, hs, -⟩
  exact h u hc hs

/-- A text that opens a block which is never closed holds no block there. -/
theorem not_holdsBlock_of_afterClose? {s : List Char} (h : afterClose? s = none) :
    ¬ HoldsBlock ('/' :: '*' :: s) := by
  rw [holdsBlock_open_iff h, holdsBlock_other_iff (by simp)]
  rintro ⟨x, y, z, rfl⟩
  exact afterClose?_eq_none_iff.mp h ⟨x ++ '/' :: '*' :: y, z, by simp⟩

/-- Nothing is dropped just where the text holds no block. -/
theorem dropBlockComments_eq_self_iff {s : List Char} :
    dropBlockComments s = s ↔ ¬ HoldsBlock s := by
  fun_induction dropBlockComments s with
  | case1 s t h ih =>
    obtain ⟨y, hs, -⟩ := exists_of_afterClose? h
    refine iff_of_false (fun he ↦ ?_) (not_not.mpr ⟨[], y, t, by simp [hs]⟩)
    have := (dropBlockComments_sublist t).length_le
    have := length_afterClose? h
    rw [he, List.length_cons, List.length_cons] at *
    omega
  | case2 s h ih => rw [holdsBlock_open_iff h, ← ih, List.cons.injEq, and_iff_right rfl]
  | case3 c s h ih => rw [holdsBlock_other_iff h, ← ih, List.cons.injEq, and_iff_right rfl]
  | case4 => simp [HoldsBlock]

/-- Before the first character that is left stand blocks only. -/
theorem exists_of_dropBlockComments_eq_cons {s r : List Char} {c : Char}
    (h : dropBlockComments s = c :: r) :
    ∃ m s', s = m ++ c :: s' ∧ dropBlockComments m = [] := by
  fun_induction dropBlockComments s with
  | case1 s t ht ih =>
    obtain ⟨m, s', rfl, hm⟩ := ih h
    obtain ⟨y, rfl, hy⟩ := exists_of_afterClose? ht
    exact ⟨'/' :: '*' :: (y ++ '*' :: '/' :: m), s', by simp,
      by rw [dropBlockComments_of_afterClose? (hy m), hm]⟩
  | case2 s _ ih =>
    obtain ⟨rfl, -⟩ := List.cons.inj h
    exact ⟨[], '*' :: s, rfl, by simp⟩
  | case3 d s _ ih =>
    obtain ⟨rfl, -⟩ := List.cons.inj h
    exact ⟨[], s, rfl, by simp⟩
  | case4 => cases h

/-- Where the deletion of blocks makes neighbours of two characters, blocks stood between them. -/
theorem head?_or_of_head?_dropBlockComments {a b : Char} {s : List Char}
    (h : (dropBlockComments s).head? = some b) :
    s.head? = some b ∨ ∃ m, m ≠ [] ∧ dropBlockComments m = [] ∧ a :: (m ++ [b]) <:+: a :: s := by
  obtain ⟨r, hr⟩ := List.head?_eq_some_iff.mp h
  obtain ⟨m, s', rfl, hm⟩ := exists_of_dropBlockComments_eq_cons hr
  cases m with
  | nil => exact .inl rfl
  | cons d m => exact .inr ⟨d :: m, by simp, hm, [], s', by simp⟩

/-- Two dashes are left in a row where they were before, or where blocks stood between them. -/
theorem dashes_or_isSpliced {s : List Char} (h : ['-', '-'] <:+: dropBlockComments s) :
    ['-', '-'] <:+: s ∨ IsSpliced s := by
  have kept {c : Char} {s : List Char}
      (ih : ['-', '-'] <:+: dropBlockComments s → ['-', '-'] <:+: s ∨ IsSpliced s)
      (h : ['-', '-'] <:+: c :: dropBlockComments s) :
      ['-', '-'] <:+: c :: s ∨ IsSpliced (c :: s) := by
    rcases pair_infix_cons_iff.mp h with ⟨rfl, hp⟩ | h
    · rcases head?_or_of_head?_dropBlockComments (a := '-') hp with hs | ⟨m, hm, hd, hs⟩
      · exact .inl (pair_infix_cons_iff.mpr (.inl ⟨rfl, hs⟩))
      · exact .inr ⟨'-', '-', m, .inl ⟨rfl, rfl⟩, hm, hd, hs⟩
    · have hs : s <:+: c :: s := (List.suffix_cons c s).isInfix
      exact (ih h).imp (·.trans hs) (·.of_isInfix hs)
  fun_induction dropBlockComments s with
  | case1 s t ht ih =>
    have hs := (suffix_of_afterClose? ht).isInfix
    exact (ih h).imp (·.trans hs) (·.of_isInfix hs)
  | case2 s _ ih => exact kept ih h
  | case3 c s _ ih => exact kept ih h
  | case4 => simp at h

/-- A block is left only where blocks stood between its slash and its star. -/
theorem isSpliced_of_holdsBlock {s : List Char} (h : HoldsBlock (dropBlockComments s)) :
    IsSpliced s := by
  fun_induction dropBlockComments s with
  | case1 s t ht ih => exact (ih h).of_isInfix (suffix_of_afterClose? ht).isInfix
  | case2 s hs ih =>
    -- after a block that is never closed nothing is deleted
    have hn := not_holdsBlock_of_afterClose? hs
    rw [dropBlockComments_eq_self_iff.mpr (by rwa [← holdsBlock_open_iff hs])] at h
    exact absurd h hn
  | case3 c s hs ih =>
    rcases holdsBlock_cons_iff.mp h with ⟨u, rfl, hu, -⟩ | h
    · rcases head?_or_of_head?_dropBlockComments (a := '/') (congrArg List.head? hu) with
        h | ⟨m, hm, hd, hi⟩
      · obtain ⟨v, rfl⟩ := List.head?_eq_some_iff.mp h
        exact (hs v rfl rfl).elim
      · exact ⟨'/', '*', m, .inr ⟨rfl, rfl⟩, hm, hd, hi⟩
    · exact (ih h).of_isInfix (List.suffix_cons c s).isInfix
  | case4 => exact absurd h (by simp [HoldsBlock])

/-- In front of the first block nothing is dropped. -/
theorem dropBlockComments_append {x y : List Char} (hx : ¬ ['/', '*'] <:+: x)
    (hy : x.getLast? = some '/' → y.head? ≠ some '*') :
    dropBlockComments (x ++ y) = x ++ dropBlockComments y := by
  induction x with
  | nil => rfl
  | cons c x ih =>
    rw [pair_infix_cons_iff, not_or] at hx
    have ih := ih hx.2 fun h ↦ hy (by simp [List.getLast?_cons, h])
    rw [List.cons_append, dropBlockComments, ih, List.cons_append]
    rintro s rfl hs
    cases x with
    | nil => exact hy rfl (by simpa using congrArg List.head? hs)
    | cons d x => exact hx.1 ⟨rfl, by simpa using congrArg List.head? hs⟩

/-- A block is closed where it was meant to be. -/
theorem afterClose?_append {c : List Char} (hc : ¬ ['*', '/'] <:+: c) (y : List Char) :
    afterClose? (c ++ '*' :: '/' :: y) = some y := by
  induction c with
  | nil => rfl
  | cons d c ih =>
    rw [pair_infix_cons_iff, not_or] at hc
    rw [List.cons_append, afterClose?, ih hc.2]
    rintro s rfl hs
    cases c with
    | nil => cases hs
    | cons e c => exact hc.1 ⟨rfl, by simpa using congrArg List.head? hs⟩

/-! ## All passes -/

/-- Removing comments only leaves out. -/
theorem removeComments_sublist (s : List Char) : (removeComments s).Sublist s :=
  (dropHashComments_sublist false _).trans
    ((dropBlockComments_sublist _).trans (dropDashComments_sublist false s))

/-- The texts that lose nothing are those that hold no comment. -/
theorem removeComments_eq_self_iff {s : List Char} :
    removeComments s = s ↔ ¬ HoldsComment s := by
  rw [HoldsComment, not_or, not_or, ← dropDashComments_eq_self_iff,
    ← dropHashComments_eq_self_iff, ← dropBlockComments_eq_self_iff]
  constructor
  · intro h
    -- no pass makes a text longer, so each of them has left this one alone
    rw [removeComments] at h
    have hl := congrArg List.length h
    have hh :=
      (dropHashComments_sublist false (dropBlockComments (dropDashComments false s))).length_le
    have hb := (dropBlockComments_sublist (dropDashComments false s)).length_le
    have hd : dropDashComments false s = s :=
      (dropDashComments_sublist false s).eq_of_length_le (by omega)
    rw [hd] at h hl hh hb
    have hb : dropBlockComments s = s := (dropBlockComments_sublist s).eq_of_length_le (by omega)
    rw [hb] at h
    exact ⟨hd, h, hb⟩
  · rintro ⟨hd, hh, hb⟩
    rw [removeComments, hd, hb, hh]

/-- A comment is left only where blocks stood between two dashes or between a slash and a star. -/
theorem isSpliced_of_holdsComment {s : List Char} (h : HoldsComment (removeComments s)) :
    IsSpliced (dropDashComments false s) := by
  rcases h with ⟨x, y, h⟩ | h | ⟨x, y, z, h⟩
  · rw [List.append_assoc] at h
    obtain ⟨x', y', h, -⟩ := exists_of_dropHashComments (by decide) h.symm
    exact (dashes_or_isSpliced ⟨x', y', by simp [h]⟩).resolve_left
      (not_dashes_dropDashComments false s)
  · exact absurd h (not_hash_mem_dropHashComments false _)
  · obtain ⟨x', y', h, hy⟩ := exists_of_dropHashComments (by decide) h
    obtain ⟨x'', y'', rfl, -⟩ := exists_of_dropHashComments (by decide) hy
    exact isSpliced_of_holdsBlock ⟨x', x'', y'', h⟩

end Sluice.Query
