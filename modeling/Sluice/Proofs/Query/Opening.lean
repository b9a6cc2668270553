import Sluice.Proofs.Query.Clause

/-!
# The first word of a query

The rules on how a query opens tell statements apart by their first word alone, and none of these
words is the beginning of another where it would matter.  A query that opens with `WITH` is
therefore in the hands of the rules that look for clauses and stacked statements
(`rejection?_eq_none_iff_of_with`), and one that opens with `SET` must in addition have an at sign
right behind the blanks (`rejection?_eq_none_iff_of_set`).

Comments are removed before, which leaves a word as it is (`normalize_append`).
-/

namespace Sluice.Text

theorem trimLeft_cons {c : Char} (hc : isBlank c = false) (s : List Char) :
    trimLeft (c :: s) = c :: s := by
  rw [trimLeft, List.dropWhile_cons_of_neg]
  simp [hc]

/-- Trimming does not reach beyond a character that is no blank. -/
theorem trimRight_append {m : List Char} (hm : ∀ c ∈ m, isBlank c = false) (s : List Char) :
    trimRight (m ++ s) = m ++ trimRight s := by
  have hl : trimRight m = m := by
    rw [trimRight_eq_rdropWhile, List.rdropWhile_eq_self_iff]
    intro h
    simp [hm _ (List.getLast_mem h)]
  induction s using List.reverseRecOn with
  | nil => rw [List.append_nil, hl, show trimRight [] = [] from rfl, List.append_nil]
  | append_singleton s c ih =>
    rw [trimRight_eq_rdropWhile] at ih ⊢
    rw [trimRight_eq_rdropWhile, ← List.append_assoc]
    by_cases hc : isBlank c = true
    · rw [List.rdropWhile_concat_pos _ _ _ hc, List.rdropWhile_concat_pos _ _ _ hc, ih]
      rfl
    · rw [List.rdropWhile_concat_neg _ _ _ hc, List.rdropWhile_concat_neg _ _ _ hc,
        List.append_assoc]

end Sluice.Text

namespace Sluice.Query

open Text

/-! ## Words and comments -/

/-- A word in front of a text is no part of a comment, and stays in front. -/
theorem normalize_append {m : List Char} (hne : m ≠ []) (hm : ∀ c ∈ m, c.isAlpha = true)
    (s : List Char) : normalize (m ++ s) = m ++ trimRight (removeComments s) := by
  have hb : ∀ c ∈ m, isBlank c = false := fun c hc ↦ isBlank_of_isAlpha (hm c hc)
  have hl : trimLeft (m ++ removeComments s) = m ++ removeComments s := by
    obtain ⟨c, m, rfl⟩ := List.exists_cons_of_ne_nil hne
    exact trimLeft_cons (hb c (by simp)) _
  have hmem {c : Char} (hc : c.isAlpha = false) : c ∉ m := fun h ↦ by simp [hm c h] at hc
  have hd : ¬ ['-', '-'] <:+: m := fun h ↦ hmem (by decide) (h.subset List.mem_cons_self)
  have hs : ¬ ['/', '*'] <:+: m := fun h ↦ hmem (by decide) (h.subset List.mem_cons_self)
  have hlast {c : Char} (hc : c.isAlpha = false) : m.getLast? ≠ some c := fun h ↦
    hmem hc (List.mem_of_getLast? h)
  rw [normalize, removeComments, dropDashComments_append hd fun h ↦ absurd h (hlast (by decide)),
    dropBlockComments_append hs fun h ↦ absurd h (hlast (by decide)),
    dropHashComments_append (hmem (by decide)), ← removeComments, trim, hl, trimRight_append hb]

/-! ## Openings that share a first word -/

/-- Of two keywords at the start of one text one is the beginning of the other. -/
theorem prefix_or_prefix_of_afterWord? {w k s r t : List Char} (hw : afterWord? w s = some r)
    (hk : afterWord? k s = some t) : w <+: k ∨ k <+: w := by
  induction w generalizing k s with
  | nil => exact .inl (List.nil_prefix)
  | cons a w ih =>
    cases k with
    | nil => exact .inr (List.nil_prefix)
    | cons b k =>
      cases s with
      | nil => cases hw
      | cons c s =>
        rw [afterWord?, Option.ite_none_right_eq_some] at hw hk
        obtain ⟨rfl, hw⟩ := hw
        obtain ⟨rfl, hk⟩ := hk
        rw [List.cons_prefix_cons, List.cons_prefix_cons, and_iff_right rfl, and_iff_right rfl]
        exact ih hw hk

/-- Whether a text may begin both with the word `w` and as `ω` says. -/
def Opening.agrees (ω : Opening) (w : String) : Bool :=
  match ω.phrase with
  | [] => true
  | k :: _ => w.toList.isPrefixOf k.toList || k.toList.isPrefixOf w.toList

/-- A text that begins with a word opens in no way that disagrees with the word. -/
theorem Opening.after?_eq_none {ω : Opening} {w : String} (hω : ω.agrees w = false)
    {s r : List Char} (hs : trimLeft s = s) (hw : afterWord? w.toList s = some r) :
    ω.after? s = none := by
  obtain ⟨phrase, spaced⟩ := ω
  cases phrase with
  | nil => cases hω
  | cons k ks =>
    rw [agrees, Bool.or_eq_false_iff] at hω
    have hk : afterWord? k.toList s = none := by
      rw [Option.eq_none_iff_forall_ne_some]
      intro t hk
      rcases prefix_or_prefix_of_afterWord? hw hk with h | h
      · exact Bool.eq_false_iff.mp hω.1 (List.isPrefixOf_iff_prefix.mpr h)
      · exact Bool.eq_false_iff.mp hω.2 (List.isPrefixOf_iff_prefix.mpr h)
    rw [after?, hs]
    cases ks with
    | nil => exact hk
    | cons l ks => rw [afterPhrase?, hk, Option.bind_none]; simp

theorem Opening.accepts_eq_false {ω : Opening} {w : String} (hω : ω.agrees w = false)
    {s r : List Char} (hs : trimLeft s = s) (hw : afterWord? w.toList s = some r) :
    ω.accepts s = false := by
  rw [accepts, after?_eq_none hω hs hw]
  rfl

section FirstWord

variable {s r : List Char} (hs : trimLeft s = s)

include hs

theorem after?_singleton {w : String} (hw : afterWord? w.toList s = some r) (b : Bool) :
    (⟨[w], b⟩ : Opening).after? s = some r := by
  rw [Opening.after?, hs]
  exact hw

/-- No rule refuses a text for how it opens that begins with a word which all of them disagree
with. -/
theorem refusedOpening?_eq_none {w : String}
    (hd : ∀ ω ∈ mutations ++ transactions, ω.agrees w = false)
    (hset : (⟨["SET"], true⟩ : Opening).agrees w = false) (hw : afterWord? w.toList s = some r) :
    refusedOpening? s = none := by
  have hm : ∀ ω ∈ mutations ++ transactions, ω.accepts s = false := fun ω h ↦
    Opening.accepts_eq_false (hd ω h) hs hw
  have hset : setsServer s = false := by
    rw [setsServer, Opening.after?_eq_none hset hs hw]
    rfl
  rw [refusedOpening?, List.find?_eq_none.mpr fun ω h ↦ by simp [hm ω (by simp [h])]]
  dsimp only
  rw [hset, List.find?_eq_none.mpr fun ω h ↦ by simp [hm ω (by simp [h])]]
  rfl

/-- No rule refuses a text for opening with `WITH`. -/
theorem refusedOpening?_of_with (hw : afterWord? "WITH".toList s = some r) :
    refusedOpening? s = none :=
  refusedOpening?_eq_none hs (by decide) (by decide) hw

/-- A text that begins with `WITH` is one to read if a blank follows. -/
theorem isAllowed_of_with (hw : afterWord? "WITH".toList s = some r) :
    isAllowed s = r.head?.any isBlank := by
  have hd : ∀ ω ∈ reads, ω.agrees "WITH" = true → ω = ⟨["WITH"], true⟩ := by decide
  have hset : setsSession s = false := by
    rw [setsSession, Opening.after?_eq_none (w := "WITH") (by decide) hs hw]
    rfl
  have hwith : (⟨["WITH"], true⟩ : Opening).accepts s = r.head?.any isBlank := by
    rw [Opening.accepts, after?_singleton hs hw]
    simp
  rw [isAllowed, hset, Bool.or_false, ← hwith, Bool.eq_iff_iff, List.any_eq_true]
  constructor
  · rintro ⟨ω, hω, ha⟩
    by_cases h : ω.agrees "WITH" = true
    · rwa [← hd ω hω h]
    · rw [Opening.accepts_eq_false (Bool.eq_false_iff.mpr h) hs hw] at ha
      cases ha
  · intro h
    exact ⟨_, by decide, h⟩

/-- What is looked at in a text that begins with `WITH`. -/
theorem rejection?_eq_none_iff_of_with (hw : afterWord? "WITH".toList s = some r) :
    rejection? s = none ↔ r.head?.any isBlank = true ∧
      (∀ ws ∈ dangerousClauses, occurs ws s = false) ∧ isStacked s = false := by
  have hne : s ≠ [] := by
    rintro rfl
    cases hw
  rw [rejection?_eq_none_iff, refusedOpening?_of_with hs hw, isAllowed_of_with hs hw,
    dangerousClause?_eq_none_iff]
  tauto

/-- A text that begins with `SET` is refused for its opening only as an assignment. -/
theorem refusedOpening?_of_set (hw : afterWord? "SET".toList s = some r) :
    refusedOpening? s = if losesAt r then some "SET" else none := by
  have hd : ∀ ω ∈ mutations ++ transactions, ω.agrees "SET" = false := by decide
  have hm : ∀ ω ∈ mutations ++ transactions, ω.accepts s = false := fun ω h ↦
    Opening.accepts_eq_false (hd ω h) hs hw
  rw [refusedOpening?, List.find?_eq_none.mpr fun ω h ↦ by simp [hm ω (by simp [h])]]
  dsimp only
  rw [setsServer, after?_singleton hs hw, List.find?_eq_none.mpr fun ω h ↦ by
    simp [hm ω (by simp [h])]]
  rfl

theorem isAllowed_of_set (hw : afterWord? "SET".toList s = some r) :
    isAllowed s = (afterBlanks? r).any (·.head? == some '@') := by
  have hd : ∀ ω ∈ reads, ω.agrees "SET" = false := by decide
  have hr : reads.any (·.accepts s) = false := by
    rw [List.any_eq_false]
    intro ω hω
    rw [Opening.accepts_eq_false (hd ω hω) hs hw]
    exact Bool.false_ne_true
  rw [isAllowed, hr, Bool.false_or, setsSession, after?_singleton hs hw, Option.bind_some]

end FirstWord

/-! ## Assignments -/

/-- Blanks without a line feed behind the first one, and then an at sign. -/
def BeginsAt (r : List Char) : Prop :=
  ∃ w x, r = w ++ '@' :: x ∧ w ≠ [] ∧ (∀ c ∈ w, isBlank c = true) ∧ '\n' ∉ w.tail

theorem lineHasAt_append {w : List Char} (hw : ∀ c ∈ w, isBlank c = true) (x : List Char) :
    lineHasAt (w ++ '@' :: x) = true ↔ '\n' ∉ w := by
  induction w with
  | nil => simp [lineHasAt]
  | cons c w ih =>
    have ih := ih fun d h ↦ hw d (by simp [h])
    have hc : '@' ≠ c := by
      rintro rfl
      exact absurd (hw '@' (by simp)) (by decide)
    by_cases hn : c = '\n'
    · simp [lineHasAt, hn]
    · simp only [lineHasAt, List.cons_append, ne_eq, hn, not_false_eq_true, decide_true,
        List.takeWhile_cons_of_pos, List.contains_cons, List.mem_cons, not_or] at ih ⊢
      simp [hc, Ne.symm hn, ← ih]

theorem losesAt_append_iff {w : List Char} (hw : ∀ c ∈ w, isBlank c = true) (x : List Char) :
    losesAt (w ++ '@' :: x) = true ↔ '\n' ∈ w.tail := by
  induction w with
  | nil => simp [losesAt, show isBlank '@' = false by decide]
  | cons c w ih =>
    have hw' : ∀ d ∈ w, isBlank d = true := fun d h ↦ hw d (by simp [h])
    have hl := lineHasAt_append hw' x
    rw [List.cons_append, losesAt, hw c (by simp), Bool.true_and, Bool.or_eq_true, ih hw',
      Bool.not_eq_true', ← Bool.not_eq_true, hl, not_not, List.tail_cons]
    exact or_iff_left_of_imp List.mem_of_mem_tail

theorem afterBlanks?_eq_some_iff {r t : List Char} :
    afterBlanks? r = some t ↔ ∃ w, r = w ++ t ∧ w ≠ [] ∧ (∀ c ∈ w, isBlank c = true) ∧
      ∀ c ∈ t.head?, isBlank c = false := by
  constructor
  · intro h
    cases r with
    | nil => cases h
    | cons c r =>
      rw [afterBlanks?, Option.ite_none_right_eq_some, Option.some_inj] at h
      obtain ⟨hc, rfl⟩ := h
      refine ⟨c :: r.takeWhile isBlank, by simp [trimLeft], by simp, ?_, ?_⟩
      · simpa [hc] using fun d hd ↦ List.mem_takeWhile_imp hd
      · intro d hd
        have := List.head?_dropWhile_not isBlank r
        rw [trimLeft] at hd
        rw [Option.mem_def.mp hd] at this
        simpa using this
  · rintro ⟨w, rfl, hne, hw, ht⟩
    exact afterBlanks?_append hne hw ht

/-- What is looked at in a text that begins with `SET`. -/
theorem rejection?_eq_none_iff_of_set {s r : List Char} (hs : trimLeft s = s)
    (hw : afterWord? "SET".toList s = some r) :
    rejection? s = none ↔ BeginsAt r ∧ (∀ ws ∈ dangerousClauses, occurs ws s = false) ∧
      isStacked s = false := by
  have hne : s ≠ [] := by
    rintro rfl
    cases hw
  have hr : losesAt r = false ∧ (afterBlanks? r).any (·.head? == some '@') = true ↔
      BeginsAt r := by
    rw [Option.any_eq_true]
    constructor
    · rintro ⟨hl, t, ht, ha⟩
      obtain ⟨w, rfl, hne, hb, -⟩ := afterBlanks?_eq_some_iff.mp ht
      obtain ⟨x, rfl⟩ := List.head?_eq_some_iff.mp (eq_of_beq ha)
      refine ⟨w, x, rfl, hne, hb, fun h ↦ ?_⟩
      rw [(losesAt_append_iff hb x).mpr h] at hl
      cases hl
    · rintro ⟨w, x, rfl, hne, hb, hn⟩
      have ha : ∀ c ∈ ('@' :: x).head?, isBlank c = false := by
        rintro c ⟨⟩
        decide
      refine ⟨Bool.eq_false_iff.mpr fun h ↦ hn ((losesAt_append_iff hb x).mp h), _,
        afterBlanks?_append hne hb ha, rfl⟩
  have ho : refusedOpening? s = none ↔ losesAt r = false := by
    rw [refusedOpening?_of_set hs hw]
    cases losesAt r <;> simp
  rw [rejection?_eq_none_iff, ho, isAllowed_of_set hs hw, dangerousClause?_eq_none_iff, ← hr]
  tauto

end Sluice.Query
