import Sluice.Proofs.Query.Stacking
import Sluice.Proofs.Query.Verdict
import Sluice.Query.RowLimit

/-!
# Queries that were given a limit

A limit is added after the rules have looked at a query, in the place of semicolons and blanks at
its end.  A query that is admitted as it is stays so (`screen_limitRows`): no rule finds in the text
of a limit, or across its border, what it did not find at the end of the query.
-/

namespace Sluice.Text

/-- Blanks and the letters and numbers beyond ASCII are apart. -/
theorem lt_or_lt_of_mem_ranges :
    ∀ β ∈ blankRanges, ∀ ω ∈ wordRanges, ω.2 < β.1 ∨ β.2 < ω.1 := by decide +kernel

/-- The code points of ASCII digits. -/
theorem toNat_of_isDigit {c : Char} (hc : c.isDigit = true) : 48 ≤ c.toNat ∧ c.toNat ≤ 57 := by
  obtain ⟨hl, hh⟩ := (Bool.and_eq_true ..).mp hc
  exact ⟨of_decide_eq_true hl, of_decide_eq_true hh⟩

theorem isBlank_of_isDigit {c : Char} (hc : c.isDigit = true) : isBlank c = false := by
  by_contra hb
  rw [Bool.not_eq_false, isBlank, inRanges_iff] at hb
  have hn := toNat_of_isDigit hc
  simp only [blankRanges, List.mem_cons, List.not_mem_nil, or_false, exists_eq_or_imp,
    exists_eq_left] at hb
  omega

/-- A blank is no part of a word. -/
theorem isWord_of_isBlank {c : Char} (hc : isBlank c = true) : isWord c = false := by
  rw [isWord]
  split
  · rw [Bool.or_eq_false_iff, Char.isAlphanum, Bool.or_eq_false_iff]
    refine ⟨⟨?_, ?_⟩, ?_⟩
    · exact Bool.eq_false_iff.mpr fun h ↦ by simp [Query.isBlank_of_isAlpha h] at hc
    · exact Bool.eq_false_iff.mpr fun h ↦ by simp [isBlank_of_isDigit h] at hc
    · rw [beq_eq_false_iff_ne]
      rintro rfl
      exact absurd hc (by decide)
  · refine Bool.eq_false_iff.mpr fun h ↦ ?_
    obtain ⟨β, hβ, hl, hr⟩ := inRanges_iff.mp hc
    obtain ⟨ω, hω, hl', hr'⟩ := inRanges_iff.mp h
    rcases lt_or_lt_of_mem_ranges β hβ ω hω with h | h <;> omega

end Sluice.Text

namespace Sluice.Query

open Text

/-! ## What is added, and what goes -/

/-- The text that a limit adds to a query. -/
def limitClause (n : Int) : List Char := ' ' :: ("LIMIT ".toList ++ (toString n).toList)

theorem append_limitClause (s : List Char) (n : Int) :
    s ++ limitClause n = s ++ " LIMIT ".toList ++ (toString n).toList := by
  rw [List.append_assoc]
  rfl

/-- A positive number is written in decimal digits without a sign. -/
theorem toList_toString_of_pos {n : Int} (hn : 1 ≤ n) :
    (toString n).toList = Nat.toDigits 10 n.toNat := by
  obtain ⟨k, rfl⟩ := Int.eq_ofNat_of_zero_le (Int.le_trans Int.one_nonneg hn)
  rw [Int.toString_eq_repr, Int.toNat_natCast, ← String.toList_ofList (l := Nat.toDigits 10 k),
    ← Nat.repr_eq_ofList_toDigits]
  rfl

/-- A positive number is written in digits. -/
theorem isDigit_of_mem_toString {n : Int} (hn : 1 ≤ n) {c : Char} (hc : c ∈ (toString n).toList) :
    c.isDigit = true := by
  rw [toList_toString_of_pos hn] at hc
  exact Nat.isDigit_of_mem_toDigits (by decide) (Nat.le_refl 10) hc

theorem toString_ne_nil {n : Int} (hn : 1 ≤ n) : (toString n).toList ≠ [] := by
  rw [toList_toString_of_pos hn]
  exact Nat.toDigits_ne_nil

/-- Of the signs that a rule acts upon none is part of a limit. -/
theorem not_mem_limitClause {n : Int} (hn : 1 ≤ n) {c : Char} (hc : c ≠ ' ')
    (ha : c.isAlphanum = false) : c ∉ limitClause n := by
  intro h
  rw [← List.nil_append (limitClause n), append_limitClause] at h
  rcases List.mem_append.mp h with h | h
  · have hl : " LIMIT ".toList.all (fun d ↦ d == ' ' || d.isAlphanum) = true := by decide
    have hl := List.all_eq_true.mp hl c h
    rw [Bool.or_eq_true, beq_iff_eq] at hl
    rcases hl with rfl | h
    · exact hc rfl
    · exact Bool.eq_false_iff.mp ha h
  · simp [Char.isAlphanum, isDigit_of_mem_toString hn h] at ha

/-- The end of a trimmed text that `dropTerminator` takes. -/
structure Terminates (s v : List Char) : Prop where
  text : s = dropTerminator s ++ v
  isBlank_or : ∀ c ∈ v, isBlank c = true ∨ c = ';'
  isBlank_last : ∀ c ∈ (dropTerminator s).getLast?, isBlank c = false
  /-- A semicolon stays only if blanks are between it and others. -/
  semicolon : (dropTerminator s).getLast? = some ';' → ';' ∈ v

/-- What `dropTerminator` takes of a trimmed text are blanks and semicolons at its end. -/
theorem exists_terminates {s : List Char} (hs : IsTrimmed s) : ∃ v, Terminates s v := by
  have ht : trimRight s = s := by
    rw [trimRight_eq_rdropWhile, List.rdropWhile_eq_self_iff]
    intro hne
    simp [hs.2 _ (List.getLast_mem_getLast? hne)]
  have hd : dropTerminator s = (s.rdropWhile (· = ';')).rdropWhile isBlank := by
    rw [dropTerminator, ht]
    rfl
  have hσ := List.rdropWhile_append_rtakeWhile (p := (· = ';')) (l := s)
  have hβ := List.rdropWhile_append_rtakeWhile (p := isBlank) (l := s.rdropWhile (· = ';'))
  refine ⟨(s.rdropWhile (· = ';')).rtakeWhile isBlank ++ s.rtakeWhile (· = ';'), ?_, ?_, ?_, ?_⟩
  · rw [hd, ← List.append_assoc, hβ, hσ]
  · intro c hc
    rcases List.mem_append.mp hc with h | h
    · exact .inl (List.mem_rtakeWhile_imp h)
    · exact .inr (by simpa using List.mem_rtakeWhile_imp h)
  · rw [hd]
    intro c hc
    obtain ⟨hne, rfl⟩ := List.mem_getLast?_eq_getLast hc
    exact Bool.eq_false_iff.mpr (List.rdropWhile_last_not isBlank _ hne)
  · rw [hd]
    intro hl
    cases hb : (s.rdropWhile (· = ';')).rtakeWhile isBlank with
    | nil =>
      rw [hb, List.append_nil] at hβ
      rw [hβ] at hl
      obtain ⟨hne, hlast⟩ := List.mem_getLast?_eq_getLast hl
      exact absurd (by simp [← hlast]) (List.rdropWhile_last_not (· = ';') s hne)
    | cons β βs =>
      cases hs' : s.rtakeWhile (· = ';') with
      | nil =>
        -- without semicolons at its end the text would end with a blank
        rw [hs', List.append_nil] at hσ
        rw [hσ] at hb
        have hne : s ≠ [] := by rintro rfl; simp at hb
        rw [List.rtakeWhile_eq_nil_iff.mpr] at hb
        · cases hb
        · intro hl
          simp [hs.2 _ (List.getLast_mem_getLast? hl)]
      | cons σ σs =>
        have hσ : σ ∈ s.rtakeWhile (· = ';') := hs' ▸ List.mem_cons_self
        have hσ : σ = ';' := by simpa using List.mem_rtakeWhile_imp hσ
        simp [hσ]

/-! ## Comments -/

/-- A text holds a block comment already if what is added to it has no slash. -/
theorem HoldsBlock.of_append {x t : List Char} (h : HoldsBlock (x ++ t)) (ht : '/' ∉ t) :
    HoldsBlock x := by
  obtain ⟨a, y, z, h⟩ := h
  have h : (a ++ '/' :: '*' :: (y ++ ['*', '/'])) ++ z = x ++ t := by simpa using h.symm
  -- the block ends with a slash, so nothing of it is in the text that was added
  obtain ⟨u, rfl, -⟩ := exists_append_of_getLast? (d := '/') h (by simp [List.getLast?_cons]) ht
  exact ⟨a, y, u, by simp⟩

/-- A text without slashes, dashes and hash signs adds no comment. -/
theorem HoldsComment.of_append {x t : List Char} (h : HoldsComment (x ++ t)) (hs : '/' ∉ t)
    (hd : '-' ∉ t) (hh : '#' ∉ t) : HoldsComment x := by
  rcases h with h | h | h
  · rcases pair_infix_append_iff.mp h with h | h | ⟨-, h⟩
    · exact .inl h
    · exact absurd (h.subset List.mem_cons_self) hd
    · exact absurd (List.mem_of_head? h) hd
  · exact .inr (.inl ((List.mem_append.mp h).resolve_right hh))
  · exact .inr (.inr (h.of_append hs))

/-! ## Stacked statements -/

/-- A text without a semicolon stacks nothing. -/
theorem stacksFrom_eq_false {q : Option Char} {s : List Char} (hs : ';' ∉ s) :
    stacksFrom q s = false := by
  fun_induction stacksFrom q s <;> simp_all

/-- Behind a semicolon that only blanks follow in `b` there is something more in `v`. -/
def GoesOn (b v : List Char) : Prop :=
  ∀ x y, b = x ++ ';' :: y → (∀ c ∈ y, isBlank c = true) → ∃ c ∈ v, isBlank c = false

theorem GoesOn.tail {c : Char} {b v : List Char} (h : GoesOn (c :: b) v) : GoesOn b v :=
  fun x y hx ↦ h (c :: x) y (by rw [hx]; rfl)

theorem ne_backslash {c : Char} {s : List Char} (hn : c = '\\' → s = [] → False)
    (hc : ∀ d t, c = '\\' → s = d :: t → False) : c ≠ '\\' := fun h ↦ by
  cases s with
  | nil => exact hn h rfl
  | cons d t => exact hc d t h rfl

/-- What the guard finds in front of a text without semicolons, it finds in front of any other that
keeps the last semicolon from being the end. -/
theorem stacksFrom_append_of_append {q : Option Char} {b t v : List Char} (ht : ';' ∉ t)
    (hb : GoesOn b v) (h : stacksFrom q (b ++ t) = true) : stacksFrom q (b ++ v) = true := by
  fun_induction stacksFrom q b with
  | case1 q => simp [stacksFrom_eq_false ht] at h
  | case2 q =>
    cases t with
    | nil => simp [stacksFrom] at h
    | cons d t => simp [stacksFrom, stacksFrom_eq_false fun h ↦ ht (List.mem_cons_of_mem d h)] at h
  | case3 q d b ih =>
    simp only [List.cons_append, stacksFrom] at h ⊢
    exact ih hb.tail.tail h
  | case4 c b hn hn' d ih =>
    rw [List.cons_append, stacksFrom_some_cons (ne_backslash hn hn')] at h ⊢
    exact ih hb.tail h
  | case5 c b _ _ hc ih =>
    rw [List.cons_append, stacksFrom_none_quote hc] at h ⊢
    exact ih hb.tail h
  | case6 b =>
    have ha : (b ++ v).any (!isBlank ·) = true := by
      by_cases hy : ∀ c ∈ b, isBlank c = true
      · obtain ⟨c, hc, hcb⟩ := hb [] b rfl hy
        exact List.any_eq_true.mpr ⟨c, List.mem_append_right b hc, by simp [hcb]⟩
      · simp only [not_forall, Bool.not_eq_true] at hy
        obtain ⟨c, hc, hcb⟩ := hy
        exact List.any_eq_true.mpr ⟨c, List.mem_append_left v hc, by simp [hcb]⟩
    rw [List.cons_append, stacksFrom_none_cons (by decide), ha]
    rfl
  | case7 c b hn hn' hq hc ih =>
    have hs : steers c = false := by
      rw [not_or] at hq
      simp [steers, hq, ne_backslash hn hn']
    rw [List.cons_append, stacksFrom_none_cons hs] at h ⊢
    simp only [hc, decide_false, Bool.false_and, Bool.false_or] at h ⊢
    exact ih hb.tail h

/-! ## Clauses -/

/-- A word at the beginning is there also if the text goes on otherwise behind a blank. -/
theorem exists_of_afterWord?_append {w : String} (hw : IsKeyword w) {a : Char}
    (ha : isBlank a = true) {u t x : List Char} (h : afterWord? w.toList (u ++ a :: t) = some x) :
    ∃ y, x = y ++ a :: t ∧ ∀ v, afterWord? w.toList (u ++ v) = some (y ++ v) := by
  obtain ⟨m, hm, hmw⟩ := exists_of_afterWord? h
  obtain ⟨c, rfl, hc⟩ | ⟨c, rfl, rfl⟩ := List.append_eq_append_iff.mp hm
  · cases c with
    | nil => exact ⟨[], hc.symm, fun v ↦ by simpa using afterWord?_append hmw v⟩
    | cons d c =>
      -- a keyword holds no blank
      obtain ⟨rfl, -⟩ := List.cons.inj hc
      have hk : keyLetter a ∈ w.toList := hmw ▸ List.mem_map_of_mem (by simp)
      rw [isBlank_of_isUpper_keyLetter (hw.2 _ hk)] at ha
      cases ha
  · exact ⟨c, rfl, fun v ↦ by rw [List.append_assoc, afterWord?_append hmw]⟩

/-- A text begins with no phrase if it does not begin with its first word. -/
theorem afterPhrase?_eq_none {w : String} {s : List Char} (h : afterWord? w.toList s = none)
    (ws : List String) : afterPhrase? (w :: ws) s = none := by
  cases ws with
  | nil => exact h
  | cons v ws => rw [afterPhrase?, h, Option.bind_none]; simp

/-- Where blanks end that reach up to a single one, or not so far. -/
theorem eq_or_of_append_eq_append {a : Char} (ha : isBlank a = true) {y t g z : List Char}
    (ht : ∀ c ∈ t.head?, isBlank c = false) (hg : ∀ c ∈ g, isBlank c = true)
    (hz : ∀ c ∈ z.head?, isBlank c = false) (h : y ++ a :: t = g ++ z) :
    z = t ∨ ∃ c, c ≠ [] ∧ y = g ++ c ∧ z = c ++ a :: t := by
  have hza (t : List Char) : z ≠ a :: t := by
    rintro rfl
    simp [ha] at hz
  obtain ⟨c, rfl, hc⟩ | ⟨c, rfl, rfl⟩ := List.append_eq_append_iff.mp h
  · cases c with
    | nil => exact absurd hc.symm (hza t)
    | cons d c =>
      obtain ⟨-, rfl⟩ := List.cons.inj hc
      cases c with
      | nil => exact .inl rfl
      | cons e c => exact absurd (hg e (by simp)) (by simpa using ht)
  · cases c with
    | nil => exact absurd rfl (hza t)
    | cons d c => exact .inr ⟨d :: c, by simp, rfl, rfl⟩

/-- A phrase that is found before a blank and a text which no word of it begins, is found there
whatever follows. -/
theorem exists_of_afterPhrase?_append {ws : List String} (hws : ∀ w ∈ ws, IsKeyword w) {a : Char}
    (ha : isBlank a = true) {u t x : List Char} (ht : ∀ w ∈ ws, afterWord? w.toList t = none)
    (hb : ∀ c ∈ t.head?, isBlank c = false) (h : afterPhrase? ws (u ++ a :: t) = some x) :
    ∃ y, x = y ++ a :: t ∧ ∀ v, afterPhrase? ws (u ++ v) = some (y ++ v) := by
  induction ws generalizing u x with
  | nil => exact ⟨u, by simpa [afterPhrase?] using h.symm, fun v ↦ rfl⟩
  | cons w ws ih =>
    have hw := hws w List.mem_cons_self
    cases ws with
    | nil => exact exists_of_afterWord?_append hw ha h
    | cons w' ws =>
      rw [afterPhrase?] at h
      · obtain ⟨r, hr, hrx⟩ := Option.bind_eq_some_iff.mp h
        obtain ⟨z, hz, hx⟩ := Option.bind_eq_some_iff.mp hrx
        obtain ⟨y, rfl, hy⟩ := exists_of_afterWord?_append hw ha hr
        obtain ⟨g, hg, hne, hgb, hzb⟩ := afterBlanks?_eq_some_iff.mp hz
        obtain rfl | ⟨c, hc, rfl, rfl⟩ := eq_or_of_append_eq_append ha hb hgb hzb hg
        · have hn := afterPhrase?_eq_none (ht w' (by simp)) ws
          rw [hn] at hx
          cases hx
        · obtain ⟨y', rfl, hy'⟩ := ih (fun w h ↦ hws w (by simp [h]))
            (fun w h ↦ ht w (by simp [h])) hx
          refine ⟨y', rfl, fun v ↦ ?_⟩
          have hcv : ∀ d ∈ (c ++ v).head?, isBlank d = false := by
            obtain ⟨d, c, rfl⟩ := List.exists_cons_of_ne_nil hc
            exact hzb
          rw [afterPhrase?, hy v, Option.bind_some, List.append_assoc,
            afterBlanks?_append hne hgb hcv, Option.bind_some, hy' v]
          simp
      · simp

/-- A phrase does not occur in a text if no end of it begins with the phrase. -/
theorem occursFrom_eq_false {ws : List String} {before : Option Char} {s : List Char}
    (h : ∀ y, y <:+ s → y ≠ [] → afterPhrase? ws y = none) : occursFrom ws before s = false := by
  induction s generalizing before with
  | nil => rfl
  | cons c s ih =>
    rw [occursFrom, h _ (List.suffix_refl _) (by simp),
      ih fun y hy ↦ h y (hy.trans (List.suffix_cons c s))]
    simp

/-- A phrase that occurs in front of a blank and a text which holds none of its words, occurs there
whatever follows that is no part of a word. -/
theorem occursFrom_append_of_append {ws : List String} (hws : ∀ w ∈ ws, IsKeyword w)
    (hne : ws ≠ []) {a : Char} (ha : isBlank a = true) {before : Option Char} {u t v : List Char}
    (ht : ∀ y, y <:+ t → ∀ w ∈ ws, afterWord? w.toList y = none)
    (hb : ∀ c ∈ t.head?, isBlank c = false) (hv : ∀ c ∈ v.head?, isWord c = false)
    (h : occursFrom ws before (u ++ a :: t) = true) : occursFrom ws before (u ++ v) = true := by
  induction u generalizing before with
  | nil =>
    obtain ⟨w, ws, rfl⟩ := List.exists_cons_of_ne_nil hne
    have hn : afterPhrase? (w :: ws) (a :: t) = none := by
      refine afterPhrase?_eq_none (Option.eq_none_iff_forall_ne_some.mpr fun x hx ↦ ?_) ws
      obtain ⟨y, -, hy⟩ := exists_of_afterWord?_append (u := []) (hws w List.mem_cons_self) ha hx
      have hl := length_afterWord? (hy [])
      simp only [List.length_append, List.length_nil, Nat.add_zero] at hl
      exact (hws w List.mem_cons_self).1 (List.eq_nil_of_length_eq_zero (by omega))
    rw [List.nil_append, occursFrom_eq_false] at h
    · cases h
    · intro y hy hyn
      rcases List.suffix_cons_iff.mp hy with rfl | hy
      · exact hn
      · exact afterPhrase?_eq_none (ht y hy w List.mem_cons_self) ws
  | cons c u ih =>
    rw [List.cons_append, occursFrom, Bool.or_eq_true, Bool.and_eq_true, Option.any_eq_true] at h ⊢
    refine h.imp (And.imp_right ?_) ih
    rintro ⟨x, hx, hw⟩
    obtain ⟨y, rfl, hy⟩ := exists_of_afterPhrase?_append (u := c :: u) hws ha
      (ht t (List.suffix_refl t)) hb hx
    refine ⟨y ++ v, hy v, ?_⟩
    cases y with
    | nil =>
      cases v with
      | nil => rfl
      | cons d v => simp [hv d rfl]
    | cons d y => exact hw

/-- A digit is no letter of a keyword. -/
theorem isUpper_keyLetter_of_isDigit {c : Char} (hc : c.isDigit = true) :
    (keyLetter c).isUpper = false := by
  unfold keyLetter
  split
  · exact absurd hc (by decide)
  · exact absurd hc (by decide)
  · exact absurd hc (by decide)
  · exact absurd hc (by decide)
  · refine Bool.eq_false_iff.mpr fun h ↦ ?_
    have ha := toNat_of_isAlpha (isAlpha_of_isUpper_toUpper h)
    have hd := toNat_of_isDigit hc
    omega

/-- A text that begins with no letter begins with no keyword. -/
theorem afterWord?_eq_none {w : String} (hw : IsKeyword w) {s : List Char}
    (hs : ∀ c ∈ s.head?, (keyLetter c).isUpper = false) : afterWord? w.toList s = none := by
  refine Option.eq_none_iff_forall_ne_some.mpr fun x hx ↦ ?_
  obtain ⟨m, rfl, hm⟩ := exists_of_afterWord? hx
  cases m with
  | nil => exact hw.1 hm.symm
  | cons c m => exact Bool.eq_false_iff.mp (hs c rfl) (hw.2 _ (hm ▸ List.mem_cons_self))

/-- No word of a clause begins in a limit. -/
theorem afterWord?_eq_none_of_suffix {n : Int} (hn : 1 ≤ n) {ws : List String}
    (hws : ws ∈ dangerousClauses) {w : String} (hw : w ∈ ws) {y : List Char}
    (hy : y <:+ "LIMIT ".toList ++ (toString n).toList) : afterWord? w.toList y = none := by
  have hk := isKeyword_of_mem_dangerousClauses ws hws w hw
  have hl (d : List Char) : ∀ ws ∈ dangerousClauses, ∀ w ∈ ws,
      afterWord? w.toList ('L' :: 'I' :: d) = none ∧ afterWord? w.toList ('I' :: 'M' :: d) = none ∧
      afterWord? w.toList ('M' :: 'I' :: d) = none ∧ afterWord? w.toList ('I' :: 'T' :: d) = none ∧
      afterWord? w.toList ('T' :: d) = none := by
    simp [dangerousClauses, afterWord?, keyLetter]
  have hl (d : List Char) := hl d ws hws w hw
  change y <:+ 'L' :: 'I' :: 'M' :: 'I' :: 'T' :: ' ' :: _ at hy
  simp only [List.suffix_cons_iff] at hy
  rcases hy with rfl | rfl | rfl | rfl | rfl | rfl | hy
  · exact (hl _).1
  · exact (hl _).2.1
  · exact (hl _).2.2.1
  · exact (hl _).2.2.2.1
  · exact (hl _).2.2.2.2
  · exact afterWord?_eq_none hk (by simp [keyLetter])
  · refine afterWord?_eq_none hk fun c hc ↦ isUpper_keyLetter_of_isDigit ?_
    exact isDigit_of_mem_toString hn (hy.subset (List.mem_of_head? hc))

/-- A clause that occurs in a query with a limit, occurs in the query. -/
theorem Terminates.occurs {s v : List Char} (hv : Terminates s v) {n : Int} (hn : 1 ≤ n)
    {ws : List String} (hws : ws ∈ dangerousClauses)
    (h : occurs ws (dropTerminator s ++ limitClause n) = true) : occurs ws s = true := by
  have hne : ∀ ws ∈ dangerousClauses, ws ≠ [] := by decide
  have hvw : ∀ c ∈ v.head?, isWord c = false := by
    intro c hc
    rcases hv.isBlank_or c (List.mem_of_head? hc) with h | rfl
    · exact isWord_of_isBlank h
    · decide
  rw [hv.text]
  exact occursFrom_append_of_append (isKeyword_of_mem_dangerousClauses ws hws) (hne ws hws)
    (a := ' ') (by decide) (fun y hy w hw ↦ afterWord?_eq_none_of_suffix hn hws hw hy)
    (by rintro c ⟨⟩; decide) hvw h

/-! ## All rules -/

/-- A semicolon that `dropTerminator` leaves at the end had another one behind it. -/
theorem Terminates.goesOn {s v : List Char} (hv : Terminates s v) :
    GoesOn (dropTerminator s) v := by
  intro x y hx hy
  rcases List.eq_nil_or_concat y with rfl | ⟨y, c, rfl⟩
  · exact ⟨';', hv.semicolon (by simp [hx]), by decide⟩
  · have hc := hv.isBlank_last c (by simp [hx, List.getLast?_cons])
    rw [hy c (by simp)] at hc
    cases hc

/-- A query that is given a limit opens as before. -/
theorem Terminates.opensWith {s v : List Char} (hv : Terminates s v) {w : String}
    (hw : IsKeyword w) (ho : OpensWith w s) (n : Int) :
    OpensWith w (dropTerminator s ++ limitClause n) := by
  obtain ⟨m, b, t, hs, hm, hb⟩ := (opensWith_iff hw).mp ho
  refine (opensWith_iff hw).mpr ?_
  have hsv := hv.text.symm.trans hs
  obtain ⟨c, rfl, hc⟩ | ⟨c, hd, hc⟩ := List.append_eq_append_iff.mp hsv
  · cases c with
    | nil => exact ⟨dropTerminator s, ' ', _, rfl, by simpa using hm, by decide⟩
    | cons d c =>
      -- a keyword holds neither blanks nor semicolons
      have hu : (keyLetter d).isUpper = true := hw.2 _ (hm ▸ List.mem_map_of_mem (by simp))
      rcases hv.isBlank_or d (by simp [hc]) with h | rfl
      · rw [isBlank_of_isUpper_keyLetter hu] at h
        cases h
      · exact absurd hu (by decide)
  · cases c with
    | nil => exact ⟨m, ' ', _, by rw [hd, List.append_nil]; rfl, hm, by decide⟩
    | cons d c =>
      obtain ⟨rfl, -⟩ := List.cons.inj hc
      exact ⟨m, b, c ++ limitClause n, by simp [hd], hm, hb⟩

/-- The limit that applies is positive if those that are configured and asked for are. -/
theorem one_le_effectiveLimit {m : Int} {asked : Option Int} (hm : 1 ≤ m)
    (ha : ∀ n ∈ asked, 1 ≤ n) : 1 ≤ effectiveLimit m asked := by
  cases asked with
  | none => exact hm
  | some n =>
    have hn := ha n rfl
    rw [effectiveLimit, if_neg (by omega)]
    exact hn

/-- A query that is admitted as it is, is so with a limit. -/
theorem screen_limitRows {s : List Char} (hs : screen s = .ok s) {m : Int} {asked : Option Int}
    (hm : 1 ≤ m) (ha : ∀ n ∈ asked, 1 ≤ n) :
    screen (limitRows s (effectiveLimit m asked)).query =
      .ok (limitRows s (effectiveLimit m asked)).query := by
  cases hu : isUncapped s with
  | false => rwa [limitRows_of_not_isUncapped hu]
  | true =>
    have hn := one_le_effectiveLimit hm ha
    generalize effectiveLimit m asked = n at hn
    have hr : (limitRows s n).query = dropTerminator s ++ limitClause n := by
      rw [limitRows, if_pos hu, append_limitClause]
    have hw : IsKeyword "SELECT" := by simp [IsKeyword]
    have ht := isTrimmed_of_screen hs
    obtain ⟨v, hv⟩ := exists_terminates ht
    have ho : OpensWith "SELECT" s :=
      (accepts_iff_opensWith hw (trimLeft_eq_self ht)).mp ((Bool.and_eq_true ..).mp hu).2
    have hor := hv.opensWith hw ho n
    have htr : IsTrimmed (dropTerminator s ++ limitClause n) := by
      refine hor.isTrimmed hw fun c hc ↦ isBlank_of_isDigit (isDigit_of_mem_toString hn ?_)
      rw [append_limitClause, List.getLast?_append_of_ne_nil _ (toString_ne_nil hn)] at hc
      exact List.mem_of_getLast? hc
    have hc : ¬ HoldsComment (dropTerminator s ++ limitClause n) := fun h ↦ by
      have hb := h.of_append (not_mem_limitClause hn (by decide) (by decide))
        (not_mem_limitClause hn (by decide) (by decide))
        (not_mem_limitClause hn (by decide) (by decide))
      have hs' := removeComments_eq_self_iff.mp ((screen_self_iff hs).mp hs)
      exact hs' (hb.of_isInfix ⟨[], v, hv.text.symm⟩)
    have hset {s : List Char} (h : OpensWith "SELECT" s) : ¬ OpensWith "SET" s := fun h' ↦
      absurd (h.unique h') (by decide)
    obtain ⟨-, -, hcl, hst⟩ := (rejection?_eq_none_iff_of_not_set (trimLeft_eq_self ht)
      (hset ho)).mp (rejection?_of_screen hs)
    rw [hr, screen_eq_ok_iff, normalize_eq_self htr (removeComments_eq_self_iff.mpr hc),
      and_iff_right rfl, rejection?_eq_none_iff_of_not_set (trimLeft_eq_self htr) (hset hor)]
    refine ⟨List.append_ne_nil_of_right_ne_nil _ (List.cons_ne_nil ' ' _),
      ⟨"SELECT", by decide, hor⟩, fun ws hws ↦ Bool.eq_false_iff.mpr fun h ↦ ?_,
      Bool.eq_false_iff.mpr fun h ↦ ?_⟩
    · exact Bool.eq_false_iff.mp (hcl ws hws) (hv.occurs hn hws h)
    · have h := stacksFrom_append_of_append (not_mem_limitClause hn (by decide) (by decide))
        hv.goesOn h
      rw [← hv.text] at h
      exact Bool.eq_false_iff.mp hst h

/-- The semicolons at the end stand in a literal that is never closed, and are taken all the same.
-/
theorem screen_limitRows_open_literal :
    screen "SELECT 1 AS a\\', ';;".toList = .ok "SELECT 1 AS a\\', ';;".toList ∧
      1 ≤ (1000 : Int) ∧ (∀ n ∈ some (7 : Int), 1 ≤ n) ∧
      screen "SELECT 1 AS a\\', ' LIMIT 7".toList = .ok "SELECT 1 AS a\\', ' LIMIT 7".toList := by
  have hs : screen "SELECT 1 AS a\\', ';;".toList = .ok "SELECT 1 AS a\\', ';;".toList :=
    screen_eq_ok_iff.mpr ⟨by decide +kernel, by decide +kernel⟩
  have ha : ∀ n ∈ some (7 : Int), 1 ≤ n := by rintro n ⟨⟩; decide
  have hr : (limitRows "SELECT 1 AS a\\', ';;".toList (effectiveLimit 1000 (some 7))).query =
      "SELECT 1 AS a\\', ' LIMIT 7".toList := by decide +kernel
  have hm : 1 ≤ (1000 : Int) := by decide
  exact ⟨hs, hm, ha, hr ▸ screen_limitRows hs hm ha⟩

end Sluice.Query
