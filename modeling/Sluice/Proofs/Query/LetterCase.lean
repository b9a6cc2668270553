import Mathlib
import Sluice.Proofs.Query.Capped
import Sluice.Tool.Limit

/-!
# Queries that differ in letter case alone

Nothing that is done to a query depends on the case of its ASCII letters.  Each function that a
query goes through commutes with writing them small (`*_map_toLower`), so two queries that are the
same in small letters have the same fate (`screen_sameButCase`).
-/

namespace Sluice.Text

/-- A character that is no letter of ASCII has no other case. -/
theorem toLower_of_isAlpha_eq_false {c : Char} (hc : c.isAlpha = false) : c.toLower = c := by
  refine Char.toLower_eq_of_not_isUpper ?_
  rw [Char.isAlpha, Bool.or_eq_false_iff] at hc
  simp [hc.1]

/-- A sign is no letter in another case. -/
theorem toLower_eq_iff {c d : Char} (hd : d.isAlpha = false) : c.toLower = d ↔ c = d := by
  constructor
  · rintro rfl
    rw [Char.isAlpha_toLower_eq_isAlpha] at hd
    exact (toLower_of_isAlpha_eq_false hd).symm
  · rintro rfl
    exact toLower_of_isAlpha_eq_false hd

/-- What is the same for all letters does not depend on their case. -/
theorem apply_toLower_of_isAlpha {α : Type} {f : Char → α} {a : α}
    (h : ∀ c : Char, c.isAlpha = true → f c = a) (c : Char) : f c.toLower = f c := by
  cases hc : c.isAlpha with
  | true => rw [h c hc, h c.toLower (by rwa [Char.isAlpha_toLower_eq_isAlpha])]
  | false => rw [toLower_of_isAlpha_eq_false hc]

/-- The case of a letter does not make it a blank. -/
@[simp] theorem isBlank_toLower (c : Char) : isBlank c.toLower = isBlank c :=
  apply_toLower_of_isAlpha (fun _ ↦ Query.isBlank_of_isAlpha) c

/-- A letter is part of a word. -/
theorem isWord_of_isAlpha {c : Char} (hc : c.isAlpha = true) : isWord c = true := by
  have hn := Query.toNat_of_isAlpha hc
  rw [isWord, if_pos (by omega), Char.isAlphanum, hc]
  rfl

/-- Nor does the case of a letter end a word. -/
@[simp] theorem isWord_toLower (c : Char) : isWord c.toLower = isWord c :=
  apply_toLower_of_isAlpha (fun _ ↦ isWord_of_isAlpha) c

/-- Apart from the digits of ASCII none is near the letters. -/
theorem isDecimalDigit_of_isAlpha {c : Char} (hc : c.isAlpha = true) :
    isDecimalDigit c = false := by
  have hz : ∀ z ∈ zeros, z + 10 ≤ 65 ∨ 122 < z := by decide
  have hn := Query.toNat_of_isAlpha hc
  rw [isDecimalDigit, digitValue?, Option.isSome_map, List.find?_eq_none.mpr]
  · rfl
  · intro z h
    have := hz z h
    simp only [Bool.and_eq_true, decide_eq_true_eq]
    omega

@[simp] theorem isDecimalDigit_toLower (c : Char) : isDecimalDigit c.toLower = isDecimalDigit c :=
  apply_toLower_of_isAlpha (fun _ ↦ isDecimalDigit_of_isAlpha) c

/-- Blanks are trimmed whatever the case of the rest. -/
@[simp] theorem trimLeft_map_toLower (s : List Char) :
    trimLeft (s.map Char.toLower) = (trimLeft s).map Char.toLower := by
  rw [trimLeft, List.dropWhile_map, trimLeft]
  congr 2
  funext c
  exact isBlank_toLower c

@[simp] theorem trimRight_map_toLower (s : List Char) :
    trimRight (s.map Char.toLower) = (trimRight s).map Char.toLower := by
  have h := trimLeft_map_toLower s.reverse
  rw [trimLeft, trimLeft] at h
  rw [trimRight, ← List.map_reverse, h, ← List.map_reverse, trimRight]

@[simp] theorem trim_map_toLower (s : List Char) :
    trim (s.map Char.toLower) = (trim s).map Char.toLower := by
  rw [trim, trimLeft_map_toLower, trimRight_map_toLower, trim]

/-- A word ends where it does in either case. -/
@[simp] theorem isBoundary_map_toLower (b c : Option Char) :
    isBoundary (b.map Char.toLower) (c.map Char.toLower) = isBoundary b c := by
  cases b <;> cases c <;> simp [isBoundary]

end Sluice.Text

namespace Sluice.Query

open Text

/-- A sign stands at the beginning of a text in either case. -/
theorem head?_map_toLower_eq_some_iff {d : Char} (hd : d.isAlpha = false) {s : List Char} :
    (s.map Char.toLower).head? = some d ↔ s.head? = some d := by
  cases s with
  | nil => simp
  | cons c s => simp [toLower_eq_iff hd]

/-! ## Comments -/

/-- Comments behind dashes are dropped in either case. -/
theorem dropDashComments_map_toLower (inside : Bool) (s : List Char) :
    dropDashComments inside (s.map Char.toLower) =
      (dropDashComments inside s).map Char.toLower := by
  fun_induction dropDashComments inside s with
  | case1 => rfl
  | case2 _ s ih => exact congrArg ('\n' :: ·) ih
  | case3 c s hc ih =>
    rw [← ih, List.map_cons, dropDashComments, if_pos rfl]
    exact fun h ↦ hc ((toLower_eq_iff (by decide)).mp h)
  | case4 inside c s hc hi hd ih =>
    rw [← ih, List.map_cons, dropDashComments, if_neg hi, if_pos]
    · exact ⟨(toLower_eq_iff (by decide)).mpr hd.1,
        (head?_map_toLower_eq_some_iff (by decide)).mpr hd.2⟩
    · exact fun h ↦ hc ((toLower_eq_iff (by decide)).mp h)
  | case5 inside c s hc hi hd ih =>
    rw [List.map_cons, List.map_cons, ← ih, dropDashComments, if_neg hi, if_neg]
    · exact fun h ↦ hd ⟨(toLower_eq_iff (by decide)).mp h.1,
        (head?_map_toLower_eq_some_iff (by decide)).mp h.2⟩
    · exact fun h ↦ hc ((toLower_eq_iff (by decide)).mp h)

/-- Comments behind a hash are dropped in either case. -/
theorem dropHashComments_map_toLower (inside : Bool) (s : List Char) :
    dropHashComments inside (s.map Char.toLower) =
      (dropHashComments inside s).map Char.toLower := by
  fun_induction dropHashComments inside s with
  | case1 => rfl
  | case2 _ s ih => exact congrArg ('\n' :: ·) ih
  | case3 c s hc ih =>
    rw [← ih, List.map_cons, dropHashComments, if_pos rfl]
    exact fun h ↦ hc ((toLower_eq_iff (by decide)).mp h)
  | case4 inside s hi hc ih =>
    rw [← ih, List.map_cons, dropHashComments, if_neg hi, if_pos (by decide)]
    decide
  | case5 inside c s hc hi hd ih =>
    rw [List.map_cons, List.map_cons, ← ih, dropHashComments, if_neg hi, if_neg]
    · exact fun h ↦ hd ((toLower_eq_iff (by decide)).mp h)
    · exact fun h ↦ hc ((toLower_eq_iff (by decide)).mp h)

/-- Two signs stand at the beginning of a text in either case. -/
theorem eq_cons_of_map_toLower_cons {d e c : Char} (hd : d.isAlpha = false) (he : e.isAlpha = false)
    {s : List Char} (h : ∀ t, c = d → s = e :: t → False) :
    ∀ t, c.toLower = d → s.map Char.toLower = e :: t → False := by
  intro t hc hs
  obtain ⟨b, u, rfl, hb, -⟩ := List.map_eq_cons_iff.mp hs
  exact h u ((toLower_eq_iff hd).mp hc) (by rw [(toLower_eq_iff he).mp hb])

/-- A comment is closed in either case. -/
theorem afterClose?_map_toLower (s : List Char) :
    afterClose? (s.map Char.toLower) = (afterClose? s).map (List.map Char.toLower) := by
  fun_induction afterClose? s with
  | case1 s => rfl
  | case2 c s h ih =>
    rw [List.map_cons, afterClose?, ih]
    exact eq_cons_of_map_toLower_cons (by decide) (by decide) h
  | case3 => rfl

/-- Comments in blocks are dropped in either case. -/
theorem dropBlockComments_map_toLower (s : List Char) :
    dropBlockComments (s.map Char.toLower) = (dropBlockComments s).map Char.toLower := by
  fun_induction dropBlockComments s with
  | case1 s t h ih =>
    rw [← ih]
    refine dropBlockComments_of_afterClose? ?_
    rw [afterClose?_map_toLower, h]
    rfl
  | case2 s h ih =>
    have hn : afterClose? (s.map Char.toLower) = none := by
      rw [afterClose?_map_toLower, h]
      rfl
    change dropBlockComments ('/' :: '*' :: s.map Char.toLower) =
      '/' :: (dropBlockComments ('*' :: s)).map Char.toLower
    rw [← ih, dropBlockComments]
    split
    · simp_all
    · rfl
  | case3 c s h ih =>
    rw [List.map_cons, List.map_cons, ← ih, dropBlockComments]
    exact eq_cons_of_map_toLower_cons (by decide) (by decide) h
  | case4 => simp

/-- Comments do not depend on letter case. -/
theorem normalize_map_toLower (s : List Char) :
    normalize (s.map Char.toLower) = (normalize s).map Char.toLower := by
  rw [normalize, removeComments, dropDashComments_map_toLower, dropBlockComments_map_toLower,
    dropHashComments_map_toLower, trim_map_toLower, ← removeComments, ← normalize]

/-! ## Phrases -/

/-- The letters of key words are compared without their case. -/
@[simp] theorem keyLetter_toLower (c : Char) : keyLetter c.toLower = keyLetter c := by
  cases hc : c.isAlpha with
  | true =>
    rw [keyLetter_of_isAlpha hc, keyLetter_of_isAlpha (by rwa [Char.isAlpha_toLower_eq_isAlpha]),
      Char.toUpper_toLower_eq_toUpper]
  | false => rw [toLower_of_isAlpha_eq_false hc]

/-- A key word is read in either case. -/
theorem afterWord?_map_toLower (w s : List Char) :
    afterWord? w (s.map Char.toLower) = (afterWord? w s).map (List.map Char.toLower) := by
  fun_induction afterWord? w s with
  | case1 s => simp
  | case2 => rfl
  | case3 w c s ih => simp [afterWord?, ih]
  | case4 k w c s h => simp [afterWord?, h]

/-- Blanks are read whatever the case of the rest. -/
theorem afterBlanks?_map_toLower (s : List Char) :
    afterBlanks? (s.map Char.toLower) = (afterBlanks? s).map (List.map Char.toLower) := by
  cases s with
  | nil => rfl
  | cons c s => cases h : isBlank c <;> simp [afterBlanks?, h]

/-- Blanks behind what was read are read whatever the case of the rest. -/
theorem bind_afterBlanks?_map_toLower (o : Option (List Char)) :
    (o.map (List.map Char.toLower)).bind afterBlanks? =
      (o.bind afterBlanks?).map (List.map Char.toLower) := by
  cases o with
  | none => rfl
  | some t => exact afterBlanks?_map_toLower t

/-- A phrase of key words is read in either case. -/
theorem afterPhrase?_map_toLower (ws : List String) (s : List Char) :
    afterPhrase? ws (s.map Char.toLower) = (afterPhrase? ws s).map (List.map Char.toLower) := by
  induction ws generalizing s with
  | nil => rfl
  | cons w ws ih =>
    cases ws with
    | nil => exact afterWord?_map_toLower w.toList s
    | cons v ws =>
      have hn : v :: ws = [] → False := by simp
      rw [afterPhrase?.eq_3 _ _ _ hn, afterPhrase?.eq_3 _ _ _ hn, afterWord?_map_toLower]
      cases afterWord? w.toList s with
      | none => rfl
      | some t =>
        rw [Option.map_some, Option.bind_some, Option.bind_some, afterBlanks?_map_toLower]
        cases afterBlanks? t with
        | none => rfl
        | some u => exact ih u

/-- A phrase occurs in either case. -/
theorem occursFrom_map_toLower (ws : List String) (before : Option Char) (s : List Char) :
    occursFrom ws (before.map Char.toLower) (s.map Char.toLower) = occursFrom ws before s := by
  induction s generalizing before with
  | nil => rfl
  | cons c s ih =>
    have hb := isBoundary_map_toLower before (some c)
    have hp := afterPhrase?_map_toLower ws (c :: s)
    have hs := ih (some c)
    rw [Option.map_some] at hb hs
    rw [List.map_cons] at hp
    rw [List.map_cons, occursFrom, occursFrom, hb, hp, hs, Option.any_map]
    congr 3
    funext t
    cases t <;> simp

/-! ## Rules -/

/-- The opening of a rule is read in either case. -/
theorem Opening.after?_map_toLower (ω : Opening) (s : List Char) :
    ω.after? (s.map Char.toLower) = (ω.after? s).map (List.map Char.toLower) := by
  rw [after?, trimLeft_map_toLower, afterPhrase?_map_toLower, after?]

/-- A blank comes next in either case. -/
theorem head?_any_isBlank_map_toLower (s : List Char) :
    (s.map Char.toLower).head?.any isBlank = s.head?.any isBlank := by
  cases s <;> simp

/-- A rule takes a text in either case. -/
theorem Opening.accepts_map_toLower (ω : Opening) (s : List Char) :
    ω.accepts (s.map Char.toLower) = ω.accepts s := by
  rw [accepts, after?_map_toLower, Option.any_map, accepts]
  congr 1
  funext t
  rw [head?_any_isBlank_map_toLower]

/-- An at sign stands on a line in either case. -/
theorem lineHasAt_map_toLower (s : List Char) :
    lineHasAt (s.map Char.toLower) = lineHasAt s := by
  have hn : (fun c : Char ↦ decide (c ≠ '\n')) ∘ Char.toLower = fun c ↦ decide (c ≠ '\n') := by
    funext c
    simp [toLower_eq_iff (d := '\n') (by decide)]
  rw [lineHasAt, List.takeWhile_map, hn, Bool.eq_iff_iff, List.contains_iff_mem, lineHasAt,
    List.contains_iff_mem, List.mem_map]
  simp [toLower_eq_iff (d := '@') (by decide)]

/-- The line loses its at sign behind the blanks in either case. -/
theorem losesAt_map_toLower (s : List Char) : losesAt (s.map Char.toLower) = losesAt s := by
  induction s with
  | nil => rfl
  | cons c s ih => rw [List.map_cons, losesAt, isBlank_toLower, lineHasAt_map_toLower, ih, losesAt]

/-- The server is set in either case. -/
theorem setsServer_map_toLower (s : List Char) :
    setsServer (s.map Char.toLower) = setsServer s := by
  rw [setsServer, Opening.after?_map_toLower, Option.any_map, setsServer]
  congr 1
  funext t
  exact losesAt_map_toLower t

/-- A session is set in either case. -/
theorem setsSession_map_toLower (s : List Char) :
    setsSession (s.map Char.toLower) = setsSession s := by
  rw [setsSession, Opening.after?_map_toLower, bind_afterBlanks?_map_toLower, Option.any_map,
    setsSession]
  congr 1
  funext t
  rw [Bool.eq_iff_iff, beq_iff_eq, beq_iff_eq]
  exact head?_map_toLower_eq_some_iff (by decide)

/-- The same opening is refused in either case. -/
theorem refusedOpening?_map_toLower (s : List Char) :
    refusedOpening? (s.map Char.toLower) = refusedOpening? s := by
  simp only [refusedOpening?, Opening.accepts_map_toLower, setsServer_map_toLower]

/-- The same texts are allowed in either case. -/
theorem isAllowed_map_toLower (s : List Char) :
    isAllowed (s.map Char.toLower) = isAllowed s := by
  simp only [isAllowed, Opening.accepts_map_toLower, setsSession_map_toLower]

/-- The same dangerous clause is found in either case. -/
theorem dangerousClause?_map_toLower (s : List Char) :
    dangerousClause? (s.map Char.toLower) = dangerousClause? s := by
  have ho (ws : List String) : occurs ws (s.map Char.toLower) = occurs ws s :=
    occursFrom_map_toLower ws none s
  simp only [dangerousClause?, ho]

/-- The sign that opened the quotes is no letter. -/
theorem stacksFrom_map_toLower {q : Option Char} (hq : ∀ d ∈ q, d.isAlpha = false)
    (s : List Char) : stacksFrom q (s.map Char.toLower) = stacksFrom q s := by
  fun_induction stacksFrom q s with
  | case1 q => simp
  | case2 q => rfl
  | case3 q c s ih =>
    change stacksFrom q ('\\' :: c.toLower :: s.map Char.toLower) = _
    rw [stacksFrom, ih hq]
  | case4 c s hn hc d ih =>
    have hd := hq d rfl
    have hb : c.toLower ≠ '\\' := fun h ↦ ne_backslash hn hc ((toLower_eq_iff (by decide)).mp h)
    rw [List.map_cons, stacksFrom_some_cons hb, ← ih]
    · simp [toLower_eq_iff hd]
    · intro e he
      split at he <;> simp_all
  | case5 c s hn hc h ih =>
    have hl : c.toLower = c := (toLower_eq_iff (by rcases h with rfl | rfl <;> decide)).mpr rfl
    rw [List.map_cons, hl, stacksFrom_none_quote h, ih]
    rintro e ⟨⟩
    rcases h with rfl | rfl <;> decide
  | case6 s _ _ _ ih =>
    rw [List.map_cons, show Char.toLower ';' = ';' by decide, stacksFrom_none_cons (by decide), ih hq,
      List.any_map]
    simp [Function.comp_def]
  | case7 c s hn hc h hs ih =>
    have he : steers c.toLower = false := by
      rw [not_or] at h
      simp [steers, toLower_eq_iff, h, ne_backslash hn hc]
    rw [List.map_cons, stacksFrom_none_cons he, ih hq]
    simp [toLower_eq_iff, hs]

/-- Statements are stacked in either case. -/
theorem isStacked_map_toLower (s : List Char) :
    isStacked (s.map Char.toLower) = isStacked s :=
  stacksFrom_map_toLower (by simp) s

/-- The same fault is found in either case. -/
theorem rejection?_map_toLower (s : List Char) :
    rejection? (s.map Char.toLower) = rejection? s := by
  simp only [rejection?, List.isEmpty_map, refusedOpening?_map_toLower, isAllowed_map_toLower,
    dangerousClause?_map_toLower, isStacked_map_toLower]

/-- A query in lower case is judged as the query, and what is left of it is the same. -/
theorem screen_map_toLower (s : List Char) :
    screen (s.map Char.toLower) = (screen s).map (List.map Char.toLower) := by
  rw [screen, normalize_map_toLower, rejection?_map_toLower, screen]
  cases rejection? (normalize s) <;> rfl

/-! ## Limits -/

/-- A limit is named in either case. -/
theorem namesLimitFrom_map_toLower (before : Option Char) (s : List Char) :
    namesLimitFrom (before.map Char.toLower) (s.map Char.toLower) = namesLimitFrom before s := by
  induction s generalizing before with
  | nil => rfl
  | cons c s ih =>
    have hb := isBoundary_map_toLower before (some c)
    have hw := afterWord?_map_toLower "LIMIT".toList (c :: s)
    have hs := ih (some c)
    rw [Option.map_some] at hb hs
    rw [List.map_cons] at hw
    rw [List.map_cons, namesLimitFrom, namesLimitFrom, hb, hw, hs, bind_afterBlanks?_map_toLower,
      Option.any_map]
    congr 3
    funext u
    cases u <;> simp

/-- A text is without a cap in either case. -/
theorem isUncapped_map_toLower (s : List Char) :
    isUncapped (s.map Char.toLower) = isUncapped s := by
  have hn : namesLimit (s.map Char.toLower) = namesLimit s := namesLimitFrom_map_toLower none s
  rw [isUncapped, hn, isSelect, Opening.accepts_map_toLower, isUncapped, isSelect]

/-- The semicolon at the end is dropped in either case. -/
theorem dropTerminator_map_toLower (s : List Char) :
    dropTerminator (s.map Char.toLower) = (dropTerminator s).map Char.toLower := by
  have hs : (fun c : Char ↦ decide (c = ';')) ∘ Char.toLower = fun c ↦ decide (c = ';') := by
    funext c
    simp [toLower_eq_iff (d := ';') (by decide)]
  rw [dropTerminator, trimRight_map_toLower, ← List.map_reverse, List.dropWhile_map, hs,
    ← List.map_reverse, trimRight_map_toLower, dropTerminator]

/-! ## Two queries -/

/-- Texts of one length that differ, place by place, in the case of ASCII letters at most. -/
def SameButCase (s t : List Char) : Prop :=
  List.Forall₂ (fun c d ↦ c.beqCaseInsensitiveAsciiOnly d = true) s t

/-- Two texts are the same but for their case if they are so in lower case. -/
theorem sameButCase_iff {s t : List Char} :
    SameButCase s t ↔ s.map Char.toLower = t.map Char.toLower := by
  rw [← List.forall₂_eq_eq_eq, List.forall₂_map_left_iff, List.forall₂_map_right_iff, SameButCase]
  simp [Char.beqCaseInsensitiveAsciiOnly]

instance (s t : List Char) : Decidable (SameButCase s t) :=
  decidable_of_iff' _ sameButCase_iff

/-- The same fault twice, or two results that are related. -/
inductive SameOutcome {ε α : Type} (r : α → α → Prop) : Except ε α → Except ε α → Prop
  | error (χ : ε) : SameOutcome r (.error χ) (.error χ)
  | ok {a b : α} (h : r a b) : SameOutcome r (.ok a) (.ok b)

/-- What goes well with one text goes well with the other. -/
theorem SameOutcome.exists_ok {ε α : Type} {r : α → α → Prop} {a : α} {o : Except ε α}
    (h : SameOutcome r (.ok a) o) : ∃ b, o = .ok b ∧ r a b := by
  cases h with
  | ok h => exact ⟨_, rfl, h⟩

/-- Outcomes that agree in what `f` keeps of a result. -/
theorem sameOutcome_of_map_eq {ε α β : Type} {r : α → α → Prop} {f : α → β}
    (hr : ∀ {a b}, f a = f b → r a b) {o p : Except ε α} (h : o.map f = p.map f) :
    SameOutcome r o p := by
  cases o with
  | error χ =>
    cases p with
    | error ψ =>
      obtain rfl : χ = ψ := Except.error.inj h
      exact .error χ
    | ok b => cases h
  | ok a =>
    cases p with
    | error ψ => cases h
    | ok b => exact .ok (hr (Except.ok.inj h))

/-- Queries with the same limit, if any, that differ in letter case at most. -/
structure LimitedQuery.SameButCase (κ μ : LimitedQuery) : Prop where
  appliedLimit : κ.appliedLimit = μ.appliedLimit
  query : Query.SameButCase κ.query μ.query

/-- Of two texts that are the same but for their case both are capped or none. -/
theorem SameButCase.isUncapped_eq {s t : List Char} (h : SameButCase s t) :
    isUncapped s = isUncapped t := by
  rw [← isUncapped_map_toLower, sameButCase_iff.mp h, isUncapped_map_toLower]

/-- Two texts that are the same but for their case are capped to such texts. -/
theorem limitRows_sameButCase {s t : List Char} (h : SameButCase s t) (n : Int) :
    (limitRows s n).SameButCase (limitRows t n) := by
  have hd : (dropTerminator s).map Char.toLower = (dropTerminator t).map Char.toLower := by
    rw [← dropTerminator_map_toLower, sameButCase_iff.mp h, dropTerminator_map_toLower]
  rw [limitRows, limitRows, h.isUncapped_eq]
  split
  · exact ⟨rfl, sameButCase_iff.mpr (by simp only [List.map_append, hd])⟩
  · exact ⟨rfl, h⟩

/-- Limits of any kind treat such texts alike. -/
theorem capRows_sameButCase {s t : List Char} (h : SameButCase s t) (maxRows limit : Value) :
    SameOutcome LimitedQuery.SameButCase (Tool.capRows s maxRows limit)
      (Tool.capRows t maxRows limit) := by
  rw [Tool.capRows, Tool.capRows, h.isUncapped_eq]
  split
  · cases (if limit.isTruthy then limit else maxRows).toInteger with
    | error ε => exact .error ε
    | ok n =>
      change SameOutcome _ (Tool.capAt s n) (Tool.capAt t n)
      rw [Tool.capAt, Tool.capAt]
      split
      · exact .ok (limitRows_sameButCase h n)
      · exact .error _
  · exact .ok ⟨rfl, h⟩

/-- Two queries that differ in letter case at most are both admitted or both refused for the same
reason.  What is admitted of them differs in letter case at most, and so does what is left of it
whatever limit is asked for; a limit that one of them is given, the other is given as well. -/
theorem screen_sameButCase {q p : List Char} (h : SameButCase q p) :
    SameOutcome (fun s t ↦ SameButCase s t ∧ ∀ maxRows limit : Value,
      SameOutcome LimitedQuery.SameButCase (Tool.capRows s maxRows limit)
        (Tool.capRows t maxRows limit)) (screen q) (screen p) := by
  have hm : (screen q).map (List.map Char.toLower) = (screen p).map (List.map Char.toLower) := by
    rw [← screen_map_toLower, sameButCase_iff.mp h, screen_map_toLower]
  refine sameOutcome_of_map_eq (fun hst ↦ ?_) hm
  have h := sameButCase_iff.mpr hst
  exact ⟨h, capRows_sameButCase h⟩

/-- Two spellings of a query with words, a string, a name and a comment in other letters.  Signs
beyond ASCII are the same in both, and both are given the same limit. -/
theorem screen_sameButCase_long_s :
    SameButCase "ſelect 'a;Ü', `b` /* LIMIT 5 */ from T -- x\n;".toList
        "ſELECT 'A;Ü', `B` /* limit 5 */ FROM t -- X\n;".toList ∧
      ∃ t κ, screen "ſELECT 'A;Ü', `B` /* limit 5 */ FROM t -- X\n;".toList = .ok t ∧
        SameButCase "ſelect 'a;Ü', `b`  from T \n;".toList t ∧
        Tool.capRows t (.int 1000) (.int 7) = .ok κ ∧ κ.appliedLimit = some 7 := by
  have hq : SameButCase "ſelect 'a;Ü', `b` /* LIMIT 5 */ from T -- x\n;".toList
      "ſELECT 'A;Ü', `B` /* limit 5 */ FROM t -- X\n;".toList := by decide +kernel
  have hs : screen "ſelect 'a;Ü', `b` /* LIMIT 5 */ from T -- x\n;".toList =
      .ok "ſelect 'a;Ü', `b`  from T \n;".toList :=
    screen_eq_ok_iff.mpr ⟨by decide +kernel, by decide +kernel⟩
  have hκ : Tool.capRows "ſelect 'a;Ü', `b`  from T \n;".toList (.int 1000) (.int 7) =
      .ok ⟨"ſelect 'a;Ü', `b`  from T LIMIT 7".toList, some 7⟩ := by decide +kernel
  have h := screen_sameButCase hq
  rw [hs] at h
  obtain ⟨t, ht, hst, hc⟩ := h.exists_ok
  have hc := hc (.int 1000) (.int 7)
  rw [hκ] at hc
  obtain ⟨κ, hκ, hl⟩ := hc.exists_ok
  exact ⟨hq, t, κ, ht, hst, hκ, hl.appliedLimit.symm⟩

end Sluice.Query
