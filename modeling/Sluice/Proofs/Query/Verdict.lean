import Sluice.Proofs.Query.Opening

/-!
# What a query is refused for

A query is refused by the first of the rules, in the order of `rules`, that fails on its text
(`rejection?_eq_verdict?`).  Apart from assignments the rules on how a text opens come down to its
first word: those that read are let pass by all of them, and all others are refused
(`screen_of_not_set`).
-/

namespace Sluice.Query

open Text

/-! ## Rules in their order -/

/-- The texts that a rule fails on, and what a query with such a text is refused for. -/
structure Rule where
  fails : List Char → Bool
  rejection : Rejection

def Opening.rule (ω : Opening) : Rule := ⟨ω.accepts, .mutation ω.name⟩

/-- The statements that a text must not open as. -/
def openingRules : List Rule :=
  mutations.map Opening.rule ++ ⟨setsServer, .mutation "SET"⟩ :: transactions.map Opening.rule

/-- The clauses that a text must not hold. -/
def clauseRules : List Rule :=
  dangerousClauses.map fun ws ↦ ⟨occurs ws, .dangerous (" ".intercalate ws)⟩

def rules : List Rule :=
  ⟨List.isEmpty, .empty⟩ :: openingRules ++ ⟨(!isAllowed ·), .notARead⟩ :: clauseRules ++
    [⟨isStacked, .stacked⟩]

/-- What the first rule that fails refuses a text for. -/
def verdict? (ρs : List Rule) (s : List Char) : Option Rejection :=
  (ρs.find? (·.fails s)).map Rule.rejection

section Verdict

variable {ρ : Rule} {ρs : List Rule} {s : List Char}

@[simp] theorem verdict?_nil : verdict? [] s = none := rfl

theorem verdict?_cons :
    verdict? (ρ :: ρs) s = if ρ.fails s then some ρ.rejection else verdict? ρs s := by
  cases h : ρ.fails s <;> simp [verdict?, h]

/-- The rules behind are asked only if those before let the text pass. -/
theorem verdict?_append (ρs σs : List Rule) :
    verdict? (ρs ++ σs) s = (verdict? ρs s).or (verdict? σs s) := by
  rw [verdict?, List.find?_append, Option.map_or]
  rfl

/-- A text passes if no rule fails on it. -/
theorem verdict?_eq_none_iff : verdict? ρs s = none ↔ ∀ ρ ∈ ρs, ρ.fails s = false := by
  simp [verdict?]

/-- A verdict is the first rule's that fails. -/
theorem verdict?_eq_some_iff {χ : Rejection} :
    verdict? ρs s = some χ ↔ ∃ σs ρ τs, ρs = σs ++ ρ :: τs ∧ ρ.fails s = true ∧
      ρ.rejection = χ ∧ ∀ σ ∈ σs, σ.fails s = false := by
  rw [verdict?, Option.map_eq_some_iff]
  constructor
  · rintro ⟨ρ, hρ, hχ⟩
    obtain ⟨hf, σs, τs, hs, hσ⟩ := List.find?_eq_some_iff_append.mp hρ
    exact ⟨σs, ρ, τs, hs, hf, hχ, fun σ h ↦ by simpa using hσ σ h⟩
  · rintro ⟨σs, ρ, τs, hs, hf, hχ, hσ⟩
    exact ⟨ρ, List.find?_eq_some_iff_append.mpr ⟨hf, σs, τs, hs, fun σ h ↦ by simp [hσ σ h]⟩, hχ⟩

/-- Rules about how a text opens refuse it by the first opening that it has. -/
theorem verdict?_map_rule (ωs : List Opening) : verdict? (ωs.map Opening.rule) s =
    ((ωs.find? (·.accepts s)).map Opening.name).map .mutation := by
  rw [verdict?, List.find?_map, Option.map_map, Option.map_map]
  rfl

theorem verdict?_openingRules : verdict? openingRules s = (refusedOpening? s).map .mutation := by
  rw [openingRules, verdict?_append, verdict?_cons, verdict?_map_rule, verdict?_map_rule,
    refusedOpening?]
  cases mutations.find? (·.accepts s) with
  | some ω => rfl
  | none => cases h : setsServer s <;> simp [h]

theorem verdict?_clauseRules : verdict? clauseRules s = (dangerousClause? s).map .dangerous := by
  rw [verdict?, clauseRules, List.find?_map, dangerousClause?, Option.map_map, Option.map_map]
  rfl

/-- A text is refused by the first rule that fails on it. -/
theorem rejection?_eq_verdict? : rejection? s = verdict? rules s := by
  rw [rules, verdict?_append, List.cons_append, verdict?_cons, verdict?_append, verdict?_cons,
    verdict?_openingRules, verdict?_clauseRules, rejection?]
  cases s with
  | nil => rfl
  | cons c s =>
    cases refusedOpening? (c :: s) <;> cases ha : isAllowed (c :: s) <;>
      cases dangerousClause? (c :: s) <;> simp [verdict?_cons, ha]

end Verdict

/-! ## First words -/

/-- The text before its first blank. -/
def firstWord (s : List Char) : List Char := s.takeWhile (!isBlank ·)

/-- A text whose first word is `w`, given in capitals, and a blank follows. -/
structure OpensWith (w : String) (s : List Char) : Prop where
  spells : (firstWord s).map keyLetter = w.toList
  goesOn : firstWord s ≠ s

/-- The words that statements open with that only read. -/
def readWords : List String := ["SELECT", "SHOW", "DESCRIBE", "DESC", "EXPLAIN", "WITH"]

/-- The words that statements open with that are refused. -/
def refusedWords : List String :=
  (mutations ++ ⟨["SET"], true⟩ :: transactions).filterMap (·.phrase.head?)

/-- What a reading text may begin with are words that stand by themselves. -/
theorem reads_eq : reads = readWords.map fun w ↦ ⟨[w], true⟩ := rfl

/-- Each word that a reading text may begin with is a keyword. -/
theorem isKeyword_of_mem_readWords : ∀ w ∈ readWords, IsKeyword w := by
  simp [readWords, IsKeyword]

/-- No blank has a letter of a keyword for its key. -/
theorem isBlank_of_isUpper_keyLetter {c : Char} (hc : (keyLetter c).isUpper = true) :
    isBlank c = false := by
  unfold keyLetter at hc
  split at hc
  · decide
  · decide
  · decide
  · decide
  · exact isBlank_of_isAlpha (isAlpha_of_isUpper_toUpper hc)

/-- A word that a text begins with may be written in capitals or not. -/
theorem exists_of_afterWord? {w s r : List Char} (h : afterWord? w s = some r) :
    ∃ m, s = m ++ r ∧ m.map keyLetter = w := by
  fun_induction afterWord? w s with
  | case1 s =>
    cases h
    exact ⟨[], rfl, rfl⟩
  | case2 => cases h
  | case3 w c s ih =>
    obtain ⟨m, rfl, rfl⟩ := ih h
    exact ⟨c :: m, rfl, rfl⟩
  | case4 => cases h

/-- The first word of a text goes up to the first blank. -/
theorem firstWord_append {m t : List Char} {b : Char} (hm : ∀ c ∈ m, isBlank c = false)
    (hb : isBlank b = true) : firstWord (m ++ b :: t) = m := by
  rw [firstWord, List.takeWhile_append_of_pos (by simpa using hm),
    List.takeWhile_cons_of_neg (by simpa using hb), List.append_nil]

/-- Behind the first word of a text stands a blank, or nothing. -/
theorem exists_of_firstWord_ne {s : List Char} (h : firstWord s ≠ s) :
    ∃ b t, s = firstWord s ++ b :: t ∧ isBlank b = true := by
  have hs : firstWord s ++ s.dropWhile (!isBlank ·) = s := List.takeWhile_append_dropWhile
  have hb := List.head?_dropWhile_not (!isBlank ·) s
  cases ht : s.dropWhile (!isBlank ·) with
  | nil => exact absurd (by simpa [ht] using hs) h
  | cons b t =>
    rw [ht] at hs hb
    exact ⟨b, t, hs.symm, by simpa using hb⟩

/-- A text opens with a keyword if it begins with its letters and a blank. -/
theorem opensWith_iff {w : String} (hw : IsKeyword w) {s : List Char} :
    OpensWith w s ↔ ∃ m b t, s = m ++ b :: t ∧ m.map keyLetter = w.toList ∧ isBlank b = true := by
  constructor
  · rintro ⟨hm, hne⟩
    obtain ⟨b, t, hs, hb⟩ := exists_of_firstWord_ne hne
    exact ⟨firstWord s, b, t, hs, hm, hb⟩
  · rintro ⟨m, b, t, rfl, hm, hb⟩
    have hf : firstWord (m ++ b :: t) = m :=
      firstWord_append (fun c hc ↦
        isBlank_of_isUpper_keyLetter (hw.2 _ (hm ▸ List.mem_map_of_mem hc))) hb
    exact ⟨by rw [hf, hm], by simp [hf]⟩

/-- A text opens with one word at most. -/
theorem OpensWith.unique {w w' : String} {s : List Char} (h : OpensWith w s)
    (h' : OpensWith w' s) : w = w' :=
  String.toList_inj.mp (h.spells.symm.trans h'.spells)

/-- A text that opens with a keyword and ends with no blank is trimmed. -/
theorem OpensWith.isTrimmed {w : String} (hw : IsKeyword w) {s : List Char} (h : OpensWith w s)
    (hl : ∀ c ∈ s.getLast?, isBlank c = false) : IsTrimmed s := by
  obtain ⟨m, b, t, rfl, hm, -⟩ := (opensWith_iff hw).mp h
  refine ⟨?_, hl⟩
  cases m with
  | nil => exact absurd hm.symm hw.1
  | cons c m =>
    rintro d ⟨⟩
    exact isBlank_of_isUpper_keyLetter (hw.2 _ (hm ▸ List.mem_cons_self))

/-- A text opens as a statement of one word if that is its first word. -/
theorem accepts_iff_opensWith {w : String} (hw : IsKeyword w) {s : List Char}
    (hs : trimLeft s = s) : (⟨[w], true⟩ : Opening).accepts s = true ↔ OpensWith w s := by
  rw [opensWith_iff hw, Opening.accepts, Opening.after?, hs, Option.any_eq_true]
  constructor
  · rintro ⟨t, ht, hb⟩
    obtain ⟨m, rfl, hm⟩ := exists_of_afterWord? ht
    obtain ⟨b, hb, hbl⟩ := (Option.any_eq_true _ _).mp (by simpa using hb)
    obtain ⟨t, rfl⟩ := List.head?_eq_some_iff.mp hb
    exact ⟨m, b, t, rfl, hm, hbl⟩
  · rintro ⟨m, b, t, rfl, hm, hb⟩
    exact ⟨b :: t, afterWord?_append hm _, by simp [hb]⟩

/-! ## Texts that are no assignment -/

/-- To set a variable of the session is to open with the word for it. -/
theorem accepts_of_setsSession {s : List Char} (h : setsSession s = true) :
    (⟨["SET"], true⟩ : Opening).accepts s = true := by
  obtain ⟨u, hu, -⟩ := (Option.any_eq_true _ _).mp h
  obtain ⟨t, ht, hb⟩ := Option.bind_eq_some_iff.mp hu
  obtain ⟨w, rfl, hne, hw, -⟩ := afterBlanks?_eq_some_iff.mp hb
  obtain ⟨b, w, rfl⟩ := List.exists_cons_of_ne_nil hne
  rw [Opening.accepts, ht]
  simp [hw b List.mem_cons_self]

section NotSet

variable {s : List Char} (hs : trimLeft s = s) (hset : ¬ OpensWith "SET" s)

include hs hset

theorem isAllowed_iff_of_not_set : isAllowed s = true ↔ ∃ w ∈ readWords, OpensWith w s := by
  have hn : setsSession s = false := Bool.eq_false_iff.mpr fun h ↦
    hset ((accepts_iff_opensWith (by simp [IsKeyword]) hs).mp (accepts_of_setsSession h))
  rw [isAllowed, hn, Bool.or_false, reads_eq, List.any_map, List.any_eq_true]
  refine exists_congr fun w ↦ and_congr_right fun hw ↦ ?_
  exact accepts_iff_opensWith (isKeyword_of_mem_readWords w hw) hs

/-- No rule on how a text opens fails on one that only reads. -/
theorem refusedOpening?_of_isAllowed (ha : isAllowed s = true) : refusedOpening? s = none := by
  have hd : ∀ w ∈ readWords, (∀ ω ∈ mutations ++ transactions, ω.agrees w = false) ∧
      (⟨["SET"], true⟩ : Opening).agrees w = false := by decide
  obtain ⟨w, hw, ho⟩ := (isAllowed_iff_of_not_set hs hset).mp ha
  obtain ⟨m, b, t, rfl, hm, -⟩ := (opensWith_iff (isKeyword_of_mem_readWords w hw)).mp ho
  exact refusedOpening?_eq_none hs (hd w hw).1 (hd w hw).2 (afterWord?_append hm _)

theorem rejection?_eq_none_iff_of_not_set :
    rejection? s = none ↔ s ≠ [] ∧ (∃ w ∈ readWords, OpensWith w s) ∧
      (∀ ws ∈ dangerousClauses, occurs ws s = false) ∧ isStacked s = false := by
  have hr := refusedOpening?_of_isAllowed hs hset
  rw [rejection?_eq_none_iff, ← isAllowed_iff_of_not_set hs hset, dangerousClause?_eq_none_iff]
  tauto

end NotSet

/-- A query that is no assignment is admitted exactly if its first word is one that reads, no
dangerous clause occurs in it and nothing is stacked upon it.  The rules on how a text opens are
then no obstacle; a query that begins with a word of theirs is not admitted in any case.  Whatever
is refused is refused by the first rule that fails. -/
theorem screen_of_not_set {q : List Char} (hset : ¬ OpensWith "SET" (normalize q)) :
    (screen q = .ok (normalize q) ↔
      normalize q ≠ [] ∧ (∃ w ∈ readWords, OpensWith w (normalize q)) ∧
        (∀ ws ∈ dangerousClauses, occurs ws (normalize q) = false) ∧
        isStacked (normalize q) = false) ∧
      (isAllowed (normalize q) = true → ∀ ρ ∈ openingRules, ρ.fails (normalize q) = false) ∧
      (∀ w ∈ refusedWords, (firstWord (normalize q)).map keyLetter = w.toList →
        ∀ t, screen q ≠ .ok t) ∧
      ∀ χ, screen q = .error χ ↔ ∃ σs ρ τs, rules = σs ++ ρ :: τs ∧
        ρ.fails (normalize q) = true ∧ ρ.rejection = χ ∧ ∀ σ ∈ σs, σ.fails (normalize q) = false := by
  have hs : trimLeft (normalize q) = normalize q := trimLeft_eq_self (isTrimmed_trim _)
  have hok := rejection?_eq_none_iff_of_not_set hs hset
  refine ⟨?_, fun ha ↦ ?_, fun w hw hm t ht ↦ ?_, fun χ ↦ ?_⟩
  · rw [screen_eq_ok_iff, and_iff_right rfl, hok]
  · rw [← verdict?_eq_none_iff, verdict?_openingRules, refusedOpening?_of_isAllowed hs hset ha]
    rfl
  · have hd : ∀ w ∈ refusedWords, w ∉ readWords := by decide
    obtain ⟨-, ⟨v, hv, ho⟩, -⟩ := hok.mp (screen_eq_ok_iff.mp ht).2
    have hvw : v = w := String.toList_inj.mp (ho.spells.symm.trans hm)
    exact hd w hw (hvw ▸ hv)
  · rw [screen_eq_error_iff, rejection?_eq_verdict?, verdict?_eq_some_iff]

/-- A long s stands for an S, the words of the clause do not end there, and of the semicolons one
is quoted and the other is the last thing. -/
theorem screen_of_not_set_long_s :
    ¬ OpensWith "SET" (normalize "/* SET */ ſelect ';' for\tupdates; -- x".toList) ∧
      screen "/* SET */ ſelect ';' for\tupdates; -- x".toList =
        .ok "ſelect ';' for\tupdates;".toList := by
  have hn : normalize "/* SET */ ſelect ';' for\tupdates; -- x".toList =
      "ſelect ';' for\tupdates;".toList := by decide +kernel
  have hset : ¬ OpensWith "SET" (normalize "/* SET */ ſelect ';' for\tupdates; -- x".toList) := by
    rw [hn]
    exact fun h ↦ absurd h.spells (by decide +kernel)
  have hread : OpensWith "SELECT" "ſelect ';' for\tupdates;".toList :=
    ⟨by decide +kernel, by decide +kernel⟩
  refine ⟨hset, hn ▸ (screen_of_not_set hset).1.mpr ?_⟩
  rw [hn]
  exact ⟨by simp, ⟨"SELECT", by decide, hread⟩, by decide +kernel, by decide +kernel⟩

end Sluice.Query
