import Sluice.Proofs.Query.Assignment
import Sluice.Proofs.Query.Capped
import Sluice.Tool.Limit

/-!
# Queries with a limit of their own

A query to read rows is to be given a limit unless it has one.  What is looked for is the word
`LIMIT` with a number behind it, and that may be the limit of the query or only seem to be
(`namesLimit_iff`): in a string, a name, a block or parentheses it is none of the query's, and with
letters or digits beyond ASCII it is none at all.  A query without a limit of its own is therefore
given one exactly if nothing in it seems to be one (`capRows_of_select`).
-/

namespace Sluice.Text

/-- Blanks and decimal digits are apart. -/
theorem lt_or_lt_of_mem_zeros :
    ∀ β ∈ blankRanges, ∀ z ∈ zeros, z + 10 ≤ β.1 ∨ β.2 < z := by decide +kernel

theorem isBlank_of_isDecimalDigit {c : Char} (hc : isDecimalDigit c = true) :
    isBlank c = false := by
  refine Bool.eq_false_iff.mpr fun hb ↦ ?_
  rw [isDecimalDigit, digitValue?, Option.isSome_map, List.find?_isSome] at hc
  obtain ⟨z, hz, hc⟩ := hc
  obtain ⟨β, hβ, hl, hr⟩ := inRanges_iff.mp hb
  rw [Bool.and_eq_true, decide_eq_true_eq, decide_eq_true_eq] at hc
  rcases lt_or_lt_of_mem_zeros β hβ z hz with h | h <;> omega

end Sluice.Text

namespace Sluice.Query

open Text

/-! ## Where a limit stands -/

/-- `LIMIT`, blanks, and the first digit of a number, as they are looked for: a letter or a digit
may be one beyond ASCII. -/
def SpellsLimit (u : List Char) : Prop :=
  ∃ m g d, u = m ++ (g ++ [d]) ∧ m.map keyLetter = "LIMIT".toList ∧
    g ≠ [] ∧ (∀ c ∈ g, isBlank c = true) ∧ isDecimalDigit d = true

/-- Behind `a` a query goes on with `u`, which spells a limit and begins a word. -/
def LimitAt (a u s : List Char) : Prop :=
  SpellsLimit u ∧ isBoundary a.getLast? u.head? = true ∧ a ++ u <+: s

def IsAscii (u : List Char) : Prop := ∀ c ∈ u, c.toNat < 128

/-- Once it has read `a`, the server is inside of no string, name or block, and no parentheses are
open. -/
def IsSurface (a s : List Char) : Prop :=
  ∃ σs, σs <+: tokens s ∧ textOf σs = a ∧ σs.foldl nesting 0 = 0

/-- A query that limits its own rows. -/
def OwnLimit (s : List Char) : Prop := ∃ a u, LimitAt a u s ∧ IsAscii u ∧ IsSurface a s

/-- A query with something in it that is taken for its limit and is not: it stands in a string, a
name, a block or parentheses, or is not written in ASCII. -/
def SeemingLimit (s : List Char) : Prop := ∃ a u, LimitAt a u s ∧ ¬ (IsAscii u ∧ IsSurface a s)

/-- The text behind `LIMIT` and blanks. -/
def behindLimit? (x : List Char) : Option (List Char) :=
  (afterWord? "LIMIT".toList x).bind afterBlanks?

theorem behindLimit?_eq_some_iff {x t : List Char} : behindLimit? x = some t ↔ ∃ m g,
    x = m ++ (g ++ t) ∧ m.map keyLetter = "LIMIT".toList ∧ g ≠ [] ∧
      (∀ c ∈ g, isBlank c = true) ∧ ∀ c ∈ t.head?, isBlank c = false := by
  constructor
  · intro h
    obtain ⟨b, hw, hb⟩ := Option.bind_eq_some_iff.mp h
    obtain ⟨m, rfl, hm⟩ := exists_of_afterWord? hw
    obtain ⟨g, rfl, hne, hg, ht⟩ := afterBlanks?_eq_some_iff.mp hb
    exact ⟨m, g, rfl, hm, hne, hg, ht⟩
  · rintro ⟨m, g, rfl, hm, hne, hg, ht⟩
    rw [behindLimit?, afterWord?_append hm, Option.bind_some, afterBlanks?_append hne hg ht]

theorem spellsLimit_iff {u : List Char} :
    SpellsLimit u ↔ ∃ d, behindLimit? u = some [d] ∧ isDecimalDigit d = true := by
  constructor
  · rintro ⟨m, g, d, rfl, hm, hne, hg, hd⟩
    refine ⟨d, behindLimit?_eq_some_iff.mpr ⟨m, g, rfl, hm, hne, hg, ?_⟩, hd⟩
    rintro c ⟨⟩
    exact isBlank_of_isDecimalDigit hd
  · rintro ⟨d, h, hd⟩
    obtain ⟨m, g, rfl, hm, hne, hg, -⟩ := behindLimit?_eq_some_iff.mp h
    exact ⟨m, g, d, rfl, hm, hne, hg, hd⟩

/-- A text goes on with a limit if a digit is behind `LIMIT` and blanks. -/
theorem exists_spellsLimit_iff {x : List Char} :
    (∃ u, u <+: x ∧ SpellsLimit u) ↔ (behindLimit? x).any (·.head?.any isDecimalDigit) = true := by
  rw [Option.any_eq_true]
  constructor
  · rintro ⟨u, ⟨r, rfl⟩, m, g, d, rfl, hm, hne, hg, hd⟩
    refine ⟨d :: r, behindLimit?_eq_some_iff.mpr ⟨m, g, by simp, hm, hne, hg, ?_⟩, by simpa using hd⟩
    rintro c ⟨⟩
    exact isBlank_of_isDecimalDigit hd
  · rintro ⟨t, h, hd⟩
    obtain ⟨m, g, rfl, hm, hne, hg, -⟩ := behindLimit?_eq_some_iff.mp h
    obtain ⟨d, hd, hdig⟩ := (Option.any_eq_true _ _).mp hd
    obtain ⟨r, rfl⟩ := List.head?_eq_some_iff.mp hd
    exact ⟨m ++ (g ++ [d]), ⟨r, by simp⟩, m, g, d, rfl, hm, hne, hg, hdig⟩

theorem SpellsLimit.ne_nil {u : List Char} (h : SpellsLimit u) : u ≠ [] := by
  obtain ⟨m, g, d, rfl, -⟩ := h
  simp

theorem SpellsLimit.head?_eq {u x : List Char} (hu : SpellsLimit u) (h : u <+: x) :
    u.head? = x.head? := by
  obtain ⟨r, rfl⟩ := h
  obtain ⟨c, u, rfl⟩ := List.exists_cons_of_ne_nil hu.ne_nil
  rfl

theorem namesLimitFrom_iff {before : Option Char} {s : List Char} :
    namesLimitFrom before s = true ↔ ∃ a u, SpellsLimit u ∧
      isBoundary (a.getLast?.or before) u.head? = true ∧ a ++ u <+: s := by
  induction s generalizing before with
  | nil =>
    constructor
    · intro h
      cases h
    · rintro ⟨a, u, hu, -, h⟩
      exact absurd (List.append_eq_nil_iff.mp (List.prefix_nil.mp h)).2 hu.ne_nil
  | cons c s ih =>
    change (isBoundary before (some c) && (behindLimit? (c :: s)).any (·.head?.any isDecimalDigit) ||
      namesLimitFrom (some c) s) = true ↔ _
    rw [Bool.or_eq_true, Bool.and_eq_true, ← exists_spellsLimit_iff, ih]
    constructor
    · rintro (⟨hb, u, h, hu⟩ | ⟨a, u, hu, hb, h⟩)
      · exact ⟨[], u, hu, by rwa [hu.head?_eq h], h⟩
      · refine ⟨c :: a, u, hu, ?_, List.cons_prefix_cons.mpr ⟨rfl, h⟩⟩
        cases a <;> simpa [List.getLast?_cons] using hb
    · rintro ⟨a, u, hu, hb, h⟩
      cases a with
      | nil =>
        rw [hu.head?_eq h] at hb
        exact .inl ⟨hb, u, h, hu⟩
      | cons d a =>
        obtain ⟨rfl, ha⟩ := List.cons_prefix_cons.mp h
        refine .inr ⟨a, u, hu, ?_, ha⟩
        cases a <;> simpa [List.getLast?_cons] using hb

/-- A limit is found wherever one is spelled. -/
theorem namesLimit_iff_exists_limitAt {s : List Char} :
    namesLimit s = true ↔ ∃ a u, LimitAt a u s := by
  simp only [namesLimit, namesLimitFrom_iff, Option.or_none]
  rfl

theorem namesLimit_iff {s : List Char} : namesLimit s = true ↔ OwnLimit s ∨ SeemingLimit s := by
  rw [namesLimit_iff_exists_limitAt, OwnLimit, SeemingLimit, ← exists_or]
  refine exists_congr fun a ↦ ?_
  rw [← exists_or]
  refine exists_congr fun u ↦ ?_
  rw [← and_or_left, and_iff_left (em _)]

instance (u : List Char) : Decidable (SpellsLimit u) :=
  decidable_of_iff ((behindLimit? u).any (fun t ↦ t.length = 1 && t.all isDecimalDigit) = true) <| by
    rw [spellsLimit_iff, Option.any_eq_true]
    constructor
    · rintro ⟨t, ht, h⟩
      obtain ⟨d, rfl⟩ := List.length_eq_one_iff.mp (by simpa using ((Bool.and_eq_true ..).mp h).1)
      exact ⟨d, ht, by simpa using h⟩
    · rintro ⟨d, ht, hd⟩
      exact ⟨[d], ht, by simpa using hd⟩

instance (a u s : List Char) : Decidable (LimitAt a u s) := inferInstanceAs (Decidable (_ ∧ _))

instance (u : List Char) : Decidable (IsAscii u) :=
  decidable_of_iff (u.all (·.toNat < 128) = true) (by simp [IsAscii])

instance (a s : List Char) : Decidable (IsSurface a s) :=
  decidable_of_iff (∃ σs ∈ (tokens s).inits, textOf σs = a ∧ σs.foldl nesting 0 = 0)
    (exists_congr fun σs ↦ by rw [List.mem_inits])

/-- Where a limit stands can be searched place by place. -/
theorem exists_limitAt_iff {s : List Char} {p : List Char → List Char → Prop} :
    (∃ a ∈ s.inits, ∃ u ∈ (s.drop a.length).inits, LimitAt a u s ∧ p a u) ↔
      ∃ a u, LimitAt a u s ∧ p a u := by
  constructor
  · rintro ⟨a, -, u, -, h⟩
    exact ⟨a, u, h⟩
  · rintro ⟨a, u, ⟨hu, hb, r, rfl⟩, hp⟩
    refine ⟨a, ?_, u, ?_, ⟨hu, hb, List.prefix_append _ _⟩, hp⟩
    · rw [List.mem_inits, List.append_assoc]
      exact List.prefix_append _ _
    · rw [List.mem_inits, List.append_assoc, List.drop_left]
      exact List.prefix_append _ _

instance (s : List Char) : Decidable (OwnLimit s) := decidable_of_iff _ exists_limitAt_iff

instance (s : List Char) : Decidable (SeemingLimit s) := decidable_of_iff _ exists_limitAt_iff

example : OwnLimit "SELECT f(1) limit 5".toList ∧ ¬ OwnLimit "SELECT f(1 limit 5)".toList := by
  decide +kernel

example : ¬ OwnLimit "SELECT 1 lımıt ٥".toList ∧ SeemingLimit "SELECT 1 lımıt ٥".toList := by
  decide +kernel

/-! ## Queries that are given a limit -/

theorem isInert_limitClause {n : Int} (hn : 1 ≤ n) : IsInert (limitClause n) := by
  have hl {d : Char} (hd : d ≠ ' ' ∧ d.isAlphanum = false) {c : Char} (hc : c ∈ limitClause n) :
      c ≠ d := by
    rintro rfl
    exact not_mem_limitClause hn hd.1 hd.2 hc
  refine fun c hc ↦ ⟨?_, hl (by decide) hc, hl (by decide) hc⟩
  simp [isQuoteSign, hl (d := '\'') (by decide) hc, hl (d := '"') (by decide) hc,
    hl (d := '`') (by decide) hc]

theorem Terminates.isInert {s v : List Char} (h : Terminates s v) : IsInert v := by
  intro c hc
  rcases h.isBlank_or c hc with hb | rfl
  · exact inert_of_isBlank hb
  · decide

/-- A query with the limit `n` at its end, in the place of blanks and semicolons.  If all strings
and names were closed, then the limit is in none of them. -/
structure IsCapped (s : List Char) (n : Int) (κ : LimitedQuery) : Prop where
  appliedLimit : κ.appliedLimit = some n
  query : ∃ b v, s = b ++ v ∧ (∀ c ∈ v, isBlank c = true ∨ c = ';') ∧
    κ.query = b ++ limitClause n ∧
    ((∀ τ ∈ tokens s, τ.IsClosed) → tokens κ.query = tokens b ++ (limitClause n).map .bare)

theorem isCapped_limitRows {s : List Char} (hs : IsTrimmed s) (hu : isUncapped s = true) {n : Int}
    (hn : 1 ≤ n) : IsCapped s n (limitRows s n) := by
  obtain ⟨v, hv⟩ := exists_terminates hs
  rw [limitRows, if_pos hu, ← append_limitClause]
  refine ⟨rfl, dropTerminator s, v, hv.text, hv.isBlank_or, rfl, fun h ↦ ?_⟩
  rw [hv.text] at h
  exact tokens_append_of_isClosed hv.isInert (isInert_limitClause hn) h

/-- The limit that was asked for comes before the one in force. -/
theorem capRows_of_isUncapped {s : List Char} (hu : isUncapped s = true) (m : Int)
    {asked : Option Int} (ha : ∀ n ∈ asked, 1 ≤ n) :
    Tool.capRows s (.int m) (asked.elim .null .int) = Tool.capAt s (asked.getD m) := by
  rw [Tool.capRows, if_pos hu]
  cases asked with
  | none => rfl
  | some n =>
    have hn : n ≠ 0 := by
      have := ha n rfl
      omega
    simp [Value.isTruthy, hn]

/-- A query to read rows that is admitted and has no limit of its own is given the limit that was
asked for, or else the one in force, provided that the number can be written.  But if anything in
the query seems to be a limit, the query is left as it is. -/
theorem capRows_of_select {q s : List Char} (h : screen q = .ok s) (hs : OpensWith "SELECT" s)
    (ho : ¬ OwnLimit s) {m : Int} (hm : 1 ≤ m) {asked : Option Int} (ha : ∀ n ∈ asked, 1 ≤ n) :
    (¬ SeemingLimit s → if Tool.isWritable (asked.getD m) then
        ∃ κ, Tool.capRows s (.int m) (asked.elim .null .int) = .ok κ ∧ IsCapped s (asked.getD m) κ
      else Tool.capRows s (.int m) (asked.elim .null .int) = .error .tooLarge) ∧
    (SeemingLimit s → Tool.capRows s (.int m) (asked.elim .null .int) = .ok ⟨s, none⟩) := by
  have ht := isTrimmed_of_screen h
  have hsel : isSelect s = true :=
    (accepts_iff_opensWith (by simp [IsKeyword]) (trimLeft_eq_self ht)).mpr hs
  have hu : isUncapped s = !namesLimit s := by rw [isUncapped, hsel, Bool.and_true]
  constructor
  · intro hi
    have hn : namesLimit s = false :=
      Bool.eq_false_iff.mpr fun h ↦ (namesLimit_iff.mp h).elim ho hi
    rw [hn] at hu
    have hp : 1 ≤ asked.getD m := by
      cases asked with
      | none => exact hm
      | some n => exact ha n rfl
    rw [capRows_of_isUncapped hu m ha, Tool.capAt]
    split
    · exact ⟨_, rfl, isCapped_limitRows ht hu hp⟩
    · rfl
  · intro hi
    rw [namesLimit_iff.mpr (.inr hi)] at hu
    rw [Tool.capRows, if_neg (by simp [hu])]

/-- A limit that goes with a comment and a `LIMIT` without number in a string are none: the limit
that was asked for takes the place of the semicolon.  One in parentheses seems to be one. -/
theorem capRows_of_select_nested :
    screen "select 'it''s; LIMIT', (2) -- LIMIT 3\n FROM t ;".toList =
      .ok "select 'it''s; LIMIT', (2) \n FROM t ;".toList ∧
    (∃ κ, Tool.capRows "select 'it''s; LIMIT', (2) \n FROM t ;".toList (.int 1000) (.int 7) = .ok κ ∧
      IsCapped "select 'it''s; LIMIT', (2) \n FROM t ;".toList 7 κ) ∧
    Tool.capRows "SELECT * FROM (SELECT 1 LIMIT 5) t".toList (.int 1000) .null =
      .ok ⟨"SELECT * FROM (SELECT 1 LIMIT 5) t".toList, none⟩ := by
  have h : screen "select 'it''s; LIMIT', (2) -- LIMIT 3\n FROM t ;".toList =
      .ok "select 'it''s; LIMIT', (2) \n FROM t ;".toList :=
    screen_eq_ok_iff.mpr ⟨by decide +kernel, by decide +kernel⟩
  refine ⟨h, ?_, ?_⟩
  · have ha : ∀ n ∈ some (7 : Int), 1 ≤ n := by rintro n ⟨⟩; decide
    have hc := (capRows_of_select h ⟨by decide +kernel, by decide +kernel⟩ (by decide +kernel)
      (m := 1000) (by decide) ha).1 (by decide +kernel)
    rwa [if_pos (by decide +kernel)] at hc
  · have h : screen "SELECT * FROM (SELECT 1 LIMIT 5) t".toList =
        .ok "SELECT * FROM (SELECT 1 LIMIT 5) t".toList :=
      screen_eq_ok_iff.mpr ⟨by decide +kernel, by decide +kernel⟩
    have ha : ∀ n ∈ (none : Option Int), 1 ≤ n := by simp
    exact (capRows_of_select h ⟨by decide +kernel, by decide +kernel⟩ (by decide +kernel)
      (m := 1000) (by decide) ha).2 (by decide +kernel)

theorem closes_of_plain {d : Char} {t : List Char} (ht : ∀ c ∈ t, c ≠ d ∧ c ≠ '\\') :
    Closes d (t ++ [d]) := by
  induction t with
  | nil => exact .close
  | cons c t ih =>
    obtain ⟨hc, hb⟩ := ht c List.mem_cons_self
    exact .plain hc (fun h ↦ absurd h hb) (ih fun e he ↦ ht e (List.mem_cons_of_mem c he))

/-- Not every query to read rows that has no limit of its own is given one. -/
theorem not_forall_isCapped_of_select :
    ¬ ∀ (q s : List Char) (m : Int) (asked : Option Int), screen q = .ok s →
      OpensWith "SELECT" s → (∀ τ ∈ tokens s, τ.IsClosed) → ¬ OwnLimit s → 1 ≤ m →
      (∀ n ∈ asked, 1 ≤ n) → ∃ κ, Tool.capRows s (.int m) (asked.elim .null .int) = .ok κ ∧
        IsCapped s (asked.getD m) κ := by
  intro h
  have hs : screen "SELECT * FROM notes WHERE body = 'limit 5'".toList =
      .ok "SELECT * FROM notes WHERE body = 'limit 5'".toList :=
    screen_eq_ok_iff.mpr ⟨by decide +kernel, by decide +kernel⟩
  have hτ : tokens "SELECT * FROM notes WHERE body = 'limit 5'".toList =
      "SELECT * FROM notes WHERE body = ".toList.map .bare ++
        [.quoted '\'' ("limit 5".toList ++ ['\''])] := by decide +kernel
  have hc : ∀ τ ∈ tokens "SELECT * FROM notes WHERE body = 'limit 5'".toList, τ.IsClosed := by
    rw [hτ]
    intro τ hτ
    rcases List.mem_append.mp hτ with hτ | hτ
    · obtain ⟨c, -, rfl⟩ := List.mem_map.mp hτ
      trivial
    · rw [List.mem_singleton.mp hτ]
      exact closes_of_plain (by simp)
  obtain ⟨κ, hκ, hn⟩ := h _ _ 1000 none hs ⟨by decide +kernel, by decide +kernel⟩ hc
    (by decide +kernel) (by decide) (by simp)
  have hk : Tool.capRows "SELECT * FROM notes WHERE body = 'limit 5'".toList (.int 1000) .null =
      .ok ⟨"SELECT * FROM notes WHERE body = 'limit 5'".toList, none⟩ := by decide +kernel
  have hn := hn.appliedLimit
  obtain rfl : _ = κ := Except.ok.inj (hk.symm.trans hκ)
  cases hn

end Sluice.Query
