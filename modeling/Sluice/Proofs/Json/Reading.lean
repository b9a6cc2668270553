import Mathlib.Data.List.Forall2
import Sluice.Json.Read
import Sluice.Proofs.Json.Writing

/-!
# What is written reads back

A strict reader takes back the text of a value that is no deeper than it goes, whose integers are no
longer than it counts and whose numbers are all finite.  It finds the same value but for the
floating point numbers, which are some numbers again (`read_write`).
-/

namespace Sluice.Json

open Decimal

/-- What may follow a value in a text: nothing, or a mark behind an element or a field. -/
def Ends (r : List Char) : Prop := ∀ c ∈ r.head?, c ∈ [',', ']', '}']

variable {r s : List Char}

theorem Ends.noDigit (h : Ends r) : NoDigit r := fun c hc ↦
  (by simp : ∀ c ∈ [',', ']', '}'], c.isDigit = false) c (h c hc)

/-! ## Numbers -/

/-- The digits in front of something else are read as they are. -/
theorem spanDigits_append (hs : ∀ c ∈ s, c.isDigit = true) (hr : NoDigit r) :
    spanDigits (s ++ r) = (s, r) := by
  rw [spanDigits, takeWhile_isDigit_append hs hr, dropWhile_isDigit_append hs hr]

/-- The whole part of a number is read as it is written. -/
theorem wholeDigits_append (hs : IsWhole s) (hr : NoDigit r) : wholeDigits (s ++ r) = (s, r) := by
  have hspan := spanDigits_append hs.isDigits.2 hr
  cases hs with
  | zero => rfl
  | digits hc h0 hs =>
    rw [← hspan]
    unfold wholeDigits
    split
    next he => exact absurd (List.cons.inj he).1 h0
    next => rfl

/-- The fraction of a number is read as it is written. -/
theorem fractionDigits_point (hs : IsDigits s) (hr : NoDigit r) :
    fractionDigits ('.' :: (s ++ r)) = (s, r) := by
  rw [fractionDigits, spanDigits_append hs.2 hr]
  obtain ⟨hne, -⟩ := hs
  cases s with
  | nil => exact absurd rfl hne
  | cons c s => rfl

/-- Without a point there is no fraction. -/
theorem fractionDigits_of_head (hr : ∀ c ∈ r.head?, c ≠ '.') : fractionDigits r = ([], r) := by
  unfold fractionDigits
  split
  next s => exact absurd rfl (hr '.' rfl)
  next => rfl

/-- Without a mark there is no exponent. -/
theorem exponentDigits_of_ends (hr : Ends r) : exponentDigits r = (none, r) := by
  cases r with
  | nil => rfl
  | cons c r =>
    have hc : ¬ (c = 'e' ∨ c = 'E') :=
      (by simp : ∀ c ∈ [',', ']', '}'], ¬ (c = 'e' ∨ c = 'E')) c (hr c rfl)
    unfold exponentDigits
    dsimp only
    rw [if_neg hc]

/-- The exponent of a number is read. -/
theorem exponentDigits_append (hs : IsExponent s) (h0 : s ≠ []) (hr : NoDigit r) :
    ∃ ex, exponentDigits (s ++ r) = (some ex, r) := by
  cases hs with
  | none => exact absurd rfl h0
  | @some e ν s he hν hs =>
    obtain ⟨hne, hd⟩ := hs
    have hspan := spanDigits_append hd hr
    rw [List.cons_append, List.append_assoc]
    cases s with
    | nil => exact absurd rfl hne
    | cons c s =>
      have hc : c ≠ '-' ∧ c ≠ '+' := by
        have hc := hd c List.mem_cons_self
        constructor <;> rintro rfl <;> cases hc
      simp only [List.mem_cons, List.not_mem_nil, or_false] at hν
      rw [List.cons_append] at hspan ⊢
      obtain rfl | rfl | rfl := hν
      · refine ⟨(false, c :: s), ?_⟩
        simp [exponentDigits, he, hc.1, hc.2, hspan]
      · refine ⟨(false, c :: s), ?_⟩
        simp [exponentDigits, he, hspan]
      · refine ⟨(true, c :: s), ?_⟩
        simp [exponentDigits, he, hspan]

/-- What follows the digits in front of an exponent. -/
theorem head_of_isExponent (hs : IsExponent s) (hr : Ends r) :
    NoDigit (s ++ r) ∧ ∀ c ∈ (s ++ r).head?, c ≠ '.' := by
  cases hs with
  | none =>
    exact ⟨hr.noDigit, fun c hc ↦ (by simp : ∀ c ∈ [',', ']', '}'], c ≠ '.') c (hr c hc)⟩
  | @some e ν s he hν hs =>
    have h {c : Char} (hc : c ∈ ((e :: (ν ++ s)) ++ r).head?) : c = e := (Option.some.inj hc).symm
    constructor
    · intro c hc
      rw [h hc]
      obtain rfl | rfl := he <;> rfl
    · intro c hc
      rw [h hc]
      obtain rfl | rfl := he <;> decide

/-- A run of digits is read as an integer, if it is not too long. -/
theorem readMagnitude_whole (hs : IsWhole s) (hl : s.length ≤ maxDigits) (hr : Ends r) (ν : Bool)
    (start : List Char) : readMagnitude ν start (s ++ r) =
      .ok (.int (if ν then -(ofDigits (s.map digitValue) : Int) else ofDigits (s.map digitValue)),
        r) := by
  have hf : fractionDigits r = ([], r) := fractionDigits_of_head fun c hc ↦
    (by simp : ∀ c ∈ [',', ']', '}'], c ≠ '.') c (hr c hc)
  unfold readMagnitude
  rw [wholeDigits_append hs hr.noDigit]
  obtain ⟨hne, -⟩ := hs.isDigits
  cases s with
  | nil => exact absurd rfl hne
  | cons c s =>
    simp only [hf, exponentDigits_of_ends hr, List.append_nil, List.isEmpty_nil, Option.isNone_none,
      Bool.and_self, if_true, if_neg (Nat.not_lt.mpr hl)]

/-- A number with a point or an exponent is read as a floating point number. -/
theorem readMagnitude_real (hs : IsMagnitude true s) (hr : Ends r) (ν : Bool) (start : List Char) :
    ∃ x, readMagnitude ν start (s ++ r) = .ok (.float x, r) := by
  -- the parts decide, and the last two of them are not both missing
  have hparts {c : Char} {w t u f : List Char} {ex : Option (Bool × List Char)}
      (hw : wholeDigits (s ++ r) = (c :: w, t)) (hf : fractionDigits t = (f, u))
      (he : exponentDigits u = (ex, r)) (h : (f.isEmpty && ex.isNone) = false) :
      ∃ x, readMagnitude ν start (s ++ r) = .ok (.float x, r) := by
    unfold readMagnitude
    simp only [hw, hf, he, h, Bool.false_eq_true, if_false]
    exact ⟨_, rfl⟩
  cases hs with
  | @point w f e hw hf he =>
    have hrest := (head_of_isExponent he hr).1
    have hwhole := wholeDigits_append hw (r := '.' :: (f ++ (e ++ r))) fun c hc ↦ by cases hc; rfl
    have hpoint := fractionDigits_point hf hrest
    obtain ⟨hne, -⟩ := hf
    obtain ⟨c, w, rfl⟩ := List.exists_cons_of_ne_nil hw.isDigits.1
    obtain ⟨ex, hex⟩ : ∃ ex, exponentDigits (e ++ r) = (ex, r) := by
      by_cases h0 : e = []
      · exact ⟨none, by rw [h0]; exact exponentDigits_of_ends hr⟩
      · exact (exponentDigits_append he h0 hr.noDigit).imp' some fun _ ↦ id
    refine hparts (by rw [← hwhole]; simp) hpoint hex ?_
    rw [List.isEmpty_eq_false_iff.mpr hne, Bool.false_and]
  | @mark w e hw he h0 =>
    obtain ⟨hrest, hpoint⟩ := head_of_isExponent he hr
    have hwhole := wholeDigits_append hw hrest
    obtain ⟨c, w, rfl⟩ := List.exists_cons_of_ne_nil hw.isDigits.1
    obtain ⟨ex, hex⟩ := exponentDigits_append he h0 hr.noDigit
    exact hparts (by rw [← hwhole]; simp) (fractionDigits_of_head hpoint) hex rfl

/-! ## Words and numbers as they stand -/

/-- No word begins with a digit or a sign. -/
theorem readAtom_cons {c : Char} (hc : c.isDigit = true ∨ c = '-') (s : List Char) :
    readAtom true (c :: s) =
      if c = '-' then readMagnitude true (c :: s) s else readMagnitude false (c :: s) (c :: s) := by
  have h : c ≠ 'n' ∧ c ≠ 't' ∧ c ≠ 'f' := by
    refine ⟨?_, ?_, ?_⟩ <;> rintro rfl <;> revert hc <;> decide
  have hwords : words true = [(['n', 'u', 'l', 'l'], .null), (['t', 'r', 'u', 'e'], .bool true),
      (['f', 'a', 'l', 's', 'e'], .bool false)] := rfl
  unfold readAtom
  simp only [hwords, List.findSome?_cons, List.findSome?_nil, afterPrefix?, h.1.symm, h.2.1.symm,
    h.2.2.symm, if_false, Option.map_none]
  split
  next he =>
    obtain ⟨rfl, rfl⟩ := List.cons.inj he
    rfl
  next hne => rw [if_neg fun he ↦ hne s (by rw [he])]

/-- The digits that were written spell the number. -/
theorem ofDigits_natDigits (n : Nat) : ofDigits ((natDigits n).map digitValue) = n := by
  rw [ofDigits, List.foldl_map]
  exact Nat.ofDigitChars_ten_toDigits

/-- An integer that is short enough is read back. -/
theorem readAtom_int {z : Int} (hz : digitCount z.natAbs ≤ maxDigits) (hr : Ends r) :
    readAtom true (intText z ++ r) = .ok (.int z, r) := by
  have hm := readMagnitude_whole (isWhole_natDigits z.natAbs) hz hr
  rw [ofDigits_natDigits] at hm
  unfold intText
  split
  next h0 =>
    rw [List.cons_append, readAtom_cons (.inr rfl), if_pos rfl, hm, if_pos rfl]
    have hz : -(z.natAbs : Int) = z := by omega
    rw [hz]
  next h0 =>
    obtain ⟨c, s, hs⟩ := List.exists_cons_of_ne_nil (isDigits_natDigits z.natAbs).1
    have hc : c.isDigit = true := isDigit_of_mem_natDigits (hs ▸ List.mem_cons_self)
    have hne : c ≠ '-' := by
      rintro rfl
      cases hc
    rw [hs] at hm ⊢
    rw [List.cons_append, readAtom_cons (.inl hc), if_neg hne, ← List.cons_append, hm,
      if_neg Bool.false_ne_true]
    have hz : (z.natAbs : Int) = z := by omega
    rw [hz]

/-- A number with a point or an exponent is read as a floating point number. -/
theorem readAtom_real (hs : IsNumber true s) (hr : Ends r) :
    ∃ x, readAtom true (s ++ r) = .ok (.float x, r) := by
  cases hs with
  | negative hm =>
    rw [List.cons_append, readAtom_cons (.inr rfl), if_pos rfl]
    exact readMagnitude_real hm hr true _
  | positive hm =>
    obtain ⟨c, s, rfl, hc⟩ := hm.exists_eq_cons
    have hne : c ≠ '-' := by
      rintro rfl
      cases hc
    rw [List.cons_append, readAtom_cons (.inl hc), if_neg hne, ← List.cons_append]
    exact readMagnitude_real hm hr false _

/-! ## Strings -/

/-- A code unit that is no half of a pair stands for itself, whatever follows. -/
theorem readString_unit {a b c d : Char} {n : Nat} (h : hex4? a b c d = some n)
    (hn : isHighSurrogate n = false) (h0 : s ≠ []) (start acc : List Char) :
    readString start acc ('\\' :: 'u' :: a :: b :: c :: d :: s) =
      readString start (unitChar n :: acc) s := by
  rw [readString, h]
  dsimp only
  split
  · exact absurd rfl h0
  · split
    · rw [hn, Bool.false_and, Bool.false_and, if_neg Bool.false_ne_true]
    · rfl
  · rfl

/-- A control character is read back from its code unit. -/
theorem hex4?_hexDigit : ∀ n < 32,
    hex4? (Text.hexDigit (n / Nat.pow 16 3 % 16)) (Text.hexDigit (n / Nat.pow 16 2 % 16))
      (Text.hexDigit (n / Nat.pow 16 1 % 16)) (Text.hexDigit (n / Nat.pow 16 0 % 16)) = some n ∧
      isHighSurrogate n = false ∧ unitChar n = Char.ofNat n := by
  decide

/-- A character is read back from its escape. -/
theorem readString_escapeChar (c : Char) (h0 : s ≠ []) (start acc : List Char) :
    readString start acc (escapeChar c ++ s) = readString start (c :: acc) s := by
  have hsimple {d : Char} (hd : d ≠ 'u') (h : simpleEscape? d = some c) :
      readString start acc (['\\', d] ++ s) = readString start (c :: acc) s := by
    rw [List.cons_append, List.cons_append, List.nil_append, readString, h]
    all_goals intros; contradiction
  unfold escapeChar
  split
  next h =>
    obtain rfl | rfl := h
    · exact hsimple (by decide) rfl
    · exact hsimple (by decide) rfl
  next h =>
    obtain ⟨hq, hb⟩ := not_or.mp h
    repeat' split
    · subst_vars; exact hsimple (by decide) rfl
    · subst_vars; exact hsimple (by decide) rfl
    · subst_vars; exact hsimple (by decide) rfl
    next h8 =>
      obtain rfl : c = '\x08' := Char.toNat_inj.mp h8
      exact hsimple (by decide) rfl
    next h12 =>
      obtain rfl : c = '\x0c' := Char.toNat_inj.mp h12
      exact hsimple (by decide) rfl
    next h32 =>
      obtain ⟨hx, hs, hc⟩ := hex4?_hexDigit c.toNat h32
      rw [Char.ofNat_toNat] at hc
      have h := readString_unit hx hs h0 start acc
      rwa [hc] at h
    next h32 =>
      rw [List.singleton_append, readString, if_neg h32]
      all_goals intros; contradiction

/-- A text is read up to the quote behind it. -/
theorem readString_flatMap (s r start acc : List Char) :
    readString start acc (s.flatMap escapeChar ++ '"' :: r) =
      .ok (String.ofList (acc.reverse ++ s), r) := by
  induction s generalizing acc with
  | nil => rw [List.flatMap_nil, List.nil_append, readString, List.append_nil]
  | cons c s ih =>
    rw [List.flatMap_cons, List.append_assoc, readString_escapeChar c (by simp), ih,
      List.reverse_cons, List.append_assoc, List.singleton_append]

/-- A text is read back from its quotes. -/
theorem readString_quote (s : String) (start r : List Char) :
    readString start [] (s.toList.flatMap escapeChar ++ ['"'] ++ r) = .ok (s, r) := by
  rw [List.append_assoc, List.singleton_append, readString_flatMap, List.reverse_nil,
    List.nil_append, String.ofList_toList]

/-! ## Values -/

/-- A value that a reader takes back who goes `n` levels deep. -/
inductive Legible : Nat → Value → Prop
  | null {n : Nat} : Legible n .null
  | bool {n : Nat} {b : Bool} : Legible n (.bool b)
  | int {n : Nat} {z : Int} (h : digitCount z.natAbs ≤ maxDigits) : Legible n (.int z)
  | float {n : Nat} {x : Binary64} (hn : x.isNaN = false) (hi : x.isInfinite = false) :
    Legible n (.float x)
  | text {n : Nat} {s : String} : Legible n (.text s)
  | list {n : Nat} {vs : List Value} (h : ∀ v ∈ vs, Legible n v) : Legible (n + 1) (.list vs)
  | record {n : Nat} {fs : List (String × Value)} (hk : (fs.map Prod.fst).Nodup)
    (h : ∀ f ∈ fs, Legible n f.2) : Legible (n + 1) (.record fs)

/-- What comes back is what was written, but for the floating point numbers. -/
inductive Echoes : Value → Value → Prop
  | same {v : Value} : Echoes v v
  | float {x y : Binary64} : Echoes (.float x) (.float y)
  | list {vs ws : List Value} (h : List.Forall₂ Echoes vs ws) : Echoes (.list vs) (.list ws)
  | record {fs gs : List (String × Value)} (hk : gs.map Prod.fst = fs.map Prod.fst)
    (h : List.Forall₂ Echoes (fs.map Prod.snd) (gs.map Prod.snd)) :
    Echoes (.record fs) (.record gs)

/-- A reader that has enough steps and levels left takes a value back and stops behind it. -/
def ReadsBack (n : Nat) (v : Value) : Prop :=
  ∀ (fuel depth : Nat) (r : List Char), Ends r → 2 * (write v).length ≤ fuel →
    depth + n ≤ maxDepth → ∃ w, readValue true fuel depth (write v ++ r) = .ok (w, r) ∧ Echoes v w

variable {n : Nat} {v : Value}

/-- No value begins with a blank, with the end of a container or with a byte order mark. -/
theorem exists_write_eq_cons (h : Legible n v) :
    ∃ c s, write v = c :: s ∧ c ∉ [' ', '\t', '\n', '\r', ']', '}', '\uFEFF'] := by
  have hnumber {b : Bool} {s : List Char} (h : IsNumber b s) :
      ∃ c t, s = c :: t ∧ c ∉ [' ', '\t', '\n', '\r', ']', '}', '\uFEFF'] := by
    obtain ⟨c, t, rfl, hc⟩ := h.exists_eq_cons
    exact ⟨c, t, rfl, fun hm ↦ (by simp : ∀ c ∈ [' ', '\t', '\n', '\r', ']', '}', '\uFEFF'],
      ¬ (c.isDigit = true ∨ c = '-')) c hm hc⟩
  cases h with
  | null => exact ⟨_, _, rfl, by decide⟩
  | @bool _ b => cases b <;> exact ⟨_, _, rfl, by decide⟩
  | int => exact hnumber (isNumber_intText _)
  | float hn hi => exact hnumber (isNumber_render hn hi)
  | text => exact ⟨_, _, rfl, by decide⟩
  | list => exact ⟨_, _, rfl, by decide⟩
  | record => exact ⟨_, _, rfl, by decide⟩

/-- Nothing is skipped in front of a mark. -/
theorem skipSpace_cons {c : Char} (h : c ∉ [' ', '\t', '\n', '\r']) (s : List Char) :
    skipSpace (c :: s) = c :: s := by
  have hc : isSpace c = false := by
    simp only [List.mem_cons, List.not_mem_nil, or_false] at h
    exact decide_eq_false h
  rw [skipSpace, List.dropWhile_cons, hc, if_neg Bool.false_ne_true]

/-- No blank comes before a value as it is written. -/
theorem skipSpace_write (h : Legible n v) (r : List Char) :
    skipSpace (write v ++ r) = write v ++ r := by
  obtain ⟨c, s, hv, hc⟩ := exists_write_eq_cons h
  rw [hv, List.cons_append]
  exact skipSpace_cons (fun h ↦ hc (List.mem_append_left _ h)) (s ++ r)

/-- A word or a number is read as it stands. -/
theorem readsBack_of_readAtom {c : Char} {s : List Char} (hv : write v = c :: s)
    (hc : c ∉ ['"', '[', '{'])
    (h : ∀ r, Ends r → ∃ w, readAtom true (write v ++ r) = .ok (w, r) ∧ Echoes v w) :
    ReadsBack n v := by
  intro fuel depth r hr hf hd
  rw [hv, List.length_cons] at hf
  obtain ⟨fuel, rfl⟩ := Nat.exists_eq_succ_of_ne_zero (by omega : fuel ≠ 0)
  simp only [List.mem_cons, List.not_mem_nil, or_false, not_or] at hc
  obtain ⟨w, hw, he⟩ := h r hr
  rw [hv, List.cons_append] at hw ⊢
  refine ⟨w, ?_, he⟩
  rw [readValue, hw]
  · exact fun t ht ↦ hc.1 (List.cons.inj ht).1
  · exact fun t ht ↦ hc.2.1 (List.cons.inj ht).1
  · exact fun t ht ↦ hc.2.2 (List.cons.inj ht).1

/-- A number reads back if its text does. -/
theorem readsBack_number {b : Bool} (hs : IsNumber b (write v))
    (h : ∀ r, Ends r → ∃ w, readAtom true (write v ++ r) = .ok (w, r) ∧ Echoes v w) :
    ReadsBack n v := by
  obtain ⟨c, s, hv, hc⟩ := hs.exists_eq_cons
  exact readsBack_of_readAtom hv (fun hm ↦
    (by simp : ∀ c ∈ ['"', '[', '{'], ¬ (c.isDigit = true ∨ c = '-')) c hm hc) h

/-- A text reads back. -/
theorem readsBack_text (s : String) : ReadsBack n (.text s) := by
  intro fuel depth r _ hf _
  rw [write, quote, List.length_cons] at hf
  obtain ⟨fuel, rfl⟩ := Nat.exists_eq_succ_of_ne_zero (by omega : fuel ≠ 0)
  refine ⟨.text s, ?_, .same⟩
  rw [write, quote, List.cons_append, readValue, readString_quote]
  rfl

/-! ## Containers -/

/-- A container may be closed behind an element. -/
theorem afterElement_closed {c : Char} (h : c ∉ [' ', '\t', '\n', '\r']) (s : List Char) :
    afterElement c (c :: s) = .closed s := by
  rw [afterElement, skipSpace_cons h]
  exact if_pos rfl

/-- Another element may come behind a comma. -/
theorem afterElement_more {close c : Char} (h : close ≠ ',') (hc : c ∉ [' ', '\t', '\n', '\r'])
    (s : List Char) : afterElement close (',' :: ' ' :: c :: s) = .more (c :: s) := by
  rw [afterElement, skipSpace_cons (by decide)]
  dsimp only
  rw [if_neg h.symm, if_pos rfl]
  exact congrArg Continue.more (skipSpace_cons hc s)

/-- A mark ends a number. -/
theorem ends_cons {c : Char} (h : c ∈ [',', ']', '}']) (r : List Char) : Ends (c :: r) :=
  fun _ hd ↦ Option.some.inj hd ▸ h

/-- Texts with separators begin with the first of them. -/
theorem exists_intercalate_eq_cons {c : Char} {s t : List Char} (h : s = c :: t)
    (ss : List (List Char)) : ∃ u, [',', ' '].intercalate (s :: ss) = c :: u := by
  subst h
  cases ss with
  | nil => exact ⟨t, List.intercalate_singleton⟩
  | cons s ss => exact ⟨_, by rw [List.intercalate_cons_cons, List.cons_append, List.cons_append]⟩

/-- The elements of a list are read one by one, each with a step less. -/
theorem readElements_intercalate {vs : List Value} (h0 : vs ≠ []) (hl : ∀ v ∈ vs, Legible n v)
    (h : ∀ v ∈ vs, ReadsBack n v) (fuel : Nat) {depth : Nat}
    (hf : 2 * ([',', ' '].intercalate (vs.map write)).length ≤ fuel) (hd : depth + n ≤ maxDepth)
    (acc : List Value) (r : List Char) :
    ∃ ws, readElements true (fuel + 1) depth acc
        ([',', ' '].intercalate (vs.map write) ++ ']' :: r) =
      .ok (.list (acc.reverse ++ ws), r) ∧ List.Forall₂ Echoes vs ws := by
  induction vs generalizing fuel acc with
  | nil => exact absurd rfl h0
  | cons v vs ih =>
    obtain ⟨hv, hvs⟩ := List.forall_mem_cons.mp h
    obtain ⟨-, hls⟩ := List.forall_mem_cons.mp hl
    cases vs with
    | nil =>
      rw [List.map_singleton, List.intercalate_singleton] at hf ⊢
      obtain ⟨w, hw, he⟩ := hv fuel depth (']' :: r) (ends_cons (by decide) r) hf hd
      refine ⟨[w], ?_, .cons he .nil⟩
      rw [readElements, hw]
      dsimp only
      rw [afterElement_closed (by decide), List.reverse_cons]
    | cons u vs =>
      obtain ⟨hu, -⟩ := List.forall_mem_cons.mp hls
      obtain ⟨c, s, hu, hc⟩ := exists_write_eq_cons hu
      have hc : c ∉ [' ', '\t', '\n', '\r'] := fun h ↦ hc (List.mem_append_left _ h)
      obtain ⟨t, ht⟩ := exists_intercalate_eq_cons hu (vs.map write)
      rw [List.map_cons, List.map_cons, List.intercalate_cons_cons] at hf ⊢
      simp only [List.length_append, List.length_cons, List.length_nil] at hf
      obtain ⟨w, hw, he⟩ := hv fuel depth (',' :: ' ' :: ([',', ' '].intercalate
        (write u :: vs.map write) ++ ']' :: r)) (ends_cons (by decide) _) (by omega) hd
      obtain ⟨fuel, rfl⟩ := Nat.exists_eq_succ_of_ne_zero (by omega : fuel ≠ 0)
      obtain ⟨ws, hws, hes⟩ := ih nofun hls hvs fuel (by rw [List.map_cons]; omega) (w :: acc)
      refine ⟨w :: ws, ?_, .cons he hes⟩
      rw [List.append_assoc, List.append_assoc, List.cons_append, List.cons_append, List.nil_append,
        readElements, hw]
      dsimp only
      rw [List.map_cons, ht, List.cons_append, List.reverse_cons, List.append_assoc] at hws
      rw [ht, List.cons_append, afterElement_more (by decide) hc]
      exact hws

/-- A list reads back if its elements do. -/
theorem readsBack_list {vs : List Value} (hl : ∀ v ∈ vs, Legible n v)
    (h : ∀ v ∈ vs, ReadsBack n v) : ReadsBack (n + 1) (.list vs) := by
  intro fuel depth r _ hf hd
  rw [write, writeList_eq_map] at hf ⊢
  simp only [List.length_append, List.length_cons, List.length_nil] at hf
  obtain ⟨fuel, rfl⟩ := Nat.exists_eq_add_of_le' (by omega : 2 ≤ fuel)
  rw [List.append_assoc, List.cons_append, List.singleton_append, readValue,
    if_neg (by omega : ¬ depth ≥ maxDepth)]
  cases vs with
  | nil =>
    refine ⟨.list [], ?_, .same⟩
    rw [List.map_nil, List.intercalate_nil, List.nil_append, skipSpace_cons (by decide)]
    rfl
  | cons v vs =>
    obtain ⟨hv, -⟩ := List.forall_mem_cons.mp hl
    obtain ⟨c, s, hv, hc⟩ := exists_write_eq_cons hv
    obtain ⟨t, ht⟩ := exists_intercalate_eq_cons hv (vs.map write)
    obtain ⟨ws, hws, hes⟩ := readElements_intercalate (List.cons_ne_nil v vs) hl h fuel
      (by omega) (by omega : depth + 1 + n ≤ maxDepth) [] r
    refine ⟨.list ws, ?_, .list hes⟩
    rw [List.map_cons, ht, List.cons_append] at hws ⊢
    rw [skipSpace_cons fun h ↦ hc (List.mem_append_left _ h)]
    split
    next he =>
      obtain ⟨rfl, -⟩ := List.cons.inj he
      exact absurd (by decide) hc
    next => exact hws

/-- A field of a record in a text. -/
def fieldText (f : String × Value) : List Char := quote f.1.toList ++ ':' :: ' ' :: write f.2

/-- A field is read up to what follows its value. -/
theorem readFields_fieldText {f : String × Value} (hl : Legible n f.2) (h : ReadsBack n f.2)
    {fuel depth : Nat} (hf : 2 * (fieldText f).length ≤ fuel) (hd : depth + n ≤ maxDepth)
    (acc : List (String × Value)) {r : List Char} (hr : Ends r) :
    ∃ w, Echoes f.2 w ∧ readFields true (fuel + 1) depth acc (fieldText f ++ r) =
      match afterElement '}' r with
      | .closed r => .ok (.record (Row.ofPairs ((f.1, w) :: acc).reverse), r)
      | .more r => readFields true fuel depth ((f.1, w) :: acc) r
      | .neither r => .error ⟨.expectingComma, r⟩ := by
  obtain ⟨k, v⟩ := f
  dsimp only at hl h hf ⊢
  have hlen : (write v).length ≤ (fieldText (k, v)).length := by
    rw [fieldText, List.length_append, List.length_cons, List.length_cons]
    dsimp only
    omega
  obtain ⟨w, hw, he⟩ := h fuel depth r hr (by omega) hd
  have hcolon (t : List Char) : skipSpace (':' :: t) = ':' :: t := skipSpace_cons (by decide) t
  have hblank : skipSpace (' ' :: (write v ++ r)) = write v ++ r := skipSpace_write hl r
  refine ⟨w, he, ?_⟩
  rw [fieldText, quote, List.append_assoc, List.cons_append, readFields]
  cases ha : afterElement '}' r <;>
    simp only [readString_quote, List.cons_append, hcolon, hblank, hw, ha]

/-- Fields are read one by one, as often as there are some. -/
theorem readFields_intercalate {fs : List (String × Value)} (h0 : fs ≠ [])
    (hl : ∀ f ∈ fs, Legible n f.2) (h : ∀ f ∈ fs, ReadsBack n f.2) (fuel : Nat) {depth : Nat}
    (hf : 2 * ([',', ' '].intercalate (fs.map fieldText)).length ≤ fuel)
    (hd : depth + n ≤ maxDepth) (acc : List (String × Value)) (r : List Char) :
    ∃ gs, readFields true (fuel + 1) depth acc
        ([',', ' '].intercalate (fs.map fieldText) ++ '}' :: r) =
      .ok (.record (Row.ofPairs (acc.reverse ++ gs)), r) ∧
      gs.map Prod.fst = fs.map Prod.fst ∧
      List.Forall₂ Echoes (fs.map Prod.snd) (gs.map Prod.snd) := by
  induction fs generalizing fuel acc with
  | nil => exact absurd rfl h0
  | cons f fs ih =>
    obtain ⟨hv, hvs⟩ := List.forall_mem_cons.mp h
    obtain ⟨hlv, hls⟩ := List.forall_mem_cons.mp hl
    cases fs with
    | nil =>
      rw [List.map_singleton, List.intercalate_singleton] at hf ⊢
      obtain ⟨w, he, hw⟩ := readFields_fieldText hlv hv hf hd acc
        (ends_cons (c := '}') (by decide) r)
      refine ⟨[(f.1, w)], ?_, rfl, .cons he .nil⟩
      rw [hw, afterElement_closed (by decide), List.reverse_cons]
    | cons g fs =>
      obtain ⟨t, ht⟩ := exists_intercalate_eq_cons (rfl : fieldText g = '"' :: _)
        (fs.map fieldText)
      rw [List.map_cons, List.map_cons, List.intercalate_cons_cons] at hf ⊢
      simp only [List.length_append, List.length_cons, List.length_nil] at hf
      obtain ⟨fuel, rfl⟩ := Nat.exists_eq_succ_of_ne_zero (by omega : fuel ≠ 0)
      obtain ⟨w, he, hw⟩ := readFields_fieldText hlv hv (by omega : _ ≤ fuel + 1) hd acc
        (ends_cons (c := ',') (by decide) (' ' :: ([',', ' '].intercalate
          (fieldText g :: fs.map fieldText) ++ '}' :: r)))
      obtain ⟨gs, hgs, hk, hes⟩ := ih nofun hls hvs fuel (by rw [List.map_cons]; omega)
        ((f.1, w) :: acc)
      refine ⟨(f.1, w) :: gs, ?_, congrArg (f.1 :: ·) hk, .cons he hes⟩
      rw [List.map_cons, ht, List.cons_append, List.reverse_cons, List.append_assoc] at hgs
      rw [List.append_assoc, List.append_assoc, List.cons_append, List.cons_append, List.nil_append,
        hw, ht, List.cons_append, afterElement_more (by decide) (by decide)]
      exact hgs

/-- A name that is not there yet is put at the end. -/
theorem put_of_notMem {ρ : Row} {k : String} (h : k ∉ ρ.map Prod.fst) (v : Value) :
    ρ.put k v = ρ ++ [(k, v)] := by
  induction ρ with
  | nil => rfl
  | cons p ρ ih =>
    obtain ⟨l, w⟩ := p
    obtain ⟨hk, hρ⟩ := not_or.mp (mt List.mem_cons.mpr h)
    rw [Row.put, if_neg (Ne.symm hk), ih hρ, List.cons_append]

/-- Fields of different names stay as they are. -/
theorem ofPairs_of_nodup {fs : List (String × Value)} (h : (fs.map Prod.fst).Nodup) :
    Row.ofPairs fs = fs := by
  suffices ∀ (ρ : Row), ((ρ ++ fs).map Prod.fst).Nodup →
      fs.foldl (fun ρ p ↦ Row.put ρ p.1 p.2) ρ = ρ ++ fs from this [] h
  clear h
  induction fs with
  | nil => exact fun ρ _ ↦ (List.append_nil ρ).symm
  | cons f fs ih =>
    intro ρ hρ
    have hmove : ρ ++ f :: fs = ρ ++ [f] ++ fs := by rw [List.append_assoc, List.singleton_append]
    have hk : f.1 ∉ ρ.map Prod.fst := fun hk ↦ by
      rw [List.map_append, List.map_cons] at hρ
      exact (List.nodup_append.mp hρ).2.2 _ hk _ List.mem_cons_self rfl
    rw [List.foldl_cons, put_of_notMem hk, hmove]
    exact ih _ (hmove ▸ hρ)

/-- A record reads back if its fields do and their names differ. -/
theorem readsBack_record {fs : List (String × Value)} (hk : (fs.map Prod.fst).Nodup)
    (hl : ∀ f ∈ fs, Legible n f.2) (h : ∀ f ∈ fs, ReadsBack n f.2) :
    ReadsBack (n + 1) (.record fs) := by
  intro fuel depth r _ hf hd
  have htext : writeFields fs = fs.map fieldText := by
    rw [writeFields_eq_map, List.map_map]
    rfl
  rw [write, htext] at hf ⊢
  simp only [List.length_append, List.length_cons, List.length_nil] at hf
  obtain ⟨fuel, rfl⟩ := Nat.exists_eq_add_of_le' (by omega : 2 ≤ fuel)
  rw [List.append_assoc, List.cons_append, List.singleton_append, readValue,
    if_neg (by omega : ¬ depth ≥ maxDepth)]
  cases fs with
  | nil =>
    refine ⟨.record [], ?_, .same⟩
    rw [List.map_nil, List.intercalate_nil, List.nil_append, skipSpace_cons (by decide)]
    rfl
  | cons f fs =>
    obtain ⟨t, ht⟩ := exists_intercalate_eq_cons (rfl : fieldText f = '"' :: _)
      (fs.map fieldText)
    obtain ⟨gs, hgs, hnames, hes⟩ := readFields_intercalate (List.cons_ne_nil f fs) hl h fuel
      (by omega) (by omega : depth + 1 + n ≤ maxDepth) [] r
    rw [List.reverse_nil, List.nil_append, ofPairs_of_nodup (hnames ▸ hk)] at hgs
    refine ⟨.record gs, ?_, .record hnames hes⟩
    rw [List.map_cons, ht, List.cons_append] at hgs ⊢
    rw [skipSpace_cons (by decide)]
    exact hgs

/-- A value that a reader takes back who goes deep enough is read back. -/
theorem readsBack (h : Legible n v) : ReadsBack n v := by
  induction h with
  | null => exact readsBack_of_readAtom rfl (by decide) fun r _ ↦ ⟨.null, rfl, .same⟩
  | @bool n b =>
    cases b <;> exact readsBack_of_readAtom rfl (by decide) fun r _ ↦ ⟨.bool _, rfl, .same⟩
  | int hz =>
    exact readsBack_number (isNumber_intText _) fun r hr ↦ ⟨_, readAtom_int hz hr, .same⟩
  | float hn hi =>
    refine readsBack_number (isNumber_render hn hi) fun r hr ↦ ?_
    obtain ⟨x, hx⟩ := readAtom_real (isNumber_render hn hi) hr
    exact ⟨.float x, hx, .float⟩
  | text => exact readsBack_text _
  | list hl ih => exact readsBack_list hl ih
  | record hk hl ih => exact readsBack_record hk hl ih

/-- A strict reader takes back what was written. -/
theorem read_write (h : Legible maxDepth v) :
    ∃ w, read true (write v) = .ok w ∧ Echoes v w := by
  obtain ⟨c, s, hv, hc⟩ := exists_write_eq_cons h
  obtain ⟨w, hw, he⟩ := readsBack h (2 * (write v).length + 1) 0 [] nofun (Nat.le_succ _)
    (Nat.le_of_eq (Nat.zero_add maxDepth))
  have hs := skipSpace_write h []
  refine ⟨w, ?_, he⟩
  rw [List.append_nil] at hw hs
  unfold read
  split
  next hmark =>
    obtain ⟨rfl, -⟩ := List.cons.inj (hv.symm.trans hmark)
    exact absurd (by decide) hc
  next =>
    rw [hs, hw]
    rfl

end Sluice.Json
