import Sluice.Proofs.Decimal.Digits

/-!
# The text of a decimal number

The text of a decimal number reads back as that number (`ofText?_text`): sign, coefficient and
exponent are all in it, so no two numbers have one text (`text_injective`).
-/

namespace Sluice.Decimal.Scientific

variable {c : Char} {p r s w x : List Char} {ν : Bool}

/-! ## Numbers without a sign -/

theorem toLower_of_isDigit (hc : c.isDigit = true) : c.toLower = c := by
  have h9 : '9'.val.toNat < 'A'.val.toNat := by decide
  refine dif_neg (c := 'A'.val ≤ c.val ∧ c.val ≤ 'Z'.val) fun h ↦ ?_
  simp only [Char.isDigit, UInt32.le_iff_toNat_le, ge_iff_le, Bool.and_eq_true,
    decide_eq_true_eq] at hc h
  omega

/-- What is read of a point and the digits behind it. -/
def behindPoint : List Char → List Char × List Char
  | '.' :: r => span r
  | r => ([], r)

/-- A text that begins with a digit is no name of an infinity or a NaN. -/
theorem magnitude?_of_isDigit (hc : c.isDigit = true) (hw : span (c :: s) = (c :: w, r))
    (hp : behindPoint r = (p, x)) :
    magnitude? ν (c :: s) =
      (exponent? x).map fun e ↦ .finite ν (digitsValue (c :: w ++ p)) (e - p.length) := by
  have hne {d : Char} (hd : d.isDigit = false) : c ≠ d := by
    rintro rfl
    rw [hc] at hd
    cases hd
  have hword {d : Char} (hd : d.isDigit = false) (t u : List Char) :
      String.ofList ((c :: t).map Char.toLower) ≠ String.ofList (d :: u) := fun h ↦
    hne hd (toLower_of_isDigit hc ▸ (List.cons.inj (String.ofList_injective h)).1)
  have hinf : ¬ (String.ofList ((c :: s).map Char.toLower) = "inf" ∨
      String.ofList ((c :: s).map Char.toLower) = "infinity") :=
    not_or.mpr ⟨hword rfl s _, hword rfl s _⟩
  have hnan : String.ofList (((c :: s).take 3).map Char.toLower) ≠ "nan" := hword rfl (s.take 2) _
  unfold magnitude?
  dsimp only
  rw [if_neg hinf]
  split
  next h => exact absurd (List.cons.inj h).1 (hne rfl)
  next h => exact absurd (List.cons.inj h).1 (hne rfl)
  next =>
    rw [if_neg fun h ↦ hnan h.1, hw]
    change (if (c :: w).isEmpty ∧ (behindPoint r).1.isEmpty then none
      else (exponent? (behindPoint r).2).map fun e ↦ Scientific.finite ν
        (digitsValue (c :: w ++ (behindPoint r).1)) (e - (behindPoint r).1.length)) = _
    rw [hp]
    rfl

/-- A point and the digits behind it, or nothing if there are none. -/
def pointed : List Char → List Char
  | [] => []
  | p => '.' :: p

theorem pointed_of_ne_nil (h : p ≠ []) : pointed p = '.' :: p := by
  cases p with
  | nil => exact absurd rfl h
  | cons => rfl

/-- What may follow the digits of a number: nothing, or an exponent. -/
def IsTail (x : List Char) : Prop := ∀ c ∈ x.head?, c = 'E'

theorem IsTail.noDigit (hx : IsTail x) : NoDigit x := fun c hc ↦ by
  rw [hx c hc]
  rfl

theorem span_append (hs : ∀ c ∈ s, c.isDigit = true) (hx : NoDigit x) : span (s ++ x) = (s, x) := by
  rw [span, takeWhile_isDigit_append hs hx, dropWhile_isDigit_append hs hx]

/-- Digits around a point and what follows them, which together spell `c · 10 ^ e`. -/
structure Spells (c : Nat) (e : Int) (w p x : List Char) : Prop where
  ne_nil : w ≠ []
  whole : ∀ d ∈ w, d.isDigit = true
  part : ∀ d ∈ p, d.isDigit = true
  tail : IsTail x
  coefficient : digitsValue (w ++ p) = c
  exponent : exponent? x = some (e + p.length)

/-- The digits behind the point lower the exponent. -/
theorem Spells.magnitude? {n : Nat} {e : Int} (h : Spells n e w p x) :
    magnitude? ν (w ++ (pointed p ++ x)) = some (.finite ν n e) := by
  obtain ⟨c, w, rfl⟩ := List.exists_cons_of_ne_nil h.ne_nil
  have hc : c.isDigit = true := h.whole c List.mem_cons_self
  suffices magnitude? ν (c :: w ++ (pointed p ++ x)) = (exponent? x).map fun e ↦
      .finite ν (digitsValue (c :: w ++ p)) (e - p.length) by
    rw [this, h.exponent, h.coefficient, Option.map_some, Int.add_sub_cancel]
  cases p with
  | nil =>
    refine magnitude?_of_isDigit hc (span_append h.whole h.tail.noDigit) ?_
    cases x with
    | nil => rfl
    | cons e x =>
      obtain rfl : e = 'E' := h.tail e rfl
      rfl
  | cons d p =>
    have hpoint : NoDigit ('.' :: (d :: p ++ x)) := noDigit_cons.mpr rfl
    exact magnitude?_of_isDigit hc (span_append h.whole hpoint) (span_append h.part h.tail.noDigit)

/-! ## The text of a finite number -/

/-- The mark, the sign and the digits of an exponent, or nothing if it is zero. -/
def exponentText (x : Int) : List Char :=
  if x = 0 then [] else 'E' :: (if x < 0 then '-' else '+') :: natDigits x.natAbs

theorem isTail_exponentText (x : Int) : IsTail (exponentText x) := by
  unfold exponentText
  split
  · exact nofun
  · exact fun c hc ↦ (Option.some.inj hc).symm

theorem exponent?_exponentText (x : Int) : exponent? (exponentText x) = some x := by
  have hall : (natDigits x.natAbs).all Char.isDigit = true :=
    List.all_eq_true.mpr fun _ ↦ isDigit_of_mem_natDigits
  have hne : (natDigits x.natAbs).isEmpty = false := by simp [natDigits_ne_nil]
  have hread (ν : Bool) : exponent? ('E' :: (if ν then '-' else '+') :: natDigits x.natAbs) =
      some (if ν then -(x.natAbs : Int) else x.natAbs) := by
    cases ν <;> simp [exponent?, hall, hne]
  unfold exponentText
  split
  next h0 => rw [h0, exponent?]
  next =>
    have hν := hread (decide (x < 0))
    simp only [decide_eq_true_eq] at hν
    rw [hν]
    congr 1
    split <;> omega

section Digits

variable {ds : List Char} (hd : ∀ c ∈ ds, c.isDigit = true)

include hd

/-- Zeros and all digits stand behind the point. -/
theorem spells_zeros (k : Nat) {e : Int} (he : e + k + ds.length = 0) :
    Spells (digitsValue ds) e ['0'] (List.replicate k '0' ++ ds) [] := by
  refine ⟨nofun, by simp, ?_, nofun, digitsValue_zeros_append (k + 1) ds, ?_⟩
  · intro d h
    obtain h | h := List.mem_append.mp h
    · rw [List.eq_of_mem_replicate h]
      rfl
    · exact hd d h
  · rw [exponent?, List.length_append, List.length_replicate]
    congr 1
    omega

/-- The point stands behind some digits. -/
theorem spells_take (hne : ds ≠ []) {k : Nat} (hk : k ≠ 0) {e : Int} (hx : IsTail x)
    (he : exponent? x = some (e + (ds.drop k).length)) :
    Spells (digitsValue ds) e (ds.take k) (ds.drop k) x where
  ne_nil h := (List.take_eq_nil_iff.mp h).elim hk hne
  whole c h := hd c (List.mem_of_mem_take h)
  part c h := hd c (List.mem_of_mem_drop h)
  tail := hx
  coefficient := by rw [List.take_append_drop]
  exponent := he

end Digits

theorem pointed_drop (ds : List Char) (k : Nat) :
    pointed (ds.drop k) = if ds.length ≤ k then [] else '.' :: ds.drop k := by
  split
  next h => rw [List.drop_eq_nil_of_le h, pointed]
  next h => exact pointed_of_ne_nil fun h' ↦ h (List.drop_eq_nil_iff.mp h')

/-- A number is written as digits around a point, or as one digit, the others behind a point, and an
exponent. -/
theorem exists_spells (n : Nat) (e : Int) :
    ∃ w p x, finiteText n e = w ++ (pointed p ++ x) ∧ Spells n e w p x := by
  have hd (c : Char) (hc : c ∈ natDigits n) : c.isDigit = true := isDigit_of_mem_natDigits hc
  have hne := natDigits_ne_nil n
  suffices ∃ w p x, finiteText n e = w ++ (pointed p ++ x) ∧
      Spells (digitsValue (natDigits n)) e w p x by rwa [digitsValue_natDigits] at this
  unfold finiteText
  generalize natDigits n = ds at hd hne
  have hlen : 0 < ds.length := List.length_pos_iff.mpr hne
  dsimp only
  split
  next hpos =>
    split
    next hleft =>
      refine ⟨_, _, _, ?_, spells_zeros hd (e + ds.length).natAbs (by omega)⟩
      rw [pointed_of_ne_nil (by simp [hne]), List.append_nil, List.singleton_append]
    next hleft =>
      obtain ⟨k, hk⟩ : ∃ k : Nat, e + ds.length = k := ⟨_, (Int.toNat_of_nonneg (by omega)).symm⟩
      have he : exponent? [] = some (e + (ds.drop k).length) := by
        rw [exponent?, List.length_drop]
        congr 1
        omega
      refine ⟨_, _, _, ?_, spells_take hd hne (k := k) (by omega) (x := []) nofun he⟩
      rw [hk, Int.toNat_natCast, pointed_drop, List.append_nil]
      split
      next h0 =>
        rw [if_pos (by omega), List.take_of_length_le (by omega), List.append_nil]
      next h0 => rw [if_neg (by omega)]
  next hexp =>
    have he : exponent? (exponentText (e + ds.length - 1)) = some (e + (ds.drop 1).length) := by
      rw [exponent?_exponentText, List.length_drop]
      congr 1
      omega
    refine ⟨_, _, _, ?_, spells_take hd hne (k := 1) Nat.one_ne_zero (isTail_exponentText _) he⟩
    rw [List.append_assoc, pointed_drop]
    rfl

/-! ## Numbers with a sign -/

/-- The text of a finite number begins with a digit. -/
theorem exists_finiteText_eq_cons (n : Nat) (e : Int) :
    ∃ c s, finiteText n e = c :: s ∧ c.isDigit = true := by
  obtain ⟨w, p, x, hs, h⟩ := exists_spells n e
  obtain ⟨c, w, rfl⟩ := List.exists_cons_of_ne_nil h.ne_nil
  exact ⟨c, _, hs, h.whole c List.mem_cons_self⟩

/-- The sign is read first. -/
theorem ofText?_signed (ν : Bool) {c : Char} (hc : c ≠ '-' ∧ c ≠ '+') (s : List Char) :
    ofText? ((if ν then ['-'] else []) ++ c :: s) = magnitude? ν (c :: s) := by
  cases ν with
  | true => rfl
  | false =>
    unfold ofText?
    split
    next h => exact absurd (List.cons.inj h).1 hc.1
    next h => exact absurd (List.cons.inj h).1 hc.2
    next => rfl

/-- Behind the name of a NaN stand the digits of its payload. -/
theorem magnitude?_nan (ν σ : Bool) {s : List Char} (hs : ∀ c ∈ s, c.isDigit = true) :
    magnitude? ν ((if σ then ['s'] else []) ++ ('N' :: 'a' :: 'N' :: s)) =
      some (.nan ν σ (digitsValue s)) := by
  have hall : s.all Char.isDigit = true := List.all_eq_true.mpr hs
  have hinf {c : Char} (hc : c ≠ 'i') (t : List Char) :
      ¬ (String.ofList (c :: t) = "inf" ∨ String.ofList (c :: t) = "infinity") := by
    rintro (h | h) <;> exact hc (List.cons.inj (String.ofList_injective h)).1
  cases σ with
  | true => exact (if_neg (hinf (c := 's') (by decide) _)).trans (if_pos ⟨rfl, hall⟩)
  | false => exact (if_neg (hinf (c := 'n') (by decide) _)).trans (if_pos ⟨rfl, hall⟩)

/-- The text of a number reads back. -/
theorem ofText?_text (δ : Scientific) : ofText? δ.text = some δ := by
  cases δ with
  | finite ν n e =>
    obtain ⟨c, s, hs, hc⟩ := exists_finiteText_eq_cons n e
    obtain ⟨w, p, x, hw, h⟩ := exists_spells n e
    have hsign : c ≠ '-' ∧ c ≠ '+' := by
      constructor <;> rintro rfl <;> cases hc
    rw [text, hs, ofText?_signed ν hsign, ← hs, hw, h.magnitude?]
  | infinite ν => cases ν <;> rfl
  | nan ν σ p =>
    have hp : digitsValue (if p = 0 then [] else natDigits p) = p := by
      split
      next h => exact h.symm
      next h => exact digitsValue_natDigits p
    have hd (c : Char) (hc : c ∈ if p = 0 then [] else natDigits p) : c.isDigit = true := by
      split at hc
      · cases hc
      · exact isDigit_of_mem_natDigits hc
    have hr := magnitude?_nan ν σ hd
    rw [hp] at hr
    rw [text, List.append_assoc, List.append_assoc, ← hr]
    cases σ <;> exact ofText?_signed ν (by decide) _

theorem text_injective : Function.Injective text := fun δ ε h ↦
  Option.some.inj (ofText?_text δ ▸ h ▸ ofText?_text ε)

end Sluice.Decimal.Scientific
