import Sluice.Json.Write
import Sluice.Proofs.Decimal.Digits

/-!
# Numbers as JSON has them

RFC 8259, section 6: a whole part without zeros in front, digits after a point, and an exponent,
of which the last two may be missing.  Integers and finite floating point numbers are written like
this (`isNumber_intText`, `isNumber_render`).
-/

namespace Sluice.Json

open Decimal

/-! ## The grammar of numbers -/

/-- A run of digits, at least one. -/
def IsDigits (s : List Char) : Prop := s ≠ [] ∧ ∀ c ∈ s, c.isDigit = true

/-- Zero alone, or digits of which the first one is not zero. -/
inductive IsWhole : List Char → Prop
  | zero : IsWhole ['0']
  | digits {c : Char} {s : List Char} (hc : c.isDigit = true) (h0 : c ≠ '0')
    (hs : ∀ d ∈ s, d.isDigit = true) : IsWhole (c :: s)

/-- Nothing, or a mark, perhaps a sign, and digits. -/
inductive IsExponent : List Char → Prop
  | none : IsExponent []
  | some {e : Char} {ν s : List Char} (he : e = 'e' ∨ e = 'E') (hν : ν ∈ [[], ['+'], ['-']])
    (hs : IsDigits s) : IsExponent (e :: (ν ++ s))

/-- A number without its sign; it is `real` if more than a whole part is there. -/
inductive IsMagnitude : Bool → List Char → Prop
  | whole {w : List Char} (hw : IsWhole w) : IsMagnitude false w
  | point {w f e : List Char} (hw : IsWhole w) (hf : IsDigits f) (he : IsExponent e) :
    IsMagnitude true (w ++ '.' :: (f ++ e))
  | mark {w e : List Char} (hw : IsWhole w) (he : IsExponent e) (h : e ≠ []) :
    IsMagnitude true (w ++ e)

inductive IsNumber : Bool → List Char → Prop
  | positive {b : Bool} {s : List Char} (h : IsMagnitude b s) : IsNumber b s
  | negative {b : Bool} {s : List Char} (h : IsMagnitude b s) : IsNumber b ('-' :: s)

variable {s : List Char}

theorem IsWhole.isDigits (h : IsWhole s) : IsDigits s := by
  cases h with
  | zero => exact ⟨nofun, List.forall_mem_singleton.mpr rfl⟩
  | digits hc _ hs => exact ⟨nofun, List.forall_mem_cons.mpr ⟨hc, hs⟩⟩

theorem IsMagnitude.exists_eq_cons {b : Bool} (h : IsMagnitude b s) :
    ∃ c t, s = c :: t ∧ c.isDigit = true := by
  have hw {w e : List Char} (hw : IsWhole w) : ∃ c t, w ++ e = c :: t ∧ c.isDigit = true := by
    obtain ⟨hne, hd⟩ := hw.isDigits
    obtain ⟨c, w, rfl⟩ := List.exists_cons_of_ne_nil hne
    exact ⟨c, w ++ e, rfl, hd c List.mem_cons_self⟩
  cases h with
  | whole h => exact List.append_nil s ▸ hw h
  | point h => exact hw h
  | mark h => exact hw h

theorem IsNumber.exists_eq_cons {b : Bool} (h : IsNumber b s) :
    ∃ c t, s = c :: t ∧ (c.isDigit = true ∨ c = '-') := by
  cases h with
  | positive h =>
    obtain ⟨c, t, rfl, hc⟩ := h.exists_eq_cons
    exact ⟨c, t, rfl, .inl hc⟩
  | negative => exact ⟨_, _, rfl, .inr rfl⟩

/-! ## Digits that are written -/

theorem isDigits_natDigits (n : Nat) : IsDigits (natDigits n) :=
  ⟨natDigits_ne_nil n, fun _ ↦ isDigit_of_mem_natDigits⟩

theorem isDigits_padded (w n : Nat) : IsDigits (padded w n) :=
  ⟨fun h ↦ natDigits_ne_nil n (List.append_eq_nil_iff.mp h).2, fun _ ↦ isDigit_of_mem_padded⟩

/-- The digits of a number other than zero do not begin with zero. -/
theorem exists_natDigits_eq_cons {n : Nat} (h : n ≠ 0) :
    ∃ c s, natDigits n = c :: s ∧ c ≠ '0' := by
  induction n using Nat.strongRecOn with
  | ind n ih =>
    unfold natDigits at ih ⊢
    rw [Nat.toDigits_eq_if (by decide)]
    split
    · exact ⟨_, _, rfl, mt Nat.digitChar_eq_zero.mp h⟩
    · obtain ⟨c, s, hs, hc⟩ := ih (n / 10) (by omega) (by omega)
      exact ⟨c, s ++ [_], by rw [hs, List.cons_append], hc⟩

theorem isWhole_natDigits (n : Nat) : IsWhole (natDigits n) := by
  by_cases h : n = 0
  · subst h
    exact .zero
  · obtain ⟨c, s, hs, hc⟩ := exists_natDigits_eq_cons h
    have hd (d : Char) (hd : d ∈ c :: s) : d.isDigit = true :=
      isDigit_of_mem_natDigits (hs ▸ hd)
    rw [hs]
    exact .digits (hd c List.mem_cons_self) hc fun d h ↦ hd d (List.mem_cons_of_mem c h)

theorem isNumber_intText (z : Int) : IsNumber false (intText z) := by
  unfold intText
  split
  · exact .negative (.whole (isWhole_natDigits _))
  · exact .positive (.whole (isWhole_natDigits _))

/-! ## Floating point numbers -/

/-- A decimal is found between two others, of which the lower one may be zero but is not taken then.
-/
theorem digits_ne_zero_of_atLength? {ι : Interval} {p : Int} {n : Nat} {δ : Numeral}
    (h : ι.atLength? p n = some δ) : δ.digits ≠ 0 := by
  unfold Interval.atLength? at h
  grind

/-- The fewest digits of a number other than zero are not zero. -/
theorem digits_shortest_ne_zero {m : Nat} (hm : m ≠ 0) (q : Int) : (shortest m q).digits ≠ 0 := by
  unfold shortest
  dsimp only
  cases h : (List.range 17).findSome? _ with
  | none => exact hm
  | some δ =>
    obtain ⟨n, -, hn⟩ := List.exists_of_findSome?_eq_some h
    exact digits_ne_zero_of_atLength? hn

theorem digits_normalize_ne_zero {δ : Numeral} (h : δ.digits ≠ 0) : δ.normalize.digits ≠ 0 := by
  suffices ∀ (n : Nat) (δ : Numeral), δ.digits ≠ 0 → (Numeral.normalize.go n δ).digits ≠ 0 from
    this _ δ h
  intro n
  induction n with
  | zero => exact fun _ ↦ id
  | succ n ih =>
    intro δ h
    unfold Numeral.normalize.go
    split
    · exact ih _ (by dsimp only; omega)
    · exact h

/-- A run of digits in front of a point and a run behind it. -/
theorem isMagnitude_point {w f : List Char} (hw : IsWhole w) (hf : IsDigits f) :
    IsMagnitude true (w ++ '.' :: f) := List.append_nil f ▸ .point hw hf .none

theorem isMagnitude_wholeSuffix {w : List Char} (hw : IsWhole w) :
    IsMagnitude true (w ++ floatLayout.wholeSuffix.toList) :=
  isMagnitude_point hw ⟨nofun, List.forall_mem_singleton.mpr rfl⟩

variable {c : Char} {p : Int}

/-- Digits stand before the point, after it, or on both sides of it. -/
theorem isMagnitude_place (hc : c ≠ '0') (hs : ∀ d ∈ c :: s, d.isDigit = true) :
    IsMagnitude true (floatLayout.place (c :: s) p) := by
  have hz {d : Char} {n : Nat} (h : d ∈ List.replicate n '0') : d.isDigit = true := by
    rw [List.eq_of_mem_replicate h]
    decide
  obtain ⟨hcd, hsd⟩ := List.forall_mem_cons.mp hs
  unfold Layout.place
  split
  · refine isMagnitude_point .zero ⟨by simp, fun d hd ↦ ?_⟩
    exact (List.mem_append.mp hd).elim hz (hs d)
  · split
    · refine isMagnitude_wholeSuffix (.digits hcd hc fun d hd ↦ ?_)
      exact (List.mem_append.mp hd).elim (hsd d) hz
    next h0 hl =>
      obtain ⟨n, hn⟩ : ∃ n, p.toNat = n + 1 := ⟨p.toNat - 1, by omega⟩
      rw [hn] at hl ⊢
      rw [List.take_succ_cons, List.drop_succ_cons]
      refine isMagnitude_point (.digits hcd hc fun d hd ↦ hsd d (List.mem_of_mem_take hd))
        ⟨fun h ↦ hl ?_, fun d hd ↦ hsd d (List.mem_of_mem_drop hd)⟩
      rw [List.length_cons]
      exact Nat.succ_le_succ (List.drop_eq_nil_iff.mp h)

/-- One digit stands before the point. -/
theorem isMagnitude_scientific (hc : c ≠ '0') (hs : ∀ d ∈ c :: s, d.isDigit = true) :
    IsMagnitude true (floatLayout.scientific (c :: s) p) := by
  obtain ⟨hcd, hsd⟩ := List.forall_mem_cons.mp hs
  have hν : [if p - 1 < 0 then '-' else '+'] ∈ [[], ['+'], ['-']] := by
    split <;> decide
  have hw : IsWhole [c] := .digits hcd hc nofun
  have he := IsExponent.some (.inl rfl) hν
    (isDigits_padded floatLayout.exponentWidth (p - 1).natAbs)
  cases s with
  | nil => exact .mark hw he nofun
  | cons d s => exact .point hw ⟨nofun, hsd⟩ he

theorem isMagnitude_decimal {δ : Numeral} (h : δ.digits ≠ 0) :
    IsMagnitude true (floatLayout.decimal δ) := by
  obtain ⟨c, s, hs, hc⟩ := exists_natDigits_eq_cons (digits_normalize_ne_zero h)
  have hd (d : Char) (h : d ∈ c :: s) : d.isDigit = true := isDigit_of_mem_natDigits (hs ▸ h)
  unfold Layout.decimal
  dsimp only
  rw [hs]
  split
  · exact isMagnitude_place hc hd
  · exact isMagnitude_scientific hc hd

/-- A floating point number that is finite is written as a number, and never as an integer. -/
theorem isNumber_render {x : Binary64} (hn : x.isNaN = false) (hi : x.isInfinite = false) :
    IsNumber true (floatLayout.render x) := by
  unfold Layout.render
  unfold Binary64.isNaN at hn
  unfold Binary64.isInfinite at hi
  cases hx : x.view with
  | nan => simp [hx] at hn
  | infinite ν => simp [hx] at hi
  | finite ν m q =>
    have hm : IsMagnitude true (if m = 0 then '0' :: floatLayout.wholeSuffix.toList
        else floatLayout.decimal (shortest m q)) := by
      split
      · exact isMagnitude_wholeSuffix .zero
      next h => exact isMagnitude_decimal (digits_shortest_ne_zero h q)
    cases ν
    · exact .positive hm
    · exact .negative hm

end Sluice.Json
