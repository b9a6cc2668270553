import Mathlib.Logic.Function.Basic
import Sluice.Decimal.Scientific

/-!
# Digits in a text

A run of digits ends where a character comes that is no digit, so a number is told apart from what
follows it (`natDigits_append_inj`, `padded_append_inj`, `intText_append_inj`).
-/

namespace Sluice.Decimal

open Scientific

variable {m n w : Nat} {r r' s s' : List Char}

/-! ## Digits that are written -/

theorem isDigit_of_mem_natDigits {c : Char} (h : c ∈ natDigits n) : c.isDigit = true :=
  Nat.isDigit_of_mem_toDigits (by decide) (by decide) h

theorem natDigits_ne_nil (n : Nat) : natDigits n ≠ [] := Nat.toDigits_ne_nil

theorem isDigit_of_mem_padded {c : Char} (h : c ∈ padded w n) : c.isDigit = true := by
  obtain h | h := List.mem_append.mp h
  · rw [List.eq_of_mem_replicate h]
    rfl
  · exact isDigit_of_mem_natDigits h

@[simp] theorem digitsValue_natDigits (n : Nat) : digitsValue (natDigits n) = n :=
  Nat.ofDigitChars_ten_toDigits

/-- Zeros in front of digits do not count. -/
@[simp] theorem digitsValue_zeros_append (k : Nat) (s : List Char) :
    digitsValue (List.replicate k '0' ++ s) = digitsValue s := by
  induction k with
  | zero => rfl
  | succ k ih => exact ih

@[simp] theorem digitsValue_padded (w n : Nat) : digitsValue (padded w n) = n := by
  rw [padded, digitsValue_zeros_append, digitsValue_natDigits]

/-- Different numbers are written differently. -/
theorem natDigits_injective : Function.Injective natDigits :=
  Function.LeftInverse.injective digitsValue_natDigits

/-- Different numbers are padded differently. -/
theorem padded_injective (w : Nat) : Function.Injective (padded w) :=
  Function.LeftInverse.injective (digitsValue_padded w)

/-! ## Where digits end -/

/-- What follows a run of digits. -/
def NoDigit (r : List Char) : Prop := ∀ c ∈ r.head?, c.isDigit = false

@[simp] theorem noDigit_nil : NoDigit [] := nofun

@[simp] theorem noDigit_cons {c : Char} : NoDigit (c :: r) ↔ c.isDigit = false :=
  ⟨fun h ↦ h c rfl, fun h _ he ↦ Option.some.inj he ▸ h⟩

/-- The digits that a text begins with are those before anything else. -/
theorem takeWhile_isDigit_append (hs : ∀ c ∈ s, c.isDigit = true) (hr : NoDigit r) :
    (s ++ r).takeWhile Char.isDigit = s := by
  rw [List.takeWhile_append_of_pos hs]
  cases r with
  | nil => exact List.append_nil s
  | cons c r => rw [List.takeWhile_cons_of_neg (by simpa using hr), List.append_nil]

theorem dropWhile_isDigit_append (hs : ∀ c ∈ s, c.isDigit = true) (hr : NoDigit r) :
    (s ++ r).dropWhile Char.isDigit = r := by
  rw [List.dropWhile_append_of_pos hs]
  cases r with
  | nil => rfl
  | cons c r => exact List.dropWhile_cons_of_neg (by simpa using hr)

/-- Texts that begin with digits are equal only if the digits are. -/
theorem digits_append_inj (hs : ∀ c ∈ s, c.isDigit = true) (hs' : ∀ c ∈ s', c.isDigit = true)
    (hr : NoDigit r) (hr' : NoDigit r') (h : s ++ r = s' ++ r') : s = s' ∧ r = r' := by
  constructor
  · rw [← takeWhile_isDigit_append hs hr, h, takeWhile_isDigit_append hs' hr']
  · rw [← dropWhile_isDigit_append hs hr, h, dropWhile_isDigit_append hs' hr']

/-- A number is read back, and so is what stands behind its digits. -/
theorem natDigits_append_inj (hr : NoDigit r) (hr' : NoDigit r')
    (h : natDigits m ++ r = natDigits n ++ r') : m = n ∧ r = r' :=
  (digits_append_inj (fun _ ↦ isDigit_of_mem_natDigits) (fun _ ↦ isDigit_of_mem_natDigits)
    hr hr' h).imp_left fun h ↦ natDigits_injective h

/-- A padded number is read back, and so is what stands behind its digits. -/
theorem padded_append_inj (hr : NoDigit r) (hr' : NoDigit r')
    (h : padded w m ++ r = padded w n ++ r') : m = n ∧ r = r' :=
  (digits_append_inj (fun _ ↦ isDigit_of_mem_padded) (fun _ ↦ isDigit_of_mem_padded)
    hr hr' h).imp_left fun h ↦ padded_injective w h

/-- A sign does not look like a digit. -/
theorem natDigits_append_ne {c : Char} (hc : c.isDigit = false) : natDigits n ++ r ≠ c :: s := by
  intro h
  obtain ⟨d, t, ht⟩ := List.exists_cons_of_ne_nil (natDigits_ne_nil n)
  rw [ht] at h
  obtain ⟨rfl, -⟩ := List.cons.inj h
  have hd : d.isDigit = true := isDigit_of_mem_natDigits (ht ▸ List.mem_cons_self)
  rw [hd] at hc
  cases hc

theorem intText_natCast (n : Nat) : intText n = natDigits n := if_neg (by omega)

/-- An integer is read back, and so is what stands behind its digits. -/
theorem intText_append_inj {y z : Int} (hr : NoDigit r) (hr' : NoDigit r')
    (h : intText y ++ r = intText z ++ r') : y = z ∧ r = r' := by
  unfold intText at h
  split at h <;> split at h
  next =>
    obtain ⟨habs, h⟩ := natDigits_append_inj hr hr' (List.cons.inj h).2
    exact ⟨by omega, h⟩
  next => exact absurd h.symm (natDigits_append_ne rfl)
  next => exact absurd h (natDigits_append_ne rfl)
  next =>
    obtain ⟨habs, h⟩ := natDigits_append_inj hr hr' h
    exact ⟨by omega, h⟩

end Sluice.Decimal
