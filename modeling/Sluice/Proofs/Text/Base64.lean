import Mathlib.Logic.Function.Basic
import Sluice.Text.Base64

/-!
# Reading base 64

RFC 4648, section 4: four characters of the alphabet stand for 24 bits, and a last group of two or
three characters is filled up with equals signs.  Bits beyond the last byte are zero.  Every text
that is written for some bytes is read as these bytes (`decode?_encode`).
-/

namespace Sluice.Text.Base64

/-- The alphabet, the character for zero first. -/
def alphabet : List Char :=
  "ABCDEFGHIJKLMNOPQRSTUVWXYZabcdefghijklmnopqrstuvwxyz0123456789+/".toList

/-- The number for a character of the alphabet. -/
def value? (c : Char) : Option Nat := alphabet.idxOf? c

/-- Reads the last group, in which an equals sign stands for what is missing. -/
def decodeLast? (x y : Nat) (c : Char) : Option (List UInt8) :=
  if c = '=' then
    if y % 16 = 0 then some [.ofNat (x * 4 + y / 16)] else none
  else (value? c).bind fun z ↦
    if z % 4 = 0 then some [.ofNat (x * 4 + y / 16), .ofNat (y % 16 * 16 + z / 4)] else none

/-- Reads groups of four characters. -/
def decode? : List Char → Option (List UInt8)
  | [] => some []
  | a :: b :: c :: d :: s =>
    (value? a).bind fun x ↦ (value? b).bind fun y ↦
      if d = '=' ∧ s = [] then decodeLast? x y c
      else (value? c).bind fun z ↦ (value? d).bind fun w ↦ (decode? s).map fun β ↦
        .ofNat (x * 4 + y / 16) :: .ofNat (y % 16 * 16 + z / 4) :: .ofNat (z % 4 * 64 + w) :: β
  | _ => none

/-- The letters are the alphabet, in its order. -/
theorem value?_letter {n : Nat} (h : n < 64) : value? (letter n) = some n := by
  have hall : ∀ k : Fin 64, value? (letter k) = some k.val := by decide +kernel
  exact hall ⟨n, h⟩

theorem letter_ne_equals {n : Nat} (h : n < 64) : letter n ≠ '=' := by
  intro he
  have hv := value?_letter h
  rw [he] at hv
  cases hv

/-- A byte that is put together from its upper and lower bits. -/
theorem ofNat_eq {a : UInt8} {n : Nat} (h : n = a.toNat) : UInt8.ofNat n = a := by
  rw [h, UInt8.ofNat_toNat]

/-- What is written for bytes reads back as these bytes. -/
theorem decode?_encode (β : List UInt8) : decode? (encode β) = some β := by
  induction β using encode.induct with
  | case1 => rfl
  | case2 a =>
    have ha := a.toNat_lt
    rw [encode, decode?, value?_letter (by omega), value?_letter (by omega), Option.bind_some,
      Option.bind_some, if_pos ⟨rfl, rfl⟩, decodeLast?, if_pos rfl, if_pos (by omega)]
    rw [ofNat_eq (a := a) (by omega)]
  | case3 a b =>
    have ha := a.toNat_lt
    have hb := b.toNat_lt
    have hc : b.toNat % 16 * 4 < 64 := by omega
    rw [encode, decode?, value?_letter (by omega), value?_letter (by omega), Option.bind_some,
      Option.bind_some, if_pos ⟨rfl, rfl⟩, decodeLast?, if_neg (letter_ne_equals hc),
      value?_letter hc, Option.bind_some, if_pos (by omega)]
    rw [ofNat_eq (a := a) (by omega), ofNat_eq (a := b) (by omega)]
  | case4 a b c β ih =>
    have ha := a.toNat_lt
    have hb := b.toNat_lt
    have hd : c.toNat % 64 < 64 := by omega
    have hc := c.toNat_lt
    rw [encode, decode?, value?_letter (by omega), value?_letter (by omega), Option.bind_some,
      Option.bind_some, if_neg fun h ↦ letter_ne_equals hd h.1, value?_letter (by omega),
      value?_letter hd, Option.bind_some, Option.bind_some, ih, Option.map_some]
    rw [ofNat_eq (a := a) (by omega), ofNat_eq (a := b) (by omega), ofNat_eq (a := c) (by omega)]

theorem encode_injective : Function.Injective encode := fun β γ h ↦
  Option.some.inj (decode?_encode β ▸ h ▸ decode?_encode γ)

end Sluice.Text.Base64
