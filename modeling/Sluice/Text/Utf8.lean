/-!
# UTF-8 with replacement

Decoding never fails: the longest run of bytes that could begin a character and does not go on as
one becomes a single replacement character.
-/

namespace Sluice.Text.Utf8

/-- A character of which some bytes have been read: its bits so far, the number of bytes owed, and
the least and the greatest value of the next one. -/
structure Partial where
  bits : Nat
  owed : Nat
  least : Nat
  greatest : Nat
  deriving DecidableEq, Repr

/-- What the first byte of a character announces. -/
def lead? (b : Nat) : Option Partial :=
  if 0xC2 ≤ b ∧ b ≤ 0xDF then some ⟨b - 0xC0, 1, 0x80, 0xBF⟩
  else if b = 0xE0 then some ⟨0, 2, 0xA0, 0xBF⟩
  else if b = 0xED then some ⟨0xD, 2, 0x80, 0x9F⟩
  else if 0xE1 ≤ b ∧ b ≤ 0xEF then some ⟨b - 0xE0, 2, 0x80, 0xBF⟩
  else if b = 0xF0 then some ⟨0, 3, 0x90, 0xBF⟩
  else if 0xF1 ≤ b ∧ b ≤ 0xF3 then some ⟨b - 0xF0, 3, 0x80, 0xBF⟩
  else if b = 0xF4 then some ⟨4, 3, 0x80, 0x8F⟩
  else none

/-- Reads a byte that begins a character, in front of the characters `acc` read in reverse. -/
def begin (acc : List Char) (b : Nat) : List Char × Option Partial :=
  if b < 0x80 then (Char.ofNat b :: acc, none)
  else match lead? b with
    | some π => (acc, some π)
    | none => ('\uFFFD' :: acc, none)

/-- Reads one more byte. -/
def step : List Char × Option Partial → UInt8 → List Char × Option Partial
  | (acc, none), b => begin acc b.toNat
  | (acc, some π), b =>
    if π.least ≤ b.toNat ∧ b.toNat ≤ π.greatest then
      let bits := π.bits * 64 + b.toNat % 64
      if π.owed = 1 then (Char.ofNat bits :: acc, none)
      else (acc, some ⟨bits, π.owed - 1, 0x80, 0xBF⟩)
    else begin ('\uFFFD' :: acc) b.toNat

/-- The characters of some bytes. -/
def decode (β : List UInt8) : List Char :=
  match β.foldl step ([], none) with
  | (acc, none) => acc.reverse
  | (acc, some _) => ('\uFFFD' :: acc).reverse

@[simp] theorem decode_nil : decode [] = [] := rfl

end Sluice.Text.Utf8
