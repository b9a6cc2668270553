import Sluice.Text.Printable

/-!
# Quoted text

A text between quotes, with what cannot be shown written as an escape.  Single quotes are used
unless the text holds single quotes and no double ones.
-/

namespace Sluice.Text

def hexDigit (n : Nat) : Char := if n < 10 then Char.ofNat (48 + n) else Char.ofNat (87 + n)

/-- The `w` lowest hexadecimal digits of `n`. -/
def hex (w n : Nat) : List Char := (List.range w).reverse.map fun i ↦ hexDigit (n / Nat.pow 16 i % 16)

/-- The quotes a text is written between. -/
def quoteMark (s : List Char) : Char := if s.contains '\'' && !s.contains '"' then '"' else '\''

/-- A character between the quotes `q`. -/
def escapeChar (q c : Char) : List Char :=
  if c = q ∨ c = '\\' then ['\\', c]
  else if c = '\n' then ['\\', 'n']
  else if c = '\t' then ['\\', 't']
  else if c = '\r' then ['\\', 'r']
  else if isPrintable c then [c]
  else if c.toNat < 0x100 then '\\' :: 'x' :: hex 2 c.toNat
  else if c.toNat < 0x10000 then '\\' :: 'u' :: hex 4 c.toNat
  else '\\' :: 'U' :: hex 8 c.toNat

/-- A text between quotes. -/
def quote (s : List Char) : List Char :=
  let q := quoteMark s
  q :: (s.flatMap (escapeChar q) ++ [q])

/-- `quote` on strings. -/
def quoteString (s : String) : String := String.ofList (quote s.toList)

/-- A byte where the mark `q` is escaped; bytes beyond ASCII are never shown as themselves. -/
def escapeByte (q : Char) (b : UInt8) : List Char :=
  if b.toNat < 0x80 then escapeChar q (Char.ofNat b.toNat) else '\\' :: 'x' :: hex 2 b.toNat

/-- The quotes that bytes are written between. -/
def byteMark (β : List UInt8) : Char := quoteMark (β.map fun b ↦ Char.ofNat b.toNat)

/-- Bytes between quotes, after the letter that marks them as bytes. -/
def quoteBytes (β : List UInt8) : List Char :=
  let q := byteMark β
  'b' :: q :: (β.flatMap (escapeByte q) ++ [q])

/-- The bytes of a buffer between quotes.  Single quotes are escaped between double ones as well. -/
def quoteBuffer (β : List UInt8) : List Char :=
  let q := byteMark β
  'b' :: q :: (β.flatMap (escapeByte '\'') ++ [q])

@[simp] theorem quote_nil : quote [] = ['\'', '\''] := rfl

end Sluice.Text
