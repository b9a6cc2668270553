import Sluice.Decimal.Integer
import Sluice.Value.Text

/-!
# Values as numbers
-/

namespace Sluice.Value

open Decimal Text

/-- Why a value cannot be made an integer. -/
inductive IntegerError where
  | badLiteral (literal : String)
  | floatNaN
  | floatInfinity
  | decimalNaN
  | decimalInfinity
  | wrongType (name : String)
  /-- A text has too many digits. -/
  | tooLong (digits : Nat)
  /-- A number is too large to be written. -/
  | tooLarge
  deriving DecidableEq, Repr

/-- The largest number of digits that is read or written. -/
def maxDigits : Nat := 4300

def excess : String :=
  "Exceeds the limit (" ++ toString maxDigits ++ " digits) for integer string conversion"

def IntegerError.message : IntegerError → String
  | .badLiteral l => "invalid literal for int() with base 10: " ++ l
  | .floatNaN => "cannot convert float NaN to integer"
  | .floatInfinity => "cannot convert float infinity to integer"
  | .decimalNaN => "cannot convert NaN to integer"
  | .decimalInfinity => "cannot convert Infinity to integer"
  | .wrongType ν =>
    "int() argument must be a string, a bytes-like object or a real number, not '" ++ ν ++ "'"
  | .tooLong n => excess ++ ": value has " ++ toString n ++
    " digits; use sys.set_int_max_str_digits() to increase the limit"
  | .tooLarge => excess

/-- Reads an integer from a text, of which `literal` is shown in part if it cannot be read. -/
def readInteger (s literal : List Char) : Except IntegerError Int :=
  match readDigits? s with
  | some (ν, ds) => if ds.length > maxDigits then .error (.tooLong ds.length) else .ok (signed ν ds)
  | none => .error (.badLiteral (String.ofList (literal.take 200)))

/-- The characters of bytes; those beyond ASCII are no part of a number. -/
def byteChars (β : List UInt8) : List Char :=
  β.map fun b ↦ if b < 0x80 then Char.ofNat b.toNat else '\uFFFD'

/-- The whole part of a number toward zero, or the integer that a text spells. -/
def toInteger (v : Value) : Except IntegerError Int :=
  match v with
  | int z => .ok z
  | bool b => .ok (if b then 1 else 0)
  | float x =>
    match x.truncate? with
    | some z => .ok z
    | none => .error (if x.isNaN then .floatNaN else .floatInfinity)
  | decimal δ =>
    match δ.truncate? with
    | some z => .ok z
    | none => .error (if δ matches .infinite _ then .decimalInfinity else .decimalNaN)
  | text s => readInteger s.toList v.literal
  | bytes β | buffer β => readInteger (byteChars β) (quoteBytes β)
  | v => .error (.wrongType v.typeName)

@[simp] theorem toInteger_int (z : Int) : toInteger (int z) = .ok z := rfl

/-- A point of the extended number line. -/
inductive Extended where
  | below
  | at (num : Int) (den : Nat)
  | above
  deriving DecidableEq, Repr

/-- Where a number lies; a NaN lies nowhere. -/
def extended? : Value → Option Extended
  | int z => some (.at z 1)
  | bool b => some (.at (if b then 1 else 0) 1)
  | float x =>
    match x.view with
    | .infinite ν => some (if ν then .below else .above)
    | _ => x.toFraction?.map fun (n, d) ↦ .at n d
  | decimal (.infinite ν) => some (if ν then .below else .above)
  | decimal (.finite ν c e) =>
    let n : Nat := if e < 0 then c else c * Nat.pow 10 e.natAbs
    some (.at (if ν then -n else n) (if e < 0 then Nat.pow 10 e.natAbs else 1))
  | _ => none

def isNumber : Value → Bool
  | int _ | bool _ | float _ | decimal _ => true
  | _ => false

/-- The order of the extended number line. -/
def Extended.lt : Extended → Extended → Bool
  | .at n d, .at m e => n * e < m * d
  | .below, .below | .above, _ | _, .below => false
  | _, _ => true

def Extended.eq : Extended → Extended → Bool
  | .at n d, .at m e => n * e == m * d
  | .below, .below | .above, .above => true
  | _, _ => false

end Sluice.Value
