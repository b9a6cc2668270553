import Sluice.Decimal.Scientific
import Sluice.Text.Blank
import Sluice.Value.Number

/-!
# Values as settings

Settings come as texts from the environment and as values from a caller.  A text is read as the
kind of thing that the setting is; a value of another kind is taken if nothing is lost by it.
-/

namespace Sluice.Settings

open Decimal Text

/-- Why a value does not fit a setting. -/
inductive Misfit where
  | text
  | encoding
  | integer
  | integerText
  | integerSize
  | fraction
  | infinite
  | truth
  | truthText
  | number
  | numberText
  | sign
  deriving DecidableEq, Repr

def Misfit.code : Misfit → String
  | text => "string_type"
  | encoding => "string_unicode"
  | integer => "int_type"
  | integerText => "int_parsing"
  | integerSize => "int_parsing_size"
  | fraction => "int_from_float"
  | infinite => "finite_number"
  | truth => "bool_type"
  | truthText => "bool_parsing"
  | number => "float_type"
  | numberText => "float_parsing"
  | sign => "greater_than"

def Misfit.message : Misfit → String
  | text => "Input should be a valid string"
  | encoding => "Input should be a valid string, unable to parse raw data as a unicode string"
  | integer => "Input should be a valid integer"
  | integerText => "Input should be a valid integer, unable to parse string as an integer"
  | integerSize => "Unable to parse input string as an integer, exceeded maximum size"
  | fraction => "Input should be a valid integer, got a number with a fractional part"
  | infinite => "Input should be a finite number"
  | truth => "Input should be a valid boolean"
  | truthText => "Input should be a valid boolean, unable to interpret input"
  | number => "Input should be a valid number"
  | numberText => "Input should be a valid number, unable to parse string as a number"
  | sign => "Input should be greater than 0"

/-- The text of a value that is a text, or bytes that encode one. -/
def spelled (v : Value) (bad : Misfit) : Except Misfit (Option String) :=
  match v with
  | .text s => .ok (some s)
  | .bytes β | .buffer β =>
    match String.fromUTF8? ⟨β.toArray⟩ with
    | some s => .ok (some s)
    | none => .error bad
  | _ => .ok none

def toText (v : Value) : Except Misfit String := do
  match ← spelled v .encoding with
  | some s => .ok s
  | none => .error .text

/-- Digits between which single underscores stand. -/
def groupedDigits? : List Char → Option (List Char)
  | [] => none
  | [c] => if c.isDigit then some [c] else none
  | c :: '_' :: s => if c.isDigit then (groupedDigits? s).map (c :: ·) else none
  | c :: s => if c.isDigit then (groupedDigits? s).map (c :: ·) else none

/-- Reads a whole number, which may end in a point and zeros. -/
def wholeText? (s : List Char) : Option Int := do
  let (ν, t) := match withoutMargins s with
    | '-' :: t => (true, t)
    | '+' :: t => (false, t)
    | t => (false, t)
  let whole := t.takeWhile (· != '.')
  let tail := t.dropWhile (· != '.')
  if tail = [] ∨ (tail.length > 1 ∧ (tail.drop 1).all (· == '0')) then
    let n := Scientific.digitsValue (← groupedDigits? whole)
    some (if ν then -n else n)
  else none

/-- The longest text that is read as an integer, in bytes. -/
def maxIntegerSize : Nat := 4300

/-- The integers that a machine word holds. -/
def inWord (z : Int) : Bool := z.natAbs < Nat.pow 2 63

/-- A floating point number that is an integer. -/
def ofWhole (x : Binary64) : Except Misfit Int :=
  match x.truncate? with
  | none => .error .infinite
  | some z =>
    if !x.isWhole then .error .fraction
    else if inWord z then .ok z
    else .error .integerText

def toWhole (v : Value) : Except Misfit Int := do
  match ← spelled v .integerText with
  | some s =>
    if s.utf8ByteSize > maxIntegerSize then .error .integerSize
    else match wholeText? s.toList with
      | some z => .ok z
      | none => .error .integerText
  | none =>
    match v with
    | .int z => .ok z
    | .bool b => .ok (if b then 1 else 0)
    | .float x => ofWhole x
    | .decimal δ =>
      match δ, δ.truncate? with
      | .finite ν c e, some z =>
        if e < 0 ∧ c % Nat.pow 10 e.natAbs ≠ 0 then .error .fraction
        else .ok (if ν then -z.natAbs else z)
      | _, _ => .error .infinite
    | _ => .error .integer

/-- The floating point number nearest to a number. -/
def nearest? : Value → Option Binary64
  | .bool b => some (.ofInt (if b then 1 else 0))
  | .int z =>
    let x := Binary64.ofInt z
    if x.isInfinite then none else some x
  | .float x => some x
  | .decimal (.finite ν c e) =>
    let x := Binary64.ofDecimal c e
    some (if ν then x.negate else x)
  | .decimal (.infinite ν) => some (.ofFloat (if ν then -1 / 0 else 1 / 0))
  | .decimal (.nan _ false _) => some (.ofFloat (0 / 0))
  | _ => none

/-- The texts that stand for true and for false. -/
def trueTexts : List String := ["1", "t", "true", "y", "yes", "on"]

def falseTexts : List String := ["0", "f", "false", "n", "no", "off"]

def toTruth (v : Value) : Except Misfit Bool := do
  match ← spelled v .truthText with
  | some s =>
    let t := s.map Char.toLower
    if trueTexts.contains t then .ok true
    else if falseTexts.contains t then .ok false
    else .error .truthText
  | none =>
    match v with
    | .bool b => .ok b
    | v =>
      match v, (nearest? v).map ofWhole with
      | .int z, _ => if inWord z then ofBit z else .error .truth
      | _, some (.ok z) => ofBit z
      | _, _ => .error .truth
where
  /-- One is true and zero is false. -/
  ofBit : Int → Except Misfit Bool
    | 0 => .ok false
    | 1 => .ok true
    | _ => .error .truthText

/-- The text without underscores, if they are single and inside. -/
def withoutUnderscores? (s : List Char) : Option (List Char) :=
  if s.head? = some '_' ∨ s.getLast? = some '_' ∨ doubled s then none
  else some (s.filter (· != '_'))
where
  /-- Whether two underscores stand side by side. -/
  doubled : List Char → Bool
    | '_' :: '_' :: _ => true
    | _ :: s => doubled s
    | [] => false

/-- Reads a floating point number. -/
def numberText? (s : List Char) : Option Binary64 := do
  let t ← withoutUnderscores? (withoutMargins s)
  match ← Scientific.ofText? t with
  | .finite ν c e =>
    let x := Binary64.ofDecimal c e
    some (if ν then x.negate else x)
  | .infinite ν => some (.ofFloat (if ν then -1 / 0 else 1 / 0))
  | .nan _ false 0 => if (t.getLast?.map Char.isDigit).getD false then none else some (.ofFloat (0 / 0))
  | .nan _ _ _ => none

def toNumber (v : Value) : Except Misfit Binary64 := do
  match ← spelled v .numberText with
  | some s =>
    match numberText? s.toList with
    | some x => .ok x
    | none => .error .numberText
  | none =>
    match nearest? v with
    | some x => .ok x
    | none => .error .number

/-- An integer above zero. -/
def toPositive (v : Value) : Except Misfit Int := do
  let z ← toWhole v
  if 0 < z then .ok z else .error .sign

/-- A number above zero. -/
def toPositiveNumber (v : Value) : Except Misfit Binary64 := do
  let x ← toNumber v
  match x.view with
  | .finite false m _ => if m = 0 then .error .sign else .ok x
  | .infinite false => .ok x
  | _ => .error .sign

/-- A text, or nothing. -/
def toOptionalText (v : Value) : Except Misfit (Option String) :=
  match v with
  | .null => .ok none
  | v => (toText v).map some

/-- What passes for a positive number is one. -/
theorem toPositive_pos {v : Value} {z : Int} (h : toPositive v = .ok z) : 0 < z := by
  unfold toPositive at h
  cases e : toWhole v with
  | error _ => simp [e, bind, Except.bind] at h
  | ok y =>
    simp only [e, bind, Except.bind] at h
    split at h
    · cases h
      assumption
    · cases h

end Sluice.Settings
