import Sluice.Text.Quoted
import Sluice.Value.Basic

/-!
# The text of a value

A value has a plain text, and a literal that also shows its type.  They differ for texts, which a
literal quotes, and for decimals, moments and bytes, which it names.
-/

namespace Sluice.Value

open Decimal Text

/-- Floating point numbers from 0.0001 up to sixteen digits are written without an exponent. -/
def floatLayout : Layout :=
  { positional := (-3, 16), wholeSuffix := ".0", exponentWidth := 2, nan := "nan", infinity := "inf" }

def floatText (x : Binary64) : List Char := floatLayout.render x

def commaSeparated (ls : List (List Char)) : List Char := [',', ' '].intercalate ls

/-- Drops zeros at the end of a list of numbers, down to its first `k`. -/
def dropTrailingZeros (k : Nat) (ns : List Nat) : List Nat :=
  ns.take k ++ ((ns.drop k).reverse.dropWhile (· = 0)).reverse

def call (f : String) (args : List (List Char)) : List Char :=
  f.toList ++ '(' :: commaSeparated args ++ [')']

def Duration.literal (δ : Duration) : List Char :=
  let part (k : String) (z : Int) : List (List Char) :=
    if z = 0 then [] else [k.toList ++ '=' :: intText z]
  let args := part "days" δ.days ++ part "seconds" δ.seconds ++ part "microseconds" δ.micros
  call "datetime.timedelta" (if args.isEmpty then [['0']] else args)

def offsetLiteral (z : Int) : List Char :=
  if z = 0 then "datetime.timezone.utc".toList
  else call "datetime.timezone" [(Duration.ofParts 0 0 z).literal]

def DateTime.literal (δ : DateTime) : List Char :=
  let ns := [δ.date.year, δ.date.month, δ.date.day, δ.time.hour, δ.time.minute] ++
    dropTrailingZeros 0 [δ.time.second, δ.time.micro]
  call "datetime.datetime" (ns.map natDigits ++
    (δ.offset.map fun z ↦ ["tzinfo=".toList ++ offsetLiteral z]).getD [])

def Date.literal (δ : Date) : List Char :=
  call "datetime.date" ([δ.year, δ.month, δ.day].map natDigits)

def TimeOfDay.literal (τ : TimeOfDay) : List Char :=
  call "datetime.time" (([τ.hour, τ.minute] ++ dropTrailingZeros 0 [τ.second, τ.micro]).map natDigits)

mutual

/-- The literal of a value. -/
def literal : Value → List Char
  | null => "None".toList
  | bool b => (if b then "True" else "False").toList
  | int z => intText z
  | float x => floatText x
  | decimal δ => call "Decimal" [quote δ.text]
  | bytes β => quoteBytes β
  | buffer β => call "bytearray" [quoteBuffer β]
  | dateTime δ => δ.literal
  | date δ => δ.literal
  | time τ => τ.literal
  | duration δ => δ.literal
  | text s => quote s.toList
  | list vs => '[' :: commaSeparated (literals vs) ++ [']']
  | record fs => '{' :: commaSeparated (fieldLiterals fs) ++ ['}']
  | other s => s.toList

def literals : List Value → List (List Char)
  | [] => []
  | v :: vs => literal v :: literals vs

def fieldLiterals : List (String × Value) → List (List Char)
  | [] => []
  | (k, v) :: fs => (quote k.toList ++ ':' :: ' ' :: literal v) :: fieldLiterals fs

end

/-- The plain text of a value. -/
def plain : Value → List Char
  | decimal δ => δ.text
  | dateTime δ => δ.textWith ' '
  | date δ => δ.text
  | time τ => τ.text
  | duration δ => δ.text
  | text s => s.toList
  | v => v.literal

/-- `plain` as a string. -/
def plainString (v : Value) : String := String.ofList v.plain

/-- `literal` as a string. -/
def literalString (v : Value) : String := String.ofList v.literal

@[simp] theorem plain_text (s : String) : (text s).plain = s.toList := rfl

@[simp] theorem plain_int (z : Int) : (int z).plain = intText z := by
  simp [plain, literal]

end Sluice.Value
