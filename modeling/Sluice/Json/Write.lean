import Sluice.Value.Text

/-!
# Writing JSON

Characters beyond ASCII are written as themselves.  A value that JSON does not know is written as
its quoted text, and a floating point number that is not finite as a bare word, which strict
readers refuse.
-/

namespace Sluice.Json

open Decimal Text

/-- A character between quotes: the quote, the backslash and control characters are escaped. -/
def escapeChar (c : Char) : List Char :=
  if c = '"' ∨ c = '\\' then ['\\', c]
  else if c = '\n' then ['\\', 'n']
  else if c = '\r' then ['\\', 'r']
  else if c = '\t' then ['\\', 't']
  else if c.toNat = 8 then ['\\', 'b']
  else if c.toNat = 12 then ['\\', 'f']
  else if c.toNat < 0x20 then '\\' :: 'u' :: hex 4 c.toNat
  else [c]

/-- A text between quotes. -/
def quote (s : List Char) : List Char := '"' :: (s.flatMap escapeChar ++ ['"'])

/-- Numbers that are not finite are bare words. -/
def floatLayout : Layout := { Value.floatLayout with nan := "NaN", infinity := "Infinity" }

mutual

/-- The text of a value. -/
def write : Value → List Char
  | .null => "null".toList
  | .bool b => (if b then "true" else "false").toList
  | .int z => intText z
  | .float x => floatLayout.render x
  | .text s => quote s.toList
  | .list vs => '[' :: [',', ' '].intercalate (writeList vs) ++ [']']
  | .record fs => '{' :: [',', ' '].intercalate (writeFields fs) ++ ['}']
  | v => quote v.plain

def writeList : List Value → List (List Char)
  | [] => []
  | v :: vs => write v :: writeList vs

def writeFields : List (String × Value) → List (List Char)
  | [] => []
  | (k, v) :: fs => (quote k.toList ++ ':' :: ' ' :: write v) :: writeFields fs

end

/-- The text of a value as a string. -/
def writeString (v : Value) : String := String.ofList (write v)

@[simp] theorem length_writeList (vs : List Value) : (writeList vs).length = vs.length := by
  induction vs with
  | nil => rfl
  | cons v vs ih => simp [writeList, ih]

@[simp] theorem length_writeFields (fs : List (String × Value)) :
    (writeFields fs).length = fs.length := by
  induction fs with
  | nil => rfl
  | cons p fs ih => simp [writeFields, ih]

end Sluice.Json
