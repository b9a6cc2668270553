import Sluice.Decimal.Digits
import Sluice.Value.Basic

/-!
# Reading JSON

A reader of RFC 8259 texts that also takes the bare words `NaN`, `Infinity` and `-Infinity` unless
it is asked to be strict.  Numbers without point and exponent are integers; all others are floating
point numbers, infinite if they are too large.  Of fields of the same name the last one counts.  A
fault carries what was left of the text where it was noticed.
-/

namespace Sluice.Json

open Decimal

inductive Fault where
  | expectingValue
  | expectingName
  | expectingColon
  | expectingComma
  | unterminatedString
  | controlCharacter
  | badEscape
  | badUnicodeEscape
  | extraData
  | byteOrderMark
  | tooManyDigits
  | tooDeep (container : String)
  deriving DecidableEq, Repr

/-- A fault, and the rest of the text at the place it is blamed on. -/
structure Stop where
  fault : Fault
  rest : List Char
  deriving DecidableEq, Repr

/-- What a reader makes of a text, and what it leaves. -/
abbrev Reading (α : Type) := Except Stop (α × List Char)

/-- Integers with more digits are refused. -/
def maxDigits : Nat := 4300

/-- Containers nested deeper are refused. -/
def maxDepth : Nat := 980

def isSpace (c : Char) : Bool := c = ' ' ∨ c = '\t' ∨ c = '\n' ∨ c = '\r'

def skipSpace (s : List Char) : List Char := s.dropWhile isSpace

/-- What follows a word at the start of a text. -/
def afterPrefix? : List Char → List Char → Option (List Char)
  | [], s => some s
  | _ :: _, [] => none
  | w :: ws, c :: s => if w = c then afterPrefix? ws s else none

def hexValue? (c : Char) : Option Nat :=
  if '0' ≤ c ∧ c ≤ '9' then some (c.toNat - 48)
  else if 'a' ≤ c ∧ c ≤ 'f' then some (c.toNat - 87)
  else if 'A' ≤ c ∧ c ≤ 'F' then some (c.toNat - 55)
  else none

/-- The number that four hexadecimal digits spell. -/
def hex4? (a b c d : Char) : Option Nat :=
  match hexValue? a, hexValue? b, hexValue? c, hexValue? d with
  | some w, some x, some y, some z => some (((w * 16 + x) * 16 + y) * 16 + z)
  | _, _, _, _ => none

def isHighSurrogate (n : Nat) : Bool := 0xD800 ≤ n && n ≤ 0xDBFF

def isLowSurrogate (n : Nat) : Bool := 0xDC00 ≤ n && n ≤ 0xDFFF

/-- The character of a code unit; half of a surrogate pair alone is a replacement character. -/
def unitChar (n : Nat) : Char :=
  if isHighSurrogate n || isLowSurrogate n then '\uFFFD' else Char.ofNat n

def pairChar (h l : Nat) : Char := Char.ofNat (0x10000 + (h - 0xD800) * 0x400 + (l - 0xDC00))

/-- The character that a letter stands for after a backslash. -/
def simpleEscape? : Char → Option Char
  | '"' => some '"'
  | '\\' => some '\\'
  | '/' => some '/'
  | 'b' => some '\x08'
  | 'f' => some '\x0c'
  | 'n' => some '\n'
  | 'r' => some '\r'
  | 't' => some '\t'
  | _ => none

/-- Reads a text up to the closing quote.  `start` is the text from the opening quote on, `acc`
holds what has been read, last character first. -/
def readString (start acc : List Char) : List Char → Reading String
  | [] => .error ⟨.unterminatedString, start⟩
  | '"' :: s => .ok (String.ofList acc.reverse, s)
  | '\\' :: [] => .error ⟨.unterminatedString, start⟩
  | '\\' :: 'u' :: a :: b :: c :: d :: s =>
    match hex4? a b c d with
    | none => .error ⟨.badUnicodeEscape, 'u' :: a :: b :: c :: d :: s⟩
    | some h =>
      match s with
      | [] => .error ⟨.badUnicodeEscape, ['u', a, b, c, d]⟩
      | '\\' :: 'u' :: e :: f :: g :: i :: t =>
        match hex4? e f g i with
        | some l =>
          if isHighSurrogate h && isLowSurrogate l && !t.isEmpty then
            readString start (pairChar h l :: acc) t
          else readString start (unitChar h :: acc) ('\\' :: 'u' :: e :: f :: g :: i :: t)
        | none => readString start (unitChar h :: acc) ('\\' :: 'u' :: e :: f :: g :: i :: t)
      | s => readString start (unitChar h :: acc) s
  | '\\' :: 'u' :: s => .error ⟨.badUnicodeEscape, 'u' :: s⟩
  | '\\' :: c :: s =>
    match simpleEscape? c with
    | some d => readString start (d :: acc) s
    | none => .error ⟨.badEscape, '\\' :: c :: s⟩
  | c :: s =>
    if c.toNat < 0x20 then .error ⟨.controlCharacter, c :: s⟩ else readString start (c :: acc) s
termination_by s => s.length
decreasing_by all_goals (simp only [List.length_cons]; omega)

def digitValue (c : Char) : Nat := c.toNat - 48

def spanDigits (s : List Char) : List Char × List Char :=
  (s.takeWhile Char.isDigit, s.dropWhile Char.isDigit)

/-- The digits of a whole number: zero alone, or a run that begins with another digit. -/
def wholeDigits : List Char → List Char × List Char
  | '0' :: s => (['0'], s)
  | s => spanDigits s

/-- The digits after a point, if there are any. -/
def fractionDigits : List Char → List Char × List Char
  | '.' :: s =>
    match spanDigits s with
    | ([], _) => ([], '.' :: s)
    | (ds, t) => (ds, t)
  | s => ([], s)

/-- The digits of an exponent and its sign, if there is one. -/
def exponentDigits (s : List Char) : Option (Bool × List Char) × List Char :=
  match s with
  | e :: t =>
    if e = 'e' ∨ e = 'E' then
      let (ν, u) := match t with
        | '-' :: u => (true, u)
        | '+' :: u => (false, u)
        | u => (false, u)
      match spanDigits u with
      | ([], _) => (none, s)
      | (ds, r) => (some (ν, ds), r)
    else (none, s)
  | [] => (none, [])

/-- Reads a number without its sign.  `start` is the text from the sign on. -/
def readMagnitude (ν : Bool) (start s : List Char) : Reading Value :=
  match wholeDigits s with
  | ([], _) => .error ⟨.expectingValue, start⟩
  | (whole, r) =>
    let (part, r) := fractionDigits r
    let (ex, r) := exponentDigits r
    let n := ofDigits ((whole ++ part).map digitValue)
    if part.isEmpty && ex.isNone then
      if whole.length > maxDigits then .error ⟨.tooManyDigits, start⟩
      else .ok (.int (if ν then -n else n), r)
    else
      let e : Int := match ex with
        | some (true, ds) => -(ofDigits (ds.map digitValue) : Int)
        | some (false, ds) => ofDigits (ds.map digitValue)
        | none => 0
      let x := Binary64.ofDecimal n (e - part.length)
      .ok (.float (if ν then x.negate else x), r)

/-- The words and their values. -/
def words (strict : Bool) : List (List Char × Value) :=
  [("null".toList, .null), ("true".toList, .bool true), ("false".toList, .bool false)] ++
    if strict then [] else
      [("NaN".toList, .float (.ofFloat (0 / 0))), ("Infinity".toList, .float (.ofFloat (1 / 0))),
        ("-Infinity".toList, .float (.ofFloat (-1 / 0)))]

/-- Reads a word or a number. -/
def readAtom (strict : Bool) (s : List Char) : Reading Value :=
  match (words strict).findSome? fun (w, v) ↦ (afterPrefix? w s).map (v, ·) with
  | some r => .ok r
  | none =>
    match s with
    | '-' :: t => readMagnitude true s t
    | _ => readMagnitude false s s

/-- The list that ends here, or the request for a comma. -/
inductive Continue where
  | closed (rest : List Char)
  | more (rest : List Char)
  | neither (rest : List Char)

/-- What follows an element: the closing mark, or a comma. -/
def afterElement (close : Char) (s : List Char) : Continue :=
  match skipSpace s with
  | c :: t =>
    if c = close then .closed t else if c = ',' then .more (skipSpace t) else .neither (c :: t)
  | [] => .neither []

mutual

/-- Reads a value at the start of a text. -/
def readValue (strict : Bool) : Nat → Nat → List Char → Reading Value
  | 0, _, s => .error ⟨.expectingValue, s⟩
  | fuel + 1, depth, s =>
    match s with
    | '"' :: t => (readString s [] t).map fun (v, r) ↦ (.text v, r)
    | '[' :: t =>
      if depth ≥ maxDepth then .error ⟨.tooDeep "array", s⟩
      else match skipSpace t with
        | ']' :: r => .ok (.list [], r)
        | t => readElements strict fuel (depth + 1) [] t
    | '{' :: t =>
      if depth ≥ maxDepth then .error ⟨.tooDeep "object", s⟩
      else match skipSpace t with
        | '}' :: r => .ok (.record [], r)
        | t => readFields strict fuel (depth + 1) [] t
    | s => readAtom strict s

def readElements (strict : Bool) : Nat → Nat → List Value → List Char → Reading Value
  | 0, _, _, s => .error ⟨.expectingValue, s⟩
  | fuel + 1, depth, acc, s =>
    match readValue strict fuel depth s with
    | .error ε => .error ε
    | .ok (v, r) =>
      match afterElement ']' r with
      | .closed r => .ok (.list (v :: acc).reverse, r)
      | .more r => readElements strict fuel depth (v :: acc) r
      | .neither r => .error ⟨.expectingComma, r⟩

def readFields (strict : Bool) : Nat → Nat → List (String × Value) → List Char → Reading Value
  | 0, _, _, s => .error ⟨.expectingValue, s⟩
  | fuel + 1, depth, acc, s =>
    match s with
    | '"' :: t =>
      match readString s [] t with
      | .error ε => .error ε
      | .ok (k, r) =>
        match skipSpace r with
        | ':' :: r =>
          match readValue strict fuel depth (skipSpace r) with
          | .error ε => .error ε
          | .ok (v, r) =>
            match afterElement '}' r with
            | .closed r => .ok (.record (Row.ofPairs ((k, v) :: acc).reverse), r)
            | .more r => readFields strict fuel depth ((k, v) :: acc) r
            | .neither r => .error ⟨.expectingComma, r⟩
        | r => .error ⟨.expectingColon, r⟩
    | s => .error ⟨.expectingName, s⟩

end

/-- Reads a text that holds one value.  A mark that opens a container takes two steps. -/
def read (strict : Bool) (s : List Char) : Except Stop Value :=
  match s with
  | '\uFEFF' :: _ => .error ⟨.byteOrderMark, s⟩
  | _ =>
    match readValue strict (2 * s.length + 1) 0 (skipSpace s) with
    | .error ε => .error ε
    | .ok (v, r) =>
      match skipSpace r with
      | [] => .ok v
      | r => .error ⟨.extraData, r⟩

/-- The place of a fault in the text `s`, counted in characters. -/
def Stop.position (ε : Stop) (s : List Char) : Nat := s.length - ε.rest.length

/-- The value of a text, if it is one. -/
def parse? (s : String) : Option Value := (read false s.toList).toOption

end Sluice.Json
