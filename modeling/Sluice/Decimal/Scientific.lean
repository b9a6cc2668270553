import Sluice.Decimal.Digits

/-!
# Decimal numbers with an exponent

Numbers of decimal arithmetic: a sign, a coefficient and a power of ten, with signed zeros, two
infinities and quiet and signalling NaNs that may carry a number.  The text of a finite number
shows the coefficient's digits, so it tells `1.10` from `1.1`.
-/

namespace Sluice.Decimal

inductive Scientific where
  | finite (negative : Bool) (coefficient : Nat) (exponent : Int)
  | infinite (negative : Bool)
  /-- A payload of zero is none. -/
  | nan (negative signaling : Bool) (payload : Nat)
  deriving DecidableEq, Repr

namespace Scientific

/-- Whether a number is a zero of either sign. -/
def isZero : Scientific → Bool
  | finite _ 0 _ => true
  | _ => false

/-- Coefficient and exponent as text.  The exponent is left out if it is not positive and at most
five zeros follow the point. -/
def finiteText (c : Nat) (e : Int) : List Char :=
  let ds := natDigits c
  let left : Int := e + ds.length
  if e ≤ 0 ∧ -6 < left then
    if left ≤ 0 then '0' :: '.' :: (List.replicate left.natAbs '0' ++ ds)
    else if e = 0 then ds
    else ds.take left.toNat ++ '.' :: ds.drop left.toNat
  else
    let x := left - 1
    ds.take 1 ++ (if ds.length ≤ 1 then [] else '.' :: ds.drop 1) ++
      (if x = 0 then [] else 'E' :: (if x < 0 then '-' else '+') :: natDigits x.natAbs)

def text : Scientific → List Char
  | finite ν c e => (if ν then ['-'] else []) ++ finiteText c e
  | infinite ν => (if ν then ['-'] else []) ++ "Infinity".toList
  | nan ν σ p =>
    (if ν then ['-'] else []) ++ (if σ then ['s'] else []) ++ "NaN".toList ++
      (if p = 0 then [] else natDigits p)

/-- The whole part of a finite number, toward zero. -/
def truncate? : Scientific → Option Int
  | finite ν c e =>
    let n : Nat := if e < 0 then c / Nat.pow 10 e.natAbs else c * Nat.pow 10 e.natAbs
    some (if ν then -n else n)
  | _ => none

/-- Reads digits, and what follows them. -/
def span (s : List Char) : List Char × List Char := (s.takeWhile Char.isDigit, s.dropWhile Char.isDigit)

def digitsValue (s : List Char) : Nat := s.foldl (fun n c ↦ 10 * n + (c.toNat - 48)) 0

/-- Reads an exponent at the end of a text, zero if there is none. -/
def exponent? : List Char → Option Int
  | [] => some 0
  | 'E' :: s | 'e' :: s =>
    let (ν, t) := match s with
      | '-' :: t => (true, t)
      | '+' :: t => (false, t)
      | t => (false, t)
    if !t.isEmpty && t.all Char.isDigit then
      some (if ν then -(digitsValue t : Int) else digitsValue t)
    else none
  | _ => none

/-- Reads a number without its sign. -/
def magnitude? (ν : Bool) (s : List Char) : Option Scientific :=
  let l := String.ofList (s.map Char.toLower)
  if l = "inf" ∨ l = "infinity" then some (.infinite ν)
  else
    let (σ, t) := match s with
      | 's' :: t | 'S' :: t => (true, t)
      | t => (false, t)
    if String.ofList ((t.take 3).map Char.toLower) = "nan" ∧ (t.drop 3).all Char.isDigit then
      some (.nan ν σ (digitsValue (t.drop 3)))
    else
      let (whole, r) := span s
      let (part, r) := match r with
        | '.' :: r => span r
        | r => ([], r)
      if whole.isEmpty ∧ part.isEmpty then none
      else (exponent? r).map fun e ↦ .finite ν (digitsValue (whole ++ part)) (e - part.length)

/-- Reads a number. -/
def ofText? : List Char → Option Scientific
  | '-' :: s => magnitude? true s
  | '+' :: s => magnitude? false s
  | s => magnitude? false s

end Scientific

end Sluice.Decimal
