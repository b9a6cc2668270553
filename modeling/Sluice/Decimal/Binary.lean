/-!
# Binary floating point numbers

A 64-bit floating point number is held as its bits and read as `± m · 2 ^ q`, an infinity, or no
number at all.  Arithmetic is the machine's.
-/

namespace Sluice.Decimal

/-- A 64-bit floating point number. -/
structure Binary64 where
  bits : UInt64
  deriving DecidableEq, Repr

namespace Binary64

/-- What the bits of a floating point number stand for. -/
inductive View where
  | nan
  | infinite (negative : Bool)
  /-- The number `± m · 2 ^ q`. -/
  | finite (negative : Bool) (m : Nat) (q : Int)
  deriving DecidableEq, Repr

def ofFloat (x : Float) : Binary64 := ⟨x.toBits⟩

def toFloat (x : Binary64) : Float := Float.ofBits x.bits

/-- The floating point number nearest to `n · 10 ^ e`.  Far outside the range of the format the
power of ten is not formed. -/
def ofDecimal (n : Nat) (e : Int) : Binary64 :=
  if n = 0 then ⟨0⟩
  else
    let p := e + (Nat.log2 n / 3 : Nat)
    if e > 400 then ofFloat (1 / 0)
    else if p < -500 then ⟨0⟩
    else ofFloat (Float.ofScientific n (e < 0) e.natAbs)

/-- The floating point number nearest to an integer. -/
def ofInt (z : Int) : Binary64 :=
  let x := Float.ofScientific z.natAbs false 0
  ofFloat (if z < 0 then -x else x)

def negate (x : Binary64) : Binary64 := ⟨x.bits ^^^ 0x8000000000000000⟩

def isNegative (x : Binary64) : Bool := x.bits.toNat / Nat.pow 2 63 == 1

/-- Reads the sign, the eleven bits of the exponent and the fifty-two of the fraction. -/
def view (x : Binary64) : View :=
  let e : Nat := x.bits.toNat / Nat.pow 2 52 % Nat.pow 2 11
  let f : Nat := x.bits.toNat % Nat.pow 2 52
  if e = 2047 then (if f = 0 then .infinite x.isNegative else .nan)
  else if e = 0 then .finite x.isNegative f (-1074)
  else .finite x.isNegative (Nat.pow 2 52 + f) ((e : Int) - 1075)

def isNaN (x : Binary64) : Bool := x.view matches .nan

def isInfinite (x : Binary64) : Bool := x.view matches .infinite _

def isZero (x : Binary64) : Bool := x.view matches .finite _ 0 _

/-- The whole part of a finite number, toward zero. -/
def truncate? (x : Binary64) : Option Int :=
  match x.view with
  | .finite ν m q =>
    let n : Nat := if q < 0 then m / Nat.pow 2 q.natAbs else m * Nat.pow 2 q.natAbs
    some (if ν then -n else n)
  | _ => none

/-- Whether a number is finite and whole. -/
def isWhole (x : Binary64) : Bool :=
  match x.view with
  | .finite _ m q => q ≥ 0 || m % Nat.pow 2 q.natAbs == 0
  | _ => false

/-- The number as a fraction, numerator first. -/
def toFraction? (x : Binary64) : Option (Int × Nat) :=
  match x.view with
  | .finite ν m q =>
    let n : Nat := if q < 0 then m else m * Nat.pow 2 q.natAbs
    some (if ν then -n else n, if q < 0 then Nat.pow 2 q.natAbs else 1)
  | _ => none

instance : Inhabited Binary64 := ⟨⟨0⟩⟩

end Binary64

end Sluice.Decimal
