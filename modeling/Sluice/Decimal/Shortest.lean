import Sluice.Decimal.Binary
import Sluice.Decimal.Digits

/-!
# The fewest digits that read back

A finite positive number `m · 2 ^ q` stands for every real that rounds to it.  Among the decimals
with 1, 2, … 17 digits, the first length that has one in that interval wins; of the two neighbours
of the number on that grid the nearer is taken, and of two equally near ones the even one.
-/

namespace Sluice.Decimal

/-- The value `digits · 10 ^ exponent`. -/
structure Numeral where
  digits : Nat
  exponent : Int
  deriving DecidableEq, Repr

/-- The reals that round to `m · 2 ^ q`, as fractions over one denominator. -/
structure Interval where
  low : Nat
  value : Nat
  high : Nat
  den : Nat
  /-- Whether the ends belong to it. -/
  closed : Bool
  deriving DecidableEq, Repr

/-- The interval of `m · 2 ^ q`.  Below a power of two the numbers lie twice as dense. -/
def Interval.ofBinary (m : Nat) (q : Int) : Interval :=
  let below := if m = Nat.pow 2 52 ∧ q > -1074 then 1 else 2
  let den := if q < 0 then 4 * Nat.pow 2 q.natAbs else 4
  let scale := if q < 0 then 1 else Nat.pow 2 q.natAbs
  ⟨(4 * m - below) * scale, 4 * m * scale, (4 * m + 2) * scale, den, m % 2 == 0⟩

/-- Whether `n · 10 ^ e` lies in the interval. -/
def Interval.has (ι : Interval) (n : Nat) (e : Int) : Bool :=
  let up := if e < 0 then 1 else Nat.pow 10 e.natAbs
  let down := if e < 0 then Nat.pow 10 e.natAbs else 1
  let x := n * up * ι.den
  let (lo, hi) := (ι.low * down, ι.high * down)
  if ι.closed then lo ≤ x && x ≤ hi else lo < x && x < hi

/-- The number of digits in front of the decimal point of `n / d`; zero or negative for a number
below one, by the zeros that follow the point. -/
def magnitude (n d : Nat) : Int :=
  if d ≤ n then digitCount (n / d)
  else
    let k : Int := digitCount d - digitCount n
    if n * Nat.pow 10 k.natAbs < d then -k else 1 - k

/-- The neighbour of the value on the grid of `n`-digit decimals that reads back, if one does. -/
def Interval.atLength? (ι : Interval) (p : Int) (n : Nat) : Option Numeral :=
  let e := p - n
  let num := if e < 0 then ι.value * Nat.pow 10 e.natAbs else ι.value
  let den := if e < 0 then ι.den else ι.den * Nat.pow 10 e.natAbs
  let (k, r) := (num / den, num % den)
  let up := ι.has (k + 1) e
  if k ≠ 0 && ι.has k e then
    if up && (den < 2 * r || (2 * r == den && k % 2 == 1)) then some ⟨k + 1, e⟩ else some ⟨k, e⟩
  else if up then some ⟨k + 1, e⟩ else none

/-- The shortest decimal that reads back as `m · 2 ^ q`. -/
def shortest (m : Nat) (q : Int) : Numeral :=
  let ι := Interval.ofBinary m q
  let p := magnitude ι.value ι.den
  ((List.range 17).findSome? fun n ↦ ι.atLength? p (n + 1)).getD ⟨m, q⟩

/-- A decimal without zeros at its end. -/
def Numeral.normalize (δ : Numeral) : Numeral :=
  go (digitCount δ.digits) δ
where
  go : Nat → Numeral → Numeral
    | 0, δ => δ
    | k + 1, δ => if δ.digits % 10 = 0 then go k ⟨δ.digits / 10, δ.exponent + 1⟩ else δ

end Sluice.Decimal
