import Sluice.Decimal.Shortest

/-!
# Layout of a floating point number

Which digits are written is the matter of `Sluice.Decimal.Shortest`; where the point goes and how
an exponent looks is decided by a `Layout`.
-/

namespace Sluice.Decimal

/-- The decisions of a floating point format. -/
structure Layout where
  /-- The least and the greatest number of digits in front of the point that are written without
  an exponent; numbers below one count their zeros after the point as negative. -/
  positional : Int × Int
  /-- What follows a whole number that is written without an exponent. -/
  wholeSuffix : String
  /-- The least number of digits of an exponent. -/
  exponentWidth : Nat
  nan : String
  infinity : String

/-- The digits around the decimal point, which stands after the first `p` of them. -/
def Layout.place (φ : Layout) (ds : List Char) (p : Int) : List Char :=
  if p ≤ 0 then '0' :: '.' :: (List.replicate p.natAbs '0' ++ ds)
  else if ds.length ≤ p.toNat then
    ds ++ List.replicate (p.toNat - ds.length) '0' ++ φ.wholeSuffix.toList
  else ds.take p.toNat ++ '.' :: ds.drop p.toNat

/-- The digits with an exponent: one digit, the point if there are more, and the exponent. -/
def Layout.scientific (φ : Layout) (ds : List Char) (p : Int) : List Char :=
  let e := p - 1
  ds.take 1 ++ (if ds.length ≤ 1 then [] else '.' :: ds.drop 1) ++
    ('e' :: (if e < 0 then '-' else '+') :: padded φ.exponentWidth e.natAbs)

/-- The text of a positive decimal. -/
def Layout.decimal (φ : Layout) (δ : Numeral) : List Char :=
  let δ := δ.normalize
  let ds := natDigits δ.digits
  let p := ds.length + δ.exponent
  if φ.positional.1 ≤ p ∧ p ≤ φ.positional.2 then φ.place ds p else φ.scientific ds p

/-- The text of a floating point number. -/
def Layout.render (φ : Layout) (x : Binary64) : List Char :=
  match x.view with
  | .nan => φ.nan.toList
  | .infinite ν => (if ν then ['-'] else []) ++ φ.infinity.toList
  | .finite ν m q =>
    (if ν then ['-'] else []) ++
      (if m = 0 then '0' :: φ.wholeSuffix.toList else φ.decimal (shortest m q))

end Sluice.Decimal
