/-!
# Digits of a natural number
-/

namespace Sluice.Decimal

/-- The decimal digits of `n` as text. -/
def natDigits (n : Nat) : List Char := Nat.toDigits 10 n

/-- The text of `n`, filled up with zeros on the left to a width of `w`. -/
def padded (w n : Nat) : List Char :=
  List.replicate (w - (natDigits n).length) '0' ++ natDigits n

/-- The decimal text of an integer. -/
def intText (z : Int) : List Char :=
  if z < 0 then '-' :: natDigits z.natAbs else natDigits z.natAbs

/-- The number of decimal digits of `n`; zero has one. -/
def digitCount (n : Nat) : Nat := (natDigits n).length

/-- The number that `n` decimal digits from the left spell. -/
def ofDigits (ds : List Nat) : Nat := ds.foldl (fun n d ↦ 10 * n + d) 0

@[simp] theorem ofDigits_nil : ofDigits [] = 0 := rfl

end Sluice.Decimal
