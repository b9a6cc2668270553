import Sluice.Query.RowLimit
import Sluice.Value.Number

/-!
# The limit a caller asks for
-/

namespace Sluice.Tool

open Query Value

/-- What is wrong with a limit: it has to be an integer above zero, or not be given. -/
def limitError? : Value → Option String
  | .null => none
  | .int z => if z < 1 then some (complaint (.int z)) else none
  | v => some (complaint v)
where
  complaint (v : Value) : String :=
    "limit must be a positive integer (got " ++ v.literalString ++ ")"

/-- Whether a number can be written. -/
def isWritable (z : Int) : Bool := Decimal.digitCount z.natAbs ≤ maxDigits

/-- Gives a query a number of rows, if that can be written. -/
def capAt (s : List Char) (z : Int) : Except IntegerError LimitedQuery :=
  if isWritable z then .ok (limitRows s z) else .error .tooLarge

/-- Gives a query a limit, which is read as an integer once it turns out to be needed. -/
def capRows (s : List Char) (maxRows limit : Value) : Except IntegerError LimitedQuery :=
  if isUncapped s then
    match (if limit.isTruthy then limit else maxRows).toInteger with
    | .ok z => capAt s z
    | .error ε => .error ε
  else .ok ⟨s, none⟩

/-- Integer limits are given as they are, as long as they can be written. -/
theorem capRows_int (s : List Char) (m n : Int)
    (h : isWritable (effectiveLimit m (some n)) = true) :
    capRows s (.int m) (.int n) = .ok (limitRows s (effectiveLimit m (some n))) := by
  by_cases hs : isUncapped s
  · by_cases hn : n = 0
    · subst hn
      simp only [effectiveLimit, reduceIte] at h
      simp [capRows, hs, isTruthy, effectiveLimit, capAt, h]
    · simp only [effectiveLimit, if_neg hn] at h
      simp [capRows, hs, hn, isTruthy, effectiveLimit, capAt, h]
  · simp only [Bool.not_eq_true] at hs
    simp [capRows, hs, limitRows_of_not_isUncapped hs]

end Sluice.Tool
