import Sluice.Query.Rule
import Sluice.Text.Digit

/-!
# Row limits

A query that begins with SELECT and names no limit of its own gets one.  Every other query is left
as it is: what SHOW, DESCRIBE and EXPLAIN return is bounded by the schema.
-/

namespace Sluice.Query

open Text

/-- A query ready to run, and the limit that was added to it. -/
structure LimitedQuery where
  query : List Char
  appliedLimit : Option Int := none
  deriving DecidableEq, Repr

/-- Whether LIMIT and a number stand in the text; `before` is the character in front of it. -/
def namesLimitFrom (before : Option Char) : List Char → Bool
  | [] => false
  | c :: s =>
    (isBoundary before (some c) &&
      ((afterWord? "LIMIT".toList (c :: s)).bind afterBlanks?).any (·.head?.any isDecimalDigit)) ||
    namesLimitFrom (some c) s

/-- Whether a query names a limit of its own, wherever in it. -/
def namesLimit (s : List Char) : Bool := namesLimitFrom none s

def isSelect (s : List Char) : Bool := (⟨["SELECT"], true⟩ : Opening).accepts s

/-- The text without blanks, then semicolons, then blanks at its end. -/
def dropTerminator (s : List Char) : List Char :=
  trimRight ((trimRight s).reverse.dropWhile (· = ';')).reverse

/-- Whether a query is to be given a limit. -/
def isUncapped (s : List Char) : Bool := !namesLimit s && isSelect s

/-- Gives an uncapped query the limit `n`. -/
def limitRows (s : List Char) (n : Int) : LimitedQuery :=
  if isUncapped s then ⟨dropTerminator s ++ " LIMIT ".toList ++ (toString n).toList, some n⟩
  else ⟨s, none⟩

/-- The limit in force: the one asked for, unless there is none or it is zero. -/
def effectiveLimit (maxRows : Int) (asked : Option Int) : Int :=
  match asked with
  | some n => if n = 0 then maxRows else n
  | none => maxRows

theorem limitRows_of_not_isUncapped {s : List Char} {n : Int} (h : isUncapped s = false) :
    limitRows s n = ⟨s, none⟩ := by
  simp [limitRows, h]

@[simp] theorem effectiveLimit_none (maxRows : Int) : effectiveLimit maxRows none = maxRows := rfl

end Sluice.Query
