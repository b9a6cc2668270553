import Sluice.Decimal.Digits
import Sluice.Text.Blank
import Sluice.Text.Digit

/-!
# Reading an integer

Blanks around the number, one sign, and decimal digits of any script, between which single
underscores may stand.
-/

namespace Sluice.Decimal

open Text

/-- Reads digits with single underscores between them. -/
def digitGroups? : List Char → Option (List Nat)
  | [] => none
  | [c] => (digitValue? c).map ([·])
  | c :: '_' :: s => (digitValue? c).bind fun d ↦ (digitGroups? s).map (d :: ·)
  | c :: s => (digitValue? c).bind fun d ↦ (digitGroups? s).map (d :: ·)

/-- Reads the sign and the digits of an integer. -/
def readDigits? (s : List Char) : Option (Bool × List Nat) :=
  match withoutMargins s with
  | '-' :: t => (digitGroups? t).map (true, ·)
  | '+' :: t => (digitGroups? t).map (false, ·)
  | t => (digitGroups? t).map (false, ·)

/-- The integer with a sign and digits. -/
def signed (ν : Bool) (ds : List Nat) : Int := if ν then -(ofDigits ds : Int) else ofDigits ds

/-- Reads an integer. -/
def readInt? (s : List Char) : Option Int := (readDigits? s).map fun (ν, ds) ↦ signed ν ds

end Sluice.Decimal
