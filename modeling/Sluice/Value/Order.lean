import Sluice.Value.Number

/-!
# Order and identity of values

Numbers of all types share one order; texts are ordered by code point, bytes by value, lists
element by element.  Values of different kinds have no order.
-/

namespace Sluice.Value

/-- The first difference of two lists decides, and a list comes before its extensions. -/
def lexLt {α : Type} (lt : α → α → Bool) : List α → List α → Bool
  | [], [] => false
  | [], _ :: _ => true
  | _ :: _, [] => false
  | a :: as, b :: bs => lt a b || (!lt b a && lexLt lt as bs)

def natsLt (as bs : List Nat) : Bool := lexLt (fun a b ↦ a < b) as bs

def Date.parts (δ : Date) : List Nat := [δ.year, δ.month, δ.day]

def TimeOfDay.parts (τ : TimeOfDay) : List Nat := [τ.hour, τ.minute, τ.second, τ.micro]

/-- Whether one value comes before another, if the two have an order. -/
def lt? (v w : Value) : Option Bool :=
  match v, w with
  | text s, text t => some (natsLt (s.toList.map Char.toNat) (t.toList.map Char.toNat))
  | bytes β, bytes γ | bytes β, buffer γ | buffer β, bytes γ | buffer β, buffer γ =>
    some (natsLt (β.map UInt8.toNat) (γ.map UInt8.toNat))
  | date δ, date ε => some (natsLt δ.parts ε.parts)
  | time σ, time τ => some (natsLt σ.parts τ.parts)
  | dateTime δ, dateTime ε =>
    match δ.offset, ε.offset with
    | none, none => some (natsLt (δ.date.parts ++ δ.time.parts) (ε.date.parts ++ ε.time.parts))
    | _, _ => none
  | duration δ, duration ε =>
    some (δ.days < ε.days ||
      (δ.days == ε.days && natsLt [δ.seconds, δ.micros] [ε.seconds, ε.micros]))
  | v, w =>
    if v.isNumber && w.isNumber then
      some (match v.extended?, w.extended? with
        | some a, some b => a.lt b
        | _, _ => false)
    else none

/-- Whether two values have an order. -/
def comparable (v w : Value) : Bool := (lt? v w).isSome

/-- Whether two values are the same name of an entry: numbers by what they amount to, all else by
type and content. -/
def sameKey (v w : Value) : Bool :=
  if v.isNumber && w.isNumber then
    match v.extended?, w.extended? with
    | some a, some b => a.eq b
    | _, _ => false
  else v == w

/-- Whether a value can name an entry. -/
def canBeKey : Value → Bool
  | list _ | record _ | buffer _ => false
  | _ => true

@[simp] theorem lt?_int (y z : Int) : lt? (int y) (int z) = some (decide (y < z)) := by
  simp [lt?, isNumber, extended?, Extended.lt]

@[simp] theorem sameKey_int (y z : Int) : sameKey (int y) (int z) = (y == z) := by
  simp [sameKey, isNumber, extended?, Extended.eq]

end Sluice.Value
