import Sluice.Decimal.Layout
import Sluice.Decimal.Scientific
import Sluice.Value.Moment

/-!
# Values

What a database driver hands over and what a caller passes as an argument.  A record keeps its
fields in order; a name that comes twice keeps its first place and its last value.
-/

namespace Sluice

open Decimal Value

/-- A dynamically typed value. -/
inductive Value where
  | null
  | bool (b : Bool)
  | int (z : Int)
  | float (x : Binary64)
  | decimal (δ : Scientific)
  | bytes (β : List UInt8)
  /-- Bytes in a buffer that can grow. -/
  | buffer (β : List UInt8)
  | dateTime (δ : DateTime)
  | date (δ : Date)
  | time (τ : TimeOfDay)
  | duration (δ : Duration)
  | text (s : String)
  | list (vs : List Value)
  | record (fs : List (String × Value))
  /-- A value of some other type, of which only a text is known. -/
  | other (s : String)
  deriving Repr, Inhabited

namespace Value

mutual

/-- Whether two values are of one type and content. -/
def beq : Value → Value → Bool
  | null, null => true
  | bool b, bool c => b == c
  | int y, int z => y == z
  | float x, float y => x == y
  | decimal δ, decimal ε => δ == ε
  | bytes β, bytes γ | buffer β, buffer γ => β == γ
  | dateTime δ, dateTime ε => δ == ε
  | date δ, date ε => δ == ε
  | time σ, time τ => σ == τ
  | duration δ, duration ε => δ == ε
  | text s, text t | other s, other t => s == t
  | list vs, list ws => beqList vs ws
  | record fs, record gs => beqFields fs gs
  | _, _ => false

def beqList : List Value → List Value → Bool
  | [], [] => true
  | v :: vs, w :: ws => beq v w && beqList vs ws
  | _, _ => false

def beqFields : List (String × Value) → List (String × Value) → Bool
  | [], [] => true
  | (k, v) :: fs, (l, w) :: gs => k == l && beq v w && beqFields fs gs
  | _, _ => false

end

mutual

theorem beq_iff_eq : ∀ {v w : Value}, beq v w = true ↔ v = w
  | null, w | bool _, w | int _, w | float _, w | decimal _, w | bytes _, w | buffer _, w
  | dateTime _, w | date _, w | time _, w | duration _, w | text _, w | other _, w => by
    cases w <;> simp [beq]
  | list vs, w => by cases w <;> simp [beq, beqList_iff_eq]
  | record fs, w => by cases w <;> simp [beq, beqFields_iff_eq]

theorem beqList_iff_eq : ∀ {vs ws : List Value}, beqList vs ws = true ↔ vs = ws
  | [], ws => by cases ws <;> simp [beqList]
  | v :: vs, ws => by cases ws <;> simp [beqList, beq_iff_eq, beqList_iff_eq]

theorem beqFields_iff_eq : ∀ {fs gs : List (String × Value)}, beqFields fs gs = true ↔ fs = gs
  | [], gs => by cases gs <;> simp [beqFields]
  | (k, v) :: fs, gs => by
    cases gs <;> simp [beqFields, beq_iff_eq, beqFields_iff_eq, Prod.ext_iff]

end

instance : DecidableEq Value := fun _ _ ↦ decidable_of_iff _ beq_iff_eq

end Value

/-- Named values in order. -/
abbrev Row := List (String × Value)

namespace Row

/-- The value under a name. -/
def get? (ρ : Row) (k : String) : Option Value := ρ.lookup k

/-- The value under a name, null if there is none. -/
def get (ρ : Row) (k : String) : Value := (ρ.get? k).getD .null

/-- Puts a value under a name, at the place the name has or at the end. -/
def put : Row → String → Value → Row
  | [], k, v => [(k, v)]
  | (l, w) :: ρ, k, v => if l = k then (l, v) :: ρ else (l, w) :: put ρ k v

/-- A row from pairs, of which a later one replaces an earlier one of the same name. -/
def ofPairs (ps : List (String × Value)) : Row := ps.foldl (fun ρ p ↦ put ρ p.1 p.2) []

@[simp] theorem get?_nil (k : String) : get? [] k = none := rfl

end Row

namespace Value

/-- Whether a value counts as true: zeros, the empty text and empty collections do not. -/
def isTruthy : Value → Bool
  | null => false
  | bool b => b
  | int z => z ≠ 0
  | float x => !x.isZero
  | decimal δ => !δ.isZero
  | bytes β | buffer β => !β.isEmpty
  | duration δ => !δ.isZero
  | text s => !s.isEmpty
  | list vs => !vs.isEmpty
  | record fs => !fs.isEmpty
  | dateTime _ | date _ | time _ | other _ => true

/-- The name of a value's type, as messages give it. -/
def typeName : Value → String
  | null => "NoneType"
  | bool _ => "bool"
  | int _ => "int"
  | float _ => "float"
  | decimal _ => "decimal.Decimal"
  | bytes _ => "bytes"
  | buffer _ => "bytearray"
  | dateTime _ => "datetime.datetime"
  | date _ => "datetime.date"
  | time _ => "datetime.time"
  | duration _ => "datetime.timedelta"
  | text _ => "str"
  | list _ => "list"
  | record _ => "dict"
  | other _ => "object"

end Value

end Sluice
