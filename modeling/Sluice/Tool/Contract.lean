import Sluice.Tool.Definition
import Sluice.Value.Order

/-!
# Arguments against a schema

A tool announces a schema for its arguments.  Arguments break it if a required one is missing, if
one is of the wrong type, or if a number is too small; the first breach in this order is reported.
-/

namespace Sluice.Tool

open Decimal

/-- How arguments break a schema. -/
inductive Breach where
  | missing (name : String)
  | wrongType (value : Value) (type : String)
  | tooSmall (value : Value) (least : Value)

def Breach.message : Breach → String
  | .missing ν => (Value.text ν).literalString ++ " is a required property"
  | .wrongType v τ => v.literalString ++ " is not of type " ++ (Value.text τ).literalString
  | .tooSmall v m => v.literalString ++ " is less than the minimum of " ++ m.literalString

/-- Whether a value has a type of a schema.  A floating point number without a fraction counts as
an integer. -/
def hasType (τ : String) : Value → Bool
  | .text _ => τ = "string"
  | .int _ => τ = "integer"
  | .float x => τ = "integer" && x.isWhole
  | .record _ => τ = "object"
  | _ => false

/-- How one argument breaks the schema of its property. -/
def propertyBreaches (σ : Row) (v : Value) : List Breach :=
  let types := match σ.get "type" with
    | .text τ => if hasType τ v then [] else [.wrongType v τ]
    | _ => []
  let sizes := match σ.get? "minimum" with
    | some m => if v.lt? m = some true && !v matches .bool _ then [.tooSmall v m] else []
    | none => []
  types ++ sizes

/-- The fields of a record. -/
def fieldsOf : Value → Row
  | .record ρ => ρ
  | _ => []

def namesOf : Value → List String
  | .list vs => vs.filterMap fun
    | .text s => some s
    | _ => none
  | _ => []

/-- How arguments break a schema: all missing ones first, and then property by property. -/
def breaches (schema arguments : Row) : List Breach :=
  ((namesOf (schema.get "required")).filter fun ν ↦ (arguments.get? ν).isNone).map .missing ++
    (fieldsOf (schema.get "properties")).flatMap fun (ν, σ) ↦
      match arguments.get? ν with
      | some v => propertyBreaches (fieldsOf σ) v
      | none => []

/-- The first breach of a tool's schema; a tool that is not announced has none. -/
def breach? (δs : List Definition) (name : String) (arguments : Row) : Option Breach :=
  (δs.find? (·.name = name)).bind fun δ ↦ (breaches (fieldsOf δ.inputSchema) arguments).head?

/-- A schema without requirements and properties is never broken. -/
@[simp] theorem breaches_empty (arguments : Row) :
    breaches (fieldsOf (objectSchema [] [])) arguments = [] := by
  simp [breaches, objectSchema, fieldsOf, Row.get, Row.get?, namesOf, List.lookup_cons]

end Sluice.Tool
