import Sluice.Text.Case
import Sluice.Value.Order

/-!
# Descriptions of a table

The server's rows on columns, indexes and tables, brought into the form in which a description
shows them.
-/

namespace Sluice.Tool

open Value

/-- A column of a description. -/
def columnOf (ρ : Row) : Value :=
  .record [("field", ρ.get "Field"), ("type", ρ.get "Type"),
    ("nullable", .bool (ρ.get "Null" == .text "YES")), ("key", ρ.get "Key"),
    ("default", ρ.get "Default"), ("extra", ρ.get "Extra")]

/-- A column of an index, and its place in it. -/
structure IndexColumn where
  column : Value
  sequence : Value
  deriving DecidableEq, Repr

structure Index where
  name : Value
  unique : Bool
  columns : List IndexColumn
  deriving DecidableEq, Repr

/-- What makes rows on indexes unusable. -/
inductive IndexError where
  /-- A name that cannot name an entry. -/
  | name (type : String)
  /-- A flag that is no integer. -/
  | flag (ε : IntegerError)
  /-- Two places without an order, the later row's first. -/
  | order (later earlier : String)
  deriving DecidableEq, Repr

def IndexError.message : IndexError → String
  | .name τ => "unhashable type: '" ++ τ ++ "'"
  | .flag ε => ε.message
  | .order σ τ => "'<' not supported between instances of '" ++ σ ++ "' and '" ++ τ ++ "'"

/-- The place by which a column is sorted; a missing one counts as zero. -/
def IndexColumn.place (γ : IndexColumn) : Value :=
  if γ.sequence.isTruthy then γ.sequence else .int 0

def placeLe (v w : Value) : Bool := !(lt? w v).getD false

/-- The length of the run that a list begins with: ascending, or strictly descending. -/
def runLength : List Value → Nat
  | v :: w :: vs =>
    if (lt? w v).getD false then 2 + go true w vs else 2 + go false w vs
  | vs => vs.length
where
  go (down : Bool) (v : Value) : List Value → Nat
    | [] => 0
    | w :: vs => if (lt? w v).getD false = down then 1 + go down w vs else 0

/-- The pair of values without an order that comes first when each value is inserted in turn among
those before it, starting from its middle once the initial run is over. -/
def firstClash? (vs : List Value) : Option (Value × Value) :=
  go [] vs
where
  go (before : List Value) : List Value → Option (Value × Value)
    | [] => none
    | v :: vs =>
      match before with
      | [] => go [v] vs
      | w :: _ =>
        if comparable v w then go (before ++ [v]) vs
        else if runLength before = before.length then some (v, before.getLast?.getD w)
        else some (v, ((before.mergeSort placeLe)[before.length / 2]?).getD w)

/-- The columns of an index in the order of their places. -/
def sortColumns (γs : List IndexColumn) : Except IndexError (List IndexColumn) :=
  match firstClash? (γs.map IndexColumn.place) with
  | some (v, w) => .error (.order v.typeName w.typeName)
  | none => .ok (γs.mergeSort fun γ δ ↦ placeLe γ.place δ.place)

/-- The column that a row on indexes tells of. -/
def indexColumnOf (ρ : Row) : IndexColumn := ⟨ρ.get "Column_name", ρ.get "Seq_in_index"⟩

/-- Whether a row says that its index admits no duplicates. -/
def isUnique (ρ : Row) : Except IndexError Bool :=
  let v := ρ.get "Non_unique"
  match (if v.isTruthy then v else .int 0).toInteger with
  | .ok z => .ok (z == 0)
  | .error ε => .error (.flag ε)

/-- Adds a column to the index of the given name. -/
def addToIndex (ν : Value) (γ : IndexColumn) : List Index → List Index
  | [] => []
  | ι :: ιs =>
    if sameKey ι.name ν then { ι with columns := ι.columns ++ [γ] } :: ιs
    else ι :: addToIndex ν γ ιs

/-- Adds a row to the indexes found so far. -/
def addIndexRow (ιs : List Index) (ρ : Row) : Except IndexError (List Index) := do
  let ν := ρ.get "Key_name"
  if !ν.canBeKey then throw (.name ν.typeName)
  if ιs.any (sameKey ·.name ν) then return addToIndex ν (indexColumnOf ρ) ιs
  let υ ← isUnique ρ
  return ιs ++ [⟨ν, υ, [indexColumnOf ρ]⟩]

/-- The rows on indexes, one index for each name in order of first appearance. -/
def groupIndexes (ρs : List Row) : Except IndexError (List Index) := do
  let ιs ← ρs.foldlM addIndexRow []
  ιs.mapM fun ι ↦ do return { ι with columns := ← sortColumns ι.columns }

def IndexColumn.toValue (γ : IndexColumn) : Value :=
  .record [("column", γ.column), ("sequence", γ.sequence)]

def Index.toValue (ι : Index) : Value :=
  .record [("name", ι.name), ("unique", .bool ι.unique),
    ("columns", .list (ι.columns.map IndexColumn.toValue))]

/-- The fields of a table's metadata, and the columns they come from. -/
def metadataFields : List (String × String) :=
  [("engine", "Engine"), ("rows", "Rows"), ("data_length", "Data_length"),
    ("index_length", "Index_length"), ("create_time", "Create_time"),
    ("update_time", "Update_time"), ("collation", "Collation"), ("comment", "Comment")]

def metadataOf (ρ : Row) : Value := .record (metadataFields.map fun (f, c) ↦ (f, ρ.get c))

/-- The name of the table that a row on tables tells of, in lower case. -/
def statusName (ρ : Row) : List Char :=
  Text.lower ((ρ.get? "Name").getD (.text "")).plain

/-- The first row on a table of the given name, letter case aside. -/
def findStatus? (ρs : List Row) (table : List Char) : Option Row :=
  ρs.find? fun ρ ↦ statusName ρ == Text.lower table

/-- The metadata of the table of the given name. -/
def metadata? (ρs : List Row) (table : List Char) : Option Value :=
  (findStatus? ρs table).map metadataOf

@[simp] theorem groupIndexes_nil : groupIndexes [] = .ok [] := rfl

@[simp] theorem placeLe_int (y z : Int) : placeLe (.int y) (.int z) = decide (y ≤ z) := by
  rw [Bool.eq_iff_iff]
  simp [placeLe]

end Sluice.Tool
