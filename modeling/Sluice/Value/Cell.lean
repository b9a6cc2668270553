import Sluice.Text.Base64
import Sluice.Value.Text

/-!
# Cells of a result

A driver value is tagged with a cell type.  What a cell type cannot hold as it is becomes a text
when it is tagged, and bytes, moments and NaN are replaced when the cell leaves as JSON.
-/

namespace Sluice

inductive CellType where
  | string
  | integer
  | float
  | boolean
  | bytes
  | timestamp
  | null
  deriving DecidableEq, Repr

def CellType.name : CellType → String
  | string => "string"
  | integer => "integer"
  | float => "float"
  | boolean => "boolean"
  | bytes => "bytes"
  | timestamp => "timestamp"
  | null => "null"

/-- A value and its cell type. -/
structure Cell where
  type : CellType
  value : Value

namespace Cell

/-- Tags a driver value.  A value of no known type is taken for its text. -/
def ofValue : Value → Cell
  | .null => ⟨.null, .null⟩
  | .bool b => ⟨.boolean, .bool b⟩
  | .int z => ⟨.integer, .int z⟩
  | .float x => ⟨.float, .float x⟩
  | .bytes β | .buffer β => ⟨.bytes, .bytes β⟩
  | .dateTime δ => ⟨.timestamp, .dateTime δ⟩
  | .date δ => ⟨.timestamp, .date δ⟩
  | .time τ => ⟨.timestamp, .time τ⟩
  | .text s => ⟨.string, .text s⟩
  | v => ⟨.string, .text v.plainString⟩

/-- Moments as they leave, with a T between day and time. -/
def momentText : Value → List Char
  | .dateTime δ => δ.textWith 'T'
  | v => v.plain

/-- The value that a cell leaves as.  NaN has no place in JSON. -/
def toJson (κ : Cell) : Value :=
  match κ.type, κ.value with
  | .bytes, .bytes β => .text (String.ofList (Text.Base64.encode β))
  | .timestamp, v => .text (String.ofList (momentText v))
  | .float, .float x => if x.isNaN then .null else .float x
  | _, v => v

end Cell

/-- A row of cells. -/
def Row.cells (ρ : Row) : List (String × Cell) := ρ.map fun (k, v) ↦ (k, Cell.ofValue v)

/-- A row as it leaves. -/
def Row.toJson (ρ : Row) : Row := ρ.cells.map fun (k, κ) ↦ (k, κ.toJson)

/-- Rows as they leave. -/
def rowsToJson (ρs : List Row) : List Row := ρs.map Row.toJson

@[simp] theorem length_rowsToJson (ρs : List Row) : (rowsToJson ρs).length = ρs.length := by
  simp [rowsToJson]

/-- A row leaves with the names it came with. -/
@[simp] theorem Row.toJson_names (ρ : Row) : (Row.toJson ρ).map Prod.fst = ρ.map Prod.fst := by
  simp [Row.toJson, Row.cells, Function.comp_def]

end Sluice
