import Sluice.Value.Text

/-!
# The tools on offer
-/

namespace Sluice.Tool

/-- A tool as it is announced to clients. -/
structure Definition where
  name : String
  description : String
  inputSchema : Value

def describedString (description : String) : Value :=
  .record [("type", .text "string"), ("description", .text description)]

def objectSchema (properties : List (String × Value)) (required : List String) : Value :=
  .record ([("type", .text "object"), ("properties", .record properties)] ++
    if required.isEmpty then [] else [("required", .list (required.map .text))])

/-- The tools of a gate that returns at most `maxRows` rows unless asked otherwise. -/
def definitions (maxRows : Value) : List Definition :=
  [⟨"show_tables", "List all tables in the current database", objectSchema [] []⟩,
    ⟨"describe_table", "Get detailed schema information for a specific table",
      objectSchema [("table", describedString "Name of the table to describe")] ["table"]⟩,
    ⟨"execute_query", "Execute a read-only SQL query with automatic sanitization",
      objectSchema
        [("query", describedString "SQL query to execute (read-only operations only)"),
          ("limit", .record [("type", .text "integer"), ("minimum", .int 1),
            ("description", .text ("Maximum number of rows to return (default: " ++
              maxRows.plainString ++ ")"))])]
        ["query"]⟩]

def Definition.toValue (δ : Definition) : Value :=
  .record [("name", .text δ.name), ("description", .text δ.description),
    ("inputSchema", δ.inputSchema)]

end Sluice.Tool
