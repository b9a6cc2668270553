import Sluice.Gate.Run
import Sluice.Query.Admission
import Sluice.Tool.Identifier
import Sluice.Tool.Limit
import Sluice.Tool.Result
import Sluice.Tool.Schema
import Sluice.Value.Cell

/-!
# Calls of tools

There are three tools: one lists the tables, one describes a table with three queries, and one runs
a query that was admitted and capped.  A tool whose arguments cannot be used touches nothing.  The
gate's own faults become results; all other faults are the caller's to handle.
-/

namespace Sluice.Gate

open Proxy Tool Decimal

/-- What a call of a tool waits for. -/
inductive CallPhase where
  | tables (φ : RunPhase)
  /-- The columns of the table `name`, which the caller calls `asked`. -/
  | columns (asked name : String) (φ : RunPhase)
  | indexes (asked name : String) (columns : List Row) (φ : RunPhase)
  | status (asked name : String) (columns indexes : List Row) (φ : RunPhase)
  | rows (appliedLimit : Option Int) (begun : Value) (φ : RunPhase)

/-- Where a call stands. -/
abbrev Calling := Progress CallPhase (Except Fault Value)

def toolLog (γ : Gate) (ι : Level) (s : String) : Gate := γ.log ι .tools s

/-- A fault in a call: one of the gate's own is recorded and becomes a result. -/
def failCall (γ : Gate) (φ : Fault) (ι : Level) (record : String) (message : String) :
    Gate × Calling :=
  if φ.category?.isSome then (γ.toolLog ι (record ++ φ.message), .done (.ok (failureOf φ message)))
  else (γ, .done (.error φ))

/-! ### The list of tables -/

/-- The names of the tables, each the first cell of its row. -/
def tableNames (ρs : List Row) : List String :=
  ρs.filterMap fun ρ ↦ ρ.head?.map fun (_, v) ↦ v.plainString

def tablesResult (ρs : List Row) : Value :=
  let νs := tableNames ρs
  .record [("success", .bool true), ("tables", .list (νs.map .text)), ("count", .int νs.length),
    ("message", .text (if νs.isEmpty then "No tables found in the database"
      else "Found " ++ toString νs.length ++ " table(s)"))]

def afterTables (γ : Gate) : Running → Gate × Calling
  | .waiting φ => (γ, .waiting (.tables φ))
  | .done (.ok τ) => (γ, .done (.ok (tablesResult τ.rows)))
  | .done (.error φ) => γ.failCall φ .error "show_tables failed: "
      ("Failed to list tables: " ++ φ.message)

/-- Lists the tables. -/
def showTables (γ : Gate) : Gate × Calling :=
  let (γ, π) := γ.execute { text := "SHOW TABLES" }
  γ.afterTables π

/-! ### The description of a table -/

/-- The fault that rows on indexes are. -/
def indexFault (ε : IndexError) : Fault :=
  match ε with
  | .flag ε => numberFault ε
  | ε => .saying .type ε.message

def description (name : String) (columns indexes status : List Row) : Except Fault Value :=
  let γs := (rowsToJson columns).map columnOf
  match groupIndexes (rowsToJson indexes) with
  | .error ε => .error (indexFault ε)
  | .ok ιs => .ok (.record [("success", .bool true), ("table", .text name), ("columns", .list γs),
      ("indexes", .list (ιs.map Index.toValue)),
      ("metadata", (metadata? (rowsToJson status) name.toList).getD .null),
      ("summary", .text ("Table '" ++ name ++ "' has " ++ toString γs.length ++ " columns and " ++
        toString ιs.length ++ " indexes"))])

def failDescription (γ : Gate) (asked name : String) (φ : Fault) : Gate × Calling :=
  γ.failCall φ .error ("describe_table failed for " ++ name ++ ": ")
    ("Failed to describe table '" ++ asked ++ "': " ++ φ.message)

def afterStatus (γ : Gate) (asked name : String) (columns indexes : List Row) :
    Running → Gate × Calling
  | .waiting φ => (γ, .waiting (.status asked name columns indexes φ))
  | .done (.ok τ) => (γ, .done (description name columns indexes τ.rows))
  | .done (.error φ) => γ.failDescription asked name φ

def afterIndexes (γ : Gate) (asked name : String) (columns : List Row) : Running → Gate × Calling
  | .waiting φ => (γ, .waiting (.indexes asked name columns φ))
  | .done (.ok τ) =>
    let pattern := String.ofList (likePattern name.toList)
    let (γ, π) := γ.execute
      { text := "SHOW TABLE STATUS LIKE %s", params := .list [.text pattern] }
    γ.afterStatus asked name columns τ.rows π
  | .done (.error φ) => γ.failDescription asked name φ

def afterColumns (γ : Gate) (asked name : String) : Running → Gate × Calling
  | .waiting φ => (γ, .waiting (.columns asked name φ))
  | .done (.ok τ) =>
    let (γ, π) := γ.execute { text := "SHOW INDEX FROM `" ++ name ++ "`" }
    γ.afterIndexes asked name τ.rows π
  | .done (.error φ) => γ.failDescription asked name φ

/-- Describes a table. -/
def describeTable (γ : Gate) (asked : String) : Gate × Calling :=
  let name := String.ofList (identifier asked.toList)
  if name.isEmpty then
    (γ, .done (.ok (failure "Table name is empty after sanitization" "invalid_table_name"
      ("Failed to describe table '" ++ asked ++ "'"))))
  else
    let (γ, π) := γ.execute { text := "DESCRIBE `" ++ name ++ "`" }
    γ.afterColumns asked name π

/-! ### The run of a query -/

def rejectedMessage : String :=
  "Query rejected: This appears to be a mutation operation. Only read-only queries are allowed."

/-- A floating point number with two places. -/
def hundredths (x : Binary64) : Binary64 :=
  match x.toFraction? with
  | some (n, d) =>
    let y := Binary64.ofDecimal (roundDiv (n.natAbs * 100) d) (-2)
    if x.isNegative then y.negate else y
  | none => x

/-- The time between two readings of the stopwatch in milliseconds, with two places unless both
readings are whole numbers. -/
def elapsed (begun ended : Value) : Value :=
  match begun, ended with
  | .int b, .int e => .int ((e - b) * 1000)
  | b, e =>
    let seconds (v : Value) : Float := (Config.secondsOf v).toFloat
    .float (hundredths (.ofFloat ((seconds e - seconds b) * 1000)))

@[simp] theorem elapsed_int (b e : Int) : elapsed (.int b) (.int e) = .int ((e - b) * 1000) := rfl

def rowsResult (τ : Table) (appliedLimit : Option Int) (time : Value) : Value :=
  let n : Int := τ.rows.length
  let truncated := appliedLimit = some n
  .record [("success", .bool true), ("data", .list ((rowsToJson τ.rows).map .record)),
    ("columns", .list (τ.columns.map .text)), ("row_count", .int n), ("truncated", .bool truncated),
    ("execution_time_ms", time),
    ("message", .text (if truncated
      then "Query executed successfully. Showing first " ++ toString n ++ " rows."
      else "Query executed successfully. " ++ toString n ++ " row(s) returned."))]

def afterRows (γ : Gate) (appliedLimit : Option Int) (begun : Value) : Running → Gate × Calling
  | .waiting φ => (γ, .waiting (.rows appliedLimit begun φ))
  | .done (.ok τ) =>
    let (γ, ended) := γ.readStopwatch
    (γ, .done (.ok (rowsResult τ appliedLimit (elapsed begun ended))))
  | .done (.error φ) =>
    if φ.kind = .own .queryTimeout then
      γ.failCall φ .warning "Query timed out: " "Query execution failed."
    else γ.failCall φ .error "Query execution failed: " "Query execution failed."

/-- Runs a query that only reads. -/
def executeQuery (γ : Gate) (query : String) (limit : Value) : Gate × Calling :=
  match limitError? limit with
  | some s => (γ, .done (.ok (invalidArguments s)))
  | none =>
    match Query.screen query.toList with
    | .error ρ =>
      let γ := if ρ.isRecorded
        then γ.log .info .sanitizer ("Query rejected: " ++ ρ.message) else γ
      (γ, .done (.ok (failure ρ.message Category.admissionRejected.code rejectedMessage)))
    | .ok s =>
      match capRows s (.int γ.settings.maxRows) limit with
      | .error ε => (γ, .done (.error (numberFault ε)))
      | .ok κ =>
        let (γ, begun) := γ.readStopwatch
        let (γ, π) := γ.execute { text := String.ofList κ.query }
        γ.afterRows κ.appliedLimit begun π

/-! ### Calls by name -/

/-- An argument that has to be given. -/
def argument? (ρ : Row) (ν : String) : Option String :=
  (ρ.get? ν).bind fun v ↦ if v.isTruthy then some v.plainString else none

/-- Calls a tool. -/
def call (γ : Gate) (name : String) (arguments : Row) : Gate × Calling :=
  let required (ν : String) (f : String → Gate × Calling) : Gate × Calling :=
    match argument? arguments ν with
    | some s => f s
    | none => (γ, .done (.ok (invalidArguments (ν ++ " is required"))))
  match name with
  | "show_tables" => γ.showTables
  | "describe_table" => required "table" γ.describeTable
  | "execute_query" => required "query" fun s ↦ γ.executeQuery s (arguments.get "limit")
  | ν => (γ, .done (.ok (failure ("Unknown tool: " ++ ν) "unknown_tool" "Unknown tool.")))

namespace CallPhase

/-- The query that a call waits for. -/
def run : CallPhase → RunPhase
  | tables φ | columns _ _ φ | indexes _ _ _ φ | status _ _ _ _ φ | rows _ _ φ => φ

/-- Goes on with a call whose query has gone on. -/
def proceed (γ : Gate) (π : Running) : CallPhase → Gate × Calling
  | tables _ => γ.afterTables π
  | columns asked name _ => γ.afterColumns asked name π
  | indexes asked name cs _ => γ.afterIndexes asked name cs π
  | status asked name cs is _ => γ.afterStatus asked name cs is π
  | rows appliedLimit begun _ => γ.afterRows appliedLimit begun π

/-- Goes on with a call. -/
def resume (γ : Gate) (φ : CallPhase) : Gate × Calling :=
  let (γ, π) := φ.run.resume γ
  φ.proceed γ π

/-- Gives a call up. -/
def cancel (γ : Gate) (φ : CallPhase) : Gate × Calling :=
  let (γ, π) := φ.run.cancel γ
  φ.proceed γ π

end CallPhase

end Sluice.Gate
