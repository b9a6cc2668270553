import Sluice.Json.Write
import Sluice.Server.Launch
import Sluice.Server.Session

/-!
# The command

Reads the settings from the environment and the file beside it, and then serves one message a line:
over the standard streams a message of the tool protocol, behind an HTTP front a request for a page.
The database is the one at hand, which answers each query with no rows.
-/

namespace Sluice.Main

open Server

/-- The environment, as far as settings are concerned. -/
def environment : IO (List (String × String)) :=
  Settings.names.filterMapM fun ν ↦ do
    let k := Text.upperString ν
    return (← IO.getEnv k).map (k, ·)

/-- The file of settings, if there is one. -/
def settingsFile : IO (Option String) := do
  try return some (← IO.FS.readFile ".env")
  catch _ => return none

/-- The machine that the command runs on. -/
def site : Install.Site where
  host := .ofNames "linux" "x86_64"
  home := ⟨[]⟩
  store := ⟨[]⟩
  answers := []
  modeFault := none
  limits := { chunkSize := 65536, progressStep := 5242880, maxRedirects := 5 }
  publisher := Install.publisher
  events := []

/-- A gate with nothing done yet. -/
def freshGate (σ : Settings) : Gate := { world := { site }, settings := σ }

/-- Writes a value as a line. -/
def put (v : Value) : IO Unit := do
  let out ← IO.getStdout
  out.putStrLn (Json.writeString v)
  out.flush

/-- Writes the records of a gate to the log, and forgets them. -/
def report (δ : Desk) : IO Desk := do
  for ε in δ.gate.world.events do
    if let .log ι κ s := ε then IO.eprintln (ι.name ++ " [" ++ κ.name ++ "] " ++ s)
  return { δ with gate.world.events := [] }

/-- Answers the messages of a client until the input ends. -/
partial def converse (σ : Session) : IO Session := do
  let line ← (← IO.getStdin).getLine
  if line.isEmpty then return σ
  let (σ, v) := σ.hear (.ofValue ((Json.parse? line).getD .null))
  if let some v := v then put v
  converse { σ with desk := ← report σ.desk }

/-- The request that a line of a front describes. -/
def visitOf (v : Value) : Visit :=
  let text (k d : String) : String := match Row.get? (Tool.fieldsOf v) k with
    | some (.text s) => s
    | _ => d
  { method := text "method" "POST", path := text "path" "/call",
    contentType := text "type" "application/json", body := text "body" "" }

def contentValue : Content → Value
  | .nothing => .null
  | .value v => v
  | .mistakes μs => .record [("detail", .list (μs.map fun μ ↦
      .record [("type", .text μ.kind), ("loc", .list (μ.place.map .text))]))]

/-- Answers the requests of a front until the input ends. -/
partial def present (δ : Desk) : IO Desk := do
  let line ← (← IO.getStdin).getLine
  if line.isEmpty then return δ
  let (δ, r) := δ.serve (.visit (visitOf ((Json.parse? line).getD .null)))
  if let .ok (.page π) := r then
    put (.record [("status", .int π.status), ("body", contentValue π.content)])
  present (← report δ)

end Sluice.Main

open Sluice Server in
/-- Launches the server. -/
def main (arguments : List String) : IO UInt32 := do
  let sources : Settings.Sources :=
    { environment := ← Main.environment, file := ← Main.settingsFile }
  match plan sources arguments with
  | .error ε =>
    IO.eprintln ε.message
    return 1
  | .ok π =>
    let desk : Desk := { gate := Main.freshGate π.settings }
    let desk ← match π.transport with
      | .streams => pure (← Main.converse { desk }).desk
      | .http .. => Main.present desk
    let (σ, code) := Session.finish { desk } false
    let _ ← Main.report σ.desk
    return code.toUInt32
