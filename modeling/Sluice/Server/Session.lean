import Sluice.Server.Desk

/-!
# Sessions of the tool protocol

A client sends JSON-RPC messages.  It introduces itself with one request and confirms this with a
notification; only then may it ask for tools.  Each request has one answer, a notification none.
-/

namespace Sluice.Server

/-- The name by which the server introduces itself. -/
def serverName : String := "mysql-tools"

/-- The versions of the protocol that are known, newest one first. -/
def versions : List String := ["2025-11-25", "2025-06-18", "2025-03-26", "2024-11-05"]

/-- How far a client has got. -/
inductive Acquaintance where
  | stranger
  /-- The client has introduced itself, and has not confirmed it. -/
  | introduced
  | known
  deriving DecidableEq, Repr

/-! ### Messages -/

/-- A message of a client. -/
inductive Message where
  | request (id : Value) (method : String) (params : Value)
  | notification (method : String)
  /-- Anything else, which has no answer. -/
  | other
  deriving Repr

/-- The message that a value is. -/
def Message.ofValue : Value → Message
  | .record ρ =>
    match Row.get ρ "method", Row.get? ρ "id" with
    | .text μ, some (.int z) => .request (.int z) μ (Row.get ρ "params")
    | .text μ, some (.text s) => .request (.text s) μ (Row.get ρ "params")
    | .text μ, none => .notification μ
    | _, _ => .other
  | _ => .other

/-- An answer with a result. -/
def success (id result : Value) : Value :=
  .record [("jsonrpc", .text "2.0"), ("id", id), ("result", result)]

/-- Why a request is turned down. -/
inductive Denial where
  | badRequest
  /-- The request is well formed, but nobody takes it. -/
  | unattended
  deriving DecidableEq, Repr

def Denial.toValue : Denial → Value
  | badRequest => .record [("code", .int (-32602)), ("message", .text "Invalid request parameters"),
      ("data", .text "")]
  | unattended => .record [("code", .int (-32601)), ("message", .text "Method not found")]

/-- An answer without a result. -/
def denial (id : Value) (δ : Denial) : Value :=
  .record [("jsonrpc", .text "2.0"), ("id", id), ("error", δ.toValue)]

/-! ### Requests -/

def isText : Value → Bool
  | .text _ => true
  | _ => false

def isRecord : Value → Bool
  | .record _ => true
  | _ => false

def isRecordOrNull : Value → Bool
  | .record _ | .null => true
  | _ => false

def isTextOrNull : Value → Bool
  | .text _ | .null => true
  | _ => false

/-- What the parameters of a request have to satisfy, if it is a request of the protocol. -/
def paramsOf? (method : String) : Option (Row → Bool) :=
  let has (ν : String) (p : Value → Bool) (ρ : Row) : Bool := p (Row.get ρ ν)
  match method with
  | "ping" => some fun _ ↦ true
  | "initialize" => some fun ρ ↦
    (has "protocolVersion" isText ρ || Row.get ρ "protocolVersion" matches .int _) &&
      has "capabilities" isRecord ρ &&
      has "clientInfo" (fun v ↦ isText (Row.get (Tool.fieldsOf v) "name") &&
        isText (Row.get (Tool.fieldsOf v) "version")) ρ
  | "tools/call" => some fun ρ ↦ has "name" isText ρ && has "arguments" isRecordOrNull ρ
  | "tools/list" | "prompts/list" | "resources/list" | "resources/templates/list" =>
    some (has "cursor" isTextOrNull)
  | "prompts/get" => some (has "name" isText)
  | "resources/read" | "resources/subscribe" | "resources/unsubscribe" => some (has "uri" isText)
  | "logging/setLevel" => some (has "level" isText)
  | "completion/complete" => some fun ρ ↦ has "ref" isRecord ρ && has "argument" isRecord ρ
  | _ => none

/-- The requests that need parameters. -/
def needsParams (method : String) : Bool :=
  !(method == "ping" || method.endsWith "/list")

/-- Whether a request is well formed. -/
def isWellFormed (method : String) (params : Value) : Bool :=
  match paramsOf? method, params with
  | some p, .record ρ => p ρ
  | some _, .null => !needsParams method
  | _, _ => false

/-- The introduction of the server to a client that speaks some version. -/
def introduction (version : Value) : Value :=
  let chosen := match version with
    | .text s => if versions.contains s then s else versions.headD ""
    | _ => versions.headD ""
  .record [("protocolVersion", .text chosen),
    ("capabilities", .record [("experimental", .record []),
      ("tools", .record [("listChanged", .bool false)])]),
    ("serverInfo", .record [("name", .text serverName)])]

/-- A reply as a result of a request. -/
def ToolReply.toValue (ρ : ToolReply) : Value :=
  .record [("content", .list [.record [("type", .text "text"), ("text", .text ρ.text)]]),
    ("isError", .bool ρ.isError)]

/-! ### Sessions -/

/-- A desk and the client at it. -/
structure Session where
  desk : Desk
  acquaintance : Acquaintance := .stranger

namespace Session

/-- The answer of a tool. -/
def callTool (σ : Session) (id : Value) (params : Row) : Session × Value :=
  let name := (Row.get params "name").plainString
  let (δ, r) := σ.desk.serve (.converse name (Tool.fieldsOf (Row.get params "arguments")))
  let reply : ToolReply := match r with
    | .ok (.reply ρ) => ρ
    | .ok _ => ⟨true, ""⟩
    | .error φ => ⟨true, φ.message⟩
  ({ σ with desk := δ }, success id reply.toValue)

/-- Answers a well-formed request. -/
def answer (σ : Session) (id : Value) (method : String) (params : Row) : Session × Value :=
  match method with
  | "initialize" => ({ σ with acquaintance := .introduced },
      success id (introduction (Row.get params "protocolVersion")))
  | "ping" => (σ, success id (.record []))
  | μ =>
    if σ.acquaintance ≠ .known then (σ, denial id .badRequest)
    else if μ = "tools/list" then
      (σ, success id (.record [("tools", announcement (toolsOf σ.desk.gate))]))
    else if μ = "tools/call" then σ.callTool id params
    else (σ, denial id .unattended)

/-- Takes a message, and answers it if it is a request. -/
def hear (σ : Session) : Message → Session × Option Value
  | .request id μ params =>
    if isWellFormed μ params then
      let (σ, v) := σ.answer id μ (Tool.fieldsOf params)
      (σ, some v)
    else (σ, some (denial id .badRequest))
  | .notification μ =>
    (if μ = "notifications/initialized" then { σ with acquaintance := .known } else σ, none)
  | .other => (σ, none)

/-- Ends a session, at the end of the input or by a signal, and gives the exit code. -/
def finish (σ : Session) (isSignalled : Bool) : Session × Nat :=
  let γ := if isSignalled
    then σ.desk.gate.log .info .server "Shutdown requested, stopping server..." else σ.desk.gate
  let (δ, r) := { σ.desk with gate := γ }.serve (.shutdown (.float γ.settings.grace))
  ({ σ with desk := δ }, match r with
    | .ok (.truth true) => 0
    | _ => 1)

/-- A request has an answer. -/
theorem isSome_hear_request (σ : Session) (id : Value) (μ : String) (params : Value) :
    ((σ.hear (.request id μ params)).2).isSome = true := by
  simp only [hear]
  split <;> rfl

/-- A notification has none. -/
@[simp] theorem hear_notification (σ : Session) (μ : String) :
    (σ.hear (.notification μ)).2 = none := rfl

end Session

end Sluice.Server
