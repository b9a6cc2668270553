import Sluice.Gate.Open
import Sluice.Value.Order

/-!
# Running a query

A query waits for the pool for as long as that takes, and then has a budget of time.  A query that
exceeds its budget is given up; a fault that the driver reports keeps its text.
-/

namespace Sluice.Gate

open Proxy Decimal

/-- A query to be run. -/
structure Request where
  text : String
  params : Value := .null
  /-- The budget in seconds, if it is not the one that is set. -/
  budget : Option Value := none

/-- What a query came to. -/
structure Table where
  columns : List String := []
  rows : List Row := []

/-- What a query waits for. -/
inductive RunPhase where
  | joining (n : Nat) (ρ : Request)
  /-- A connection of the pool `p` works on the query. -/
  | running (p : Nat) (ends : Time) (deadline : Option Time) (budget : Value) (reply : Reply)

/-- Where a query stands. -/
abbrev Running := Progress RunPhase (Except Fault Table)

/-- A number of seconds a thousand times. -/
def thousandfold : Value → Value
  | .float x => .float (.ofFloat (x.toFloat * 1000))
  | .int z => .int (z * 1000)
  | .bool b => .int (if b then 1000 else 0)
  | v => v

/-- Whether no time at all is left. -/
def isSpent : Value → Bool
  | .int z => z ≤ 0
  | .bool b => !b
  | .float x =>
    match x.view with
    | .finite ν m _ => ν || m = 0
    | .infinite ν => ν
    | .nan => false
  | .decimal _ => true
  | _ => false

/-- Why a value is no limit on time: it is no number, or no sum with a moment can be formed. -/
def misuse? : Value → Option Fault
  | .null | .bool _ | .float _ => none
  | .int z =>
    if z ≤ 0 ∨ !(Binary64.ofInt z).isInfinite then none
    else some (.saying .overflow "int too large to convert to float")
  | .decimal δ =>
    if Value.lt? (.int 0) (.decimal δ) = some true then
      some (.saying .type "unsupported operand type(s) for +: 'float' and 'decimal.Decimal'")
    else none
  | v => some (.saying .type
      ("'<=' not supported between instances of '" ++ v.typeName ++ "' and 'int'"))

/-- A number of seconds as a length of time, if it is finite. -/
def lengthOf : Value → Option Time
  | .int z => some (z * Time.second)
  | .bool b => some (if b then Time.second else 0)
  | .float x => Time.ofSeconds? x
  | _ => none

/-- Reports that a budget is exceeded. -/
def overrun (budget : Value) : Fault :=
  match (thousandfold budget).toInteger with
  | .ok ms => .saying (.own .queryTimeout) ("Query timeout after " ++ toString ms ++ "ms")
  | .error ε => numberFault ε

/-- The fault that a caller sees for a fault of the database. -/
def surface (budget : Value) (φ : Fault) : Fault :=
  if φ.isDatabase then .saying (.own .driver) ("Query execution failed: " ++ φ.message)
  else if φ.isTimeout then overrun budget
  else φ

/-- The items of a value that is a collection. -/
def itemsOf : Value → Except Fault (List Value)
  | .list vs => .ok vs
  | .text s => .ok (s.toList.map fun c ↦ .text (String.ofList [c]))
  | .record ρ => .ok (ρ.map fun (k, _) ↦ .text k)
  | .bytes β | .buffer β => .ok (β.map fun b ↦ .int b.toNat)
  | v => .error (.saying .type ("'" ++ v.typeName ++ "' object is not iterable"))

/-- The parameters of a query, if there are any. -/
def paramsOf (v : Value) : Except Fault (Option (List Value)) :=
  if v.isTruthy then (itemsOf v).map some else .ok none

/-- What a reply says. -/
def tableOf (ρ : Reply) : Table := ⟨ρ.columns.getD [], ρ.rows.getD []⟩

/-- The connection is given back, and the query is over. -/
def finishRun (γ : Gate) (p : Nat) (budget : Value) (ρ : Reply) : Gate × Running :=
  (γ.onPool p Pool.release,
    .done (match ρ.fault with
      | some φ => .error (surface budget φ)
      | none => .ok (tableOf ρ)))

/-- The budget of a query in seconds. -/
def budgetOf (σ : Settings) (ρ : Request) : Except Fault Value :=
  match ρ.budget with
  | some v => .ok v
  | none => (Settings.seconds σ.queryTimeout).map Value.float

/-- Runs a query on a connection of the pool. -/
def run (γ : Gate) (p : Nat) (ρ : Request) : Gate × Running :=
  match budgetOf γ.settings ρ with
  | .error φ => (γ, .done (.error φ))
  | .ok budget =>
    if let some φ := misuse? budget then (γ, .done (.error φ))
    else if isSpent budget then (γ, .done (.error (overrun budget)))
    else
      let γ := γ.onPool p Pool.acquire
      let π := γ.poolAt p
      let γ := γ.log .debug .pool
        ("DB pool acquire: used=" ++ toString π.used ++ " total=" ++ toString π.size)
      match paramsOf ρ.params with
      | .error φ => (γ.onPool p Pool.release, .done (.error φ))
      | .ok params =>
        let reply := γ.database.replies.headD {}
        let γ := { γ.emit (.query ρ.text params) with
          database.replies := γ.database.replies.tail }
        if reply.delay ≤ 0 then γ.finishRun p budget reply
        else (γ, .waiting (.running p (γ.now + reply.delay) ((lengthOf budget).map (γ.now + ·))
          budget reply))

/-- The pool is there, or the query waits for it. -/
def afterGetting (γ : Gate) (ρ : Request) : Getting → Gate × Running
  | .waiting n => (γ, .waiting (.joining n ρ))
  | .done (.ok p) => γ.run p ρ
  | .done (.error φ) => (γ, .done (.error φ))

/-- Runs a query. -/
def execute (γ : Gate) (ρ : Request) : Gate × Running :=
  let (γ, π) := γ.getPool
  γ.afterGetting ρ π

namespace RunPhase

/-- When a query goes on of itself. -/
def due? : RunPhase → Option Time
  | joining .. => none
  | running _ t d _ _ => Time.earlier (some t) d

/-- Whether a query can go on. -/
def isReady (γ : Gate) : RunPhase → Bool
  | joining n _ => (γ.opened[n]?).isSome
  | running _ t d _ _ => t ≤ γ.now || Time.reached γ.now d

/-- Whether the budget is over before the reply comes. -/
def isOverrun (ends : Time) : Option Time → Bool
  | some d => d ≤ ends
  | none => false

/-- Goes on with a query. -/
def resume (γ : Gate) : RunPhase → Gate × Running
  | joining n ρ => γ.afterGetting ρ (γ.join n)
  | running p t d budget reply =>
    if isOverrun t d then (γ.onPool p Pool.release, .done (.error (overrun budget)))
    else γ.finishRun p budget reply

/-- Gives a query up. -/
def cancel (γ : Gate) : RunPhase → Gate × Running
  | joining .. => (γ, .done (.error cancelled))
  | running p _ _ _ _ => (γ.onPool p Pool.release, .done (.error cancelled))

end RunPhase

end Sluice.Gate
