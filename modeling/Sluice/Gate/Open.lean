import Sluice.Gate.Basic

/-!
# Opening

An opening starts the proxy if one is to be used, makes a pool and tries a connection.  What it has
made is undone if it fails; nothing more is undone if it is given up.
-/

namespace Sluice.Gate

open Proxy

/-- An opening has ended. -/
def conclude (γ : Gate) (r : Except Fault Nat) : Gate :=
  { γ with opening := none, opened := γ.opened ++ [r] }

def await (γ : Gate) (φ : OpenPhase) : Gate := { γ with opening := some φ }

/-- The proxy has been stopped, or is being stopped, after a failed opening. -/
def afterUnwinding (γ : Gate) (s : Nat) (cause : Fault) : Stopping → Gate
  | .waiting φ => γ.await (.unwindingProxy s φ cause)
  | .done (.ok ()) => { γ with proxy := none }.conclude (.error cause)
  | .done (.error φ) => γ.conclude (.error φ)

/-- Stops the proxy after a failed opening. -/
def unwindProxy (γ : Gate) (cause : Fault) : Gate :=
  match γ.proxy with
  | none => γ.conclude (.error cause)
  | some s =>
    let (w, π) := γ.world.stop s
    { γ with world := w }.afterUnwinding s cause π

/-- The pool of a failed opening has been closed. -/
def afterPoolClosed (γ : Gate) (cause : Fault) : Option Fault → Gate
  | some φ => γ.conclude (.error φ)
  | none => γ.unwindProxy cause

def connectivity (φ : Fault) : Fault :=
  .saying (.own .connectivity) ("Failed to connect to MySQL: " ++ φ.message)

/-- The first connection has been tried. -/
def afterPing (γ : Gate) (τ : Target) (p : Nat) : Option Fault → Gate
  | some φ =>
    let (γ, o) := γ.closePool
    if o.delay ≤ 0 then γ.afterPoolClosed (connectivity φ) o.fault
    else γ.await (.unwindingPool (γ.now + o.delay) o.fault (connectivity φ))
  | none =>
    ({ γ with pool := some p }.log .info .pool
      ("DB pool initialized (" ++ τ.1 ++ ":" ++ toString τ.2 ++ ", max=" ++
        toString γ.settings.connectionLimit ++ ")")).conclude (.ok p)

/-- The pool has been made, or could not be. -/
def afterConnect (γ : Gate) (τ : Target) : Option Fault → Gate
  | some φ => γ.unwindProxy (connectivity φ)
  | none =>
    let p := γ.pools.length
    let o := γ.database.pings.headD {}
    let γ := { γ.emit .ping with
      pools := γ.pools ++ [Pool.fresh]
      database.pings := γ.database.pings.tail }
    if o.delay ≤ 0 then γ.afterPing τ p o.fault
    else γ.await (.pinging τ p (γ.now + o.delay) o.fault)

/-- The options of a new pool. -/
def poolOptions (σ : Settings) (τ : Target) (timeout : Decimal.Binary64) : Row :=
  [("host", .text τ.1), ("port", .int τ.2), ("user", .text σ.user), ("password", .text σ.password),
    ("db", if σ.database = "" then .null else .text σ.database), ("minsize", .int 1),
    ("maxsize", .int σ.connectionLimit), ("connect_timeout", .float timeout),
    ("autocommit", .bool true), ("cursorclass", .text "DictCursor")]

/-- Makes the pool. -/
def createPool (γ : Gate) : Gate :=
  let τ := γ.target
  match Settings.seconds γ.settings.connectTimeout with
  | .error φ => γ.afterConnect τ (some φ)
  | .ok timeout =>
    let o := γ.database.connects.headD {}
    let γ := { γ.emit (.createPool (poolOptions γ.settings τ timeout)) with
      database.connects := γ.database.connects.tail }
    if o.delay ≤ 0 then γ.afterConnect τ o.fault
    else γ.await (.connecting τ (γ.now + o.delay) o.fault)

/-- The start of the proxy has ended, or goes on. -/
def afterStart (γ : Gate) (s : Nat) : Starting → Gate
  | .waiting φ => γ.await (.starting s φ)
  | .done (.ok ()) => { γ with proxy := some s }.createPool
  | .done (.error φ) => γ.conclude (.error φ)

/-- Begins an opening. -/
def beginOpening (γ : Gate) : Gate :=
  if γ.settings.proxyEnabled && γ.proxy.isNone then
    match γ.settings.proxy with
    | .error φ => γ.conclude (.error φ)
    | .ok κ =>
      let s := γ.world.supervisors.length
      let (w, π) := (γ.world.addSupervisor κ).start s
      { γ with world := w }.afterStart s π
  else γ.createPool

namespace OpenPhase

/-- When an opening goes on of itself. -/
def due? : OpenPhase → Option Time
  | starting _ φ => φ.due?
  | connecting _ t _ | pinging _ _ t _ | unwindingPool t _ _ => some t
  | unwindingProxy _ φ _ => φ.due?

/-- Whether an opening can go on. -/
def isReady (w : World) : OpenPhase → Bool
  | starting s φ => φ.isReady s w
  | connecting _ t _ | pinging _ _ t _ | unwindingPool t _ _ => t ≤ w.now
  | unwindingProxy _ φ _ => φ.isReady w

/-- Goes on with an opening. -/
def resume (γ : Gate) : OpenPhase → Gate
  | starting s φ =>
    let (w, π) := φ.resume s γ.world
    { γ with world := w }.afterStart s π
  | connecting τ _ φ => γ.afterConnect τ φ
  | pinging τ p _ φ => γ.afterPing τ p φ
  | unwindingPool _ φ cause => γ.afterPoolClosed cause φ
  | unwindingProxy s φ cause =>
    let (w, π) := φ.resume s γ.world
    { γ with world := w }.afterUnwinding s cause π

/-- Gives an opening up. -/
def cancel (γ : Gate) : OpenPhase → Gate
  | starting s φ =>
    let (w, π) := φ.cancel s γ.world
    { γ with world := w }.afterStart s π
  | connecting .. | pinging .. | unwindingPool .. => γ.conclude (.error cancelled)
  | unwindingProxy s _ cause =>
    let (w, π) := StopPhase.cancel s γ.world
    { γ with world := w }.afterUnwinding s cause π

end OpenPhase

/-- Goes on with the pending opening, if it can. -/
def resumeOpening? (γ : Gate) : Option Gate :=
  match γ.opening with
  | some φ => if φ.isReady γ.world then some (φ.resume γ) else none
  | none => none

/-- Gives the pending opening up. -/
def cancelOpening (γ : Gate) : Gate :=
  match γ.opening with
  | some φ => φ.cancel γ
  | none => γ

/-- Where getting the pool stands: it is there, or an opening of some number is awaited. -/
abbrev Getting := Progress Nat (Except Fault Nat)

/-- Joins an opening. -/
def join (γ : Gate) (n : Nat) : Getting :=
  match γ.opened[n]? with
  | some r => .done r
  | none => .waiting n

/-- Gets the pool, and begins an opening if there is neither a pool nor an opening. -/
def getPool (γ : Gate) : Gate × Getting :=
  match γ.pool with
  | some p => (γ, .done (.ok p))
  | none =>
    let n := γ.nextOpening
    let γ := if γ.opening.isSome then γ else γ.beginOpening
    (γ, γ.join n)

@[simp] theorem opening_conclude (γ : Gate) (r : Except Fault Nat) :
    (γ.conclude r).opening = none := rfl

@[simp] theorem opened_conclude (γ : Gate) (r : Except Fault Nat) :
    (γ.conclude r).opened = γ.opened ++ [r] := rfl

@[simp] theorem join_conclude (γ : Gate) (r : Except Fault Nat) :
    (γ.conclude r).join γ.nextOpening = .done r := by
  simp [join, nextOpening]

end Sluice.Gate
