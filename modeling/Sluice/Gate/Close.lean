import Sluice.Gate.Run

/-!
# Closing

Closing waits for a pending opening, then closes the pool and then stops the proxy.  A shutdown is a
closing within a grace period: when the period is over the closing is given up, and what is left of
the proxy is killed.
-/

namespace Sluice.Gate

open Proxy

/-- What a closing waits for. -/
inductive ClosePhase where
  | awaitingOpening (n : Nat)
  | awaitingPool (ends : Time) (fault : Option Fault)
  | stoppingProxy (s : Nat) (φ : StopPhase)

/-- Where a closing stands. -/
abbrev Closing := Progress ClosePhase (Except Fault Unit)

/-- The proxy has been stopped, or is being stopped. -/
def afterStop (γ : Gate) (s : Nat) : Stopping → Gate × Closing
  | .waiting φ => (γ, .waiting (.stoppingProxy s φ))
  | .done (.ok ()) => ({ γ with proxy := none }, .done (.ok ()))
  | .done (.error φ) => (γ, .done (.error φ))

/-- Stops the proxy, if there is one. -/
def stopProxy (γ : Gate) : Gate × Closing :=
  match γ.proxy with
  | none => (γ, .done (.ok ()))
  | some s =>
    let (w, π) := γ.world.stop s
    { γ with world := w }.afterStop s π

/-- The pool has been closed. -/
def afterClosingPool (γ : Gate) : Option Fault → Gate × Closing
  | some φ => (γ, .done (.error φ))
  | none => ({ γ with pool := none }.log .info .pool "DB pool closed").stopProxy

/-- Closes the pool, if there is one, and then stops the proxy. -/
def release (γ : Gate) : Gate × Closing :=
  match γ.pool with
  | none => γ.stopProxy
  | some _ =>
    let (γ, o) := γ.closePool
    if o.delay ≤ 0 then γ.afterClosingPool o.fault
    else (γ, .waiting (.awaitingPool (γ.now + o.delay) o.fault))

/-- The opening that was awaited has ended. -/
def afterOpening (γ : Gate) : Except Fault Nat → Gate × Closing
  | .ok _ => γ.release
  | .error φ =>
    if φ.kind = .cancelled then (γ, .done (.error φ))
    else (γ.log .warning .pool
      ("Pending initialization failed during close: " ++ φ.message)).release

/-- Awaits an opening. -/
def awaitOpening (γ : Gate) (n : Nat) : Gate × Closing :=
  match γ.opened[n]? with
  | some r => γ.afterOpening r
  | none => (γ, .waiting (.awaitingOpening n))

/-- Begins to close. -/
def close (γ : Gate) : Gate × Closing :=
  if γ.opening.isSome then γ.awaitOpening γ.nextOpening else γ.release

namespace ClosePhase

/-- When a closing goes on of itself. -/
def due? : ClosePhase → Option Time
  | awaitingOpening _ => none
  | awaitingPool t _ => some t
  | stoppingProxy _ φ => φ.due?

/-- Whether a closing can go on. -/
def isReady (γ : Gate) : ClosePhase → Bool
  | awaitingOpening n => (γ.opened[n]?).isSome
  | awaitingPool t _ => t ≤ γ.now
  | stoppingProxy _ φ => φ.isReady γ.world

/-- Goes on with a closing. -/
def resume (γ : Gate) : ClosePhase → Gate × Closing
  | awaitingOpening n => γ.awaitOpening n
  | awaitingPool _ φ => γ.afterClosingPool φ
  | stoppingProxy s φ =>
    let (w, π) := φ.resume s γ.world
    { γ with world := w }.afterStop s π

/-- Gives a closing up, and with it the opening that it awaits. -/
def cancel (γ : Gate) : ClosePhase → Gate × Closing
  | awaitingOpening n => γ.cancelOpening.awaitOpening n
  | awaitingPool .. => (γ, .done (.error cancelled))
  | stoppingProxy s _ =>
    let (w, π) := StopPhase.cancel s γ.world
    { γ with world := w }.afterStop s π

end ClosePhase

/-! ### Shutdown -/

/-- What a shutdown waits for. -/
inductive ShutdownPhase where
  | closing (deadline : Option Time) (grace : Value) (φ : ClosePhase)
  /-- The grace period is over, and the closing that was given up has not ended. -/
  | overdue (grace : Value) (φ : ClosePhase)
  /-- The shutdown itself was given up, and its closing has not ended. -/
  | abandoned (φ : ClosePhase)

/-- Where a shutdown stands: in the end it says whether all was closed in time. -/
abbrev ShuttingDown := Progress ShutdownPhase (Except Fault Bool)

/-- How the closing within a shutdown ended. -/
inductive Ending where
  | closed
  | late
  | failed (φ : Fault)
  deriving Inhabited

/-- The record of an ending, if it is not the desired one. -/
def Ending.record (grace : Value) : Ending → Option Event
  | closed => none
  | late => some (.log .error .context
      ("Shutdown did not finish within " ++ grace.plainString ++ "s, forcing exit"))
  | failed φ => some (.log .error .context ("Shutdown failed: " ++ φ.message))

def Ending.isClosed : Ending → Bool
  | closed => true
  | _ => false

/-- The ending that a result of closing is.  A closing that takes too long may say so itself. -/
def Ending.ofFault (φ : Fault) : Ending := if φ.isTimeout then late else failed φ

/-- A shutdown has come to an ending; unless all is closed, the proxy is killed. -/
def settle (γ : Gate) (grace : Value) (ε : Ending) : Gate × ShuttingDown :=
  match ε.record grace with
  | none => (γ, .done (.ok true))
  | some r => ((γ.emit r).abort, .done (.ok false))

/-- The closing goes on, or has ended within the grace period. -/
def duringShutdown (γ : Gate) (deadline : Option Time) (grace : Value) :
    Closing → Gate × ShuttingDown
  | .waiting φ => (γ, .waiting (.closing deadline grace φ))
  | .done (.ok ()) => γ.settle grace .closed
  | .done (.error φ) =>
    if φ.kind = .cancelled then (γ, .done (.error φ)) else γ.settle grace (.ofFault φ)

/-- The closing that was given up for lack of time goes on, or has ended. -/
def afterExpiry (γ : Gate) (grace : Value) : Closing → Gate × ShuttingDown
  | .waiting φ => (γ, .waiting (.overdue grace φ))
  | .done (.ok ()) => γ.settle grace .closed
  | .done (.error φ) =>
    if φ.kind = .cancelled then γ.settle grace .late else γ.settle grace (.ofFault φ)

/-- The closing of a shutdown that was given up goes on, or has ended. -/
def afterAbandoning (γ : Gate) : Closing → Gate × ShuttingDown
  | .waiting φ => (γ, .waiting (.abandoned φ))
  | .done _ => (γ, .done (.error cancelled))

/-- Begins a shutdown with a number of seconds of grace. -/
def shutdown (γ : Gate) (grace : Value) : Gate × ShuttingDown :=
  if let some φ := misuse? grace then γ.settle grace (.failed φ)
  else if isSpent grace then γ.settle grace .late
  else
    let deadline := (lengthOf grace).map (γ.now + ·)
    let (γ, π) := γ.close
    γ.duringShutdown deadline grace π

namespace ShutdownPhase

/-- When a shutdown goes on of itself. -/
def due? : ShutdownPhase → Option Time
  | closing d _ φ => Time.earlier φ.due? d
  | overdue _ φ | abandoned φ => φ.due?

/-- Whether a shutdown can go on. -/
def isReady (γ : Gate) : ShutdownPhase → Bool
  | closing d _ φ => φ.isReady γ || Time.reached γ.now d
  | overdue _ φ | abandoned φ => φ.isReady γ

/-- Goes on with a shutdown. -/
def resume (γ : Gate) : ShutdownPhase → Gate × ShuttingDown
  | closing d grace φ =>
    if φ.isReady γ then
      let (γ, π) := φ.resume γ
      γ.duringShutdown d grace π
    else
      let (γ, π) := φ.cancel γ
      γ.afterExpiry grace π
  | overdue grace φ =>
    let (γ, π) := φ.resume γ
    γ.afterExpiry grace π
  | abandoned φ =>
    let (γ, π) := φ.resume γ
    γ.afterAbandoning π

/-- Gives a shutdown up. -/
def cancel (γ : Gate) : ShutdownPhase → Gate × ShuttingDown
  | closing _ _ φ | overdue _ φ | abandoned φ =>
    let (γ, π) := φ.cancel γ
    γ.afterAbandoning π

end ShutdownPhase

end Sluice.Gate
