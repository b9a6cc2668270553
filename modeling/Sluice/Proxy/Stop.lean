import Sluice.Proxy.World

/-!
# Stopping the proxy

A process is asked to end and is killed if it has not ended within the grace period.  The supervisor
lets go of it once its end has been seen, or at once if whoever asked gives up; then it is killed
first.
-/

namespace Sluice.Proxy

/-- How long a process may take to end by itself. -/
def stopGrace : Time := 5000000

/-- Whoever asked has given up. -/
def cancelled : Fault := ⟨.cancelled, []⟩

/-- What a supervisor that stops its process waits for. -/
inductive StopPhase where
  /-- The process `p` may end by itself up to a moment. -/
  | grace (p : Nat) (ends : Time)
  /-- The process `p` was killed. -/
  | killed (p : Nat)
  deriving DecidableEq, Repr

/-- Where stopping stands. -/
abbrev Stopping := Progress StopPhase (Except Fault Unit)

namespace World

/-- Ends all reading and watching, and lets go of the process. -/
def release (w : World) (s : Nat) : World :=
  (w.onSupervisor s fun σ ↦
    { σ with state := .stopped, child := none, signal := none, watches := none, readers := [] }).say
      .info "Proxy stopped"

def hasSeen (w : World) (p : Nat) : Bool := (w.child p).seen.isSome

/-- Begins to stop the process of a supervisor, if there is one. -/
def stop (w : World) (s : Nat) : World × Stopping :=
  match (w.supervisor s).child with
  | none => (w, .done (.ok ()))
  | some p =>
    let w := (w.say .info "Stopping proxy...").onSupervisor s ({ · with state := .stopping })
    if (w.supervisor s).signal.any w.hasSeen then (w.release s, .done (.ok ()))
    else (w.terminate p, .waiting (.grace p (w.now + stopGrace)))

end World

namespace StopPhase

/-- When stopping goes on of itself. -/
def due? : StopPhase → Option Time
  | grace _ t => some t
  | killed _ => none

/-- Whether stopping can go on. -/
def isReady (w : World) : StopPhase → Bool
  | grace p t => w.hasSeen p || t ≤ w.now
  | killed p => w.hasSeen p

/-- What waiting for nothing reports. -/
def nothingToAwait : Fault :=
  .saying .type "An asyncio.Future, a coroutine or an awaitable is required"

/-- Goes on with stopping. -/
def resume (s : Nat) (w : World) : StopPhase → World × Stopping
  | grace p _ =>
    if w.hasSeen p then (w.release s, .done (.ok ()))
    else
      let w := (w.say .warning "Force killing proxy...").kill p
      match (w.supervisor s).signal with
      | some q =>
        if w.hasSeen q then (w.release s, .done (.ok ())) else (w, .waiting (.killed q))
      | none => (w.release s, .done (.error nothingToAwait))
  | killed _ => (w.release s, .done (.ok ()))

/-- Gives up waiting: what is alive is killed. -/
def cancel (s : Nat) (w : World) : World × Stopping :=
  ((w.killChild s).release s, .done (.error cancelled))

end StopPhase

end Sluice.Proxy
