import Sluice.Gate.Close
import Sluice.Server.Reply
import Sluice.Server.Web

/-!
# Jobs

A job is one thing asked of a supervisor, of the gate or of its tools.  Where it stands is a point
at which it waits, and every such point says when it is ready, how it goes on and how it is given
up.
-/

namespace Sluice.Server

open Proxy Gate

/-- What may be asked for. -/
inductive Order where
  /-- The supervisor `s` is to start the proxy, to stop it, to kill it or to try a connection. -/
  | start (s : Nat)
  | stop (s : Nat)
  | kill (s : Nat)
  | check (s : Nat)
  | connect
  | run (ρ : Request)
  | close
  | abort
  | locate
  | shutdown (grace : Value)
  | announce
  /-- A tool is to be called, by whoever is at hand, over the tool protocol or over HTTP. -/
  | call (name : String) (arguments : Row)
  | converse (name : String) (arguments : Row)
  | visit (υ : Visit)

/-- What an order comes to. -/
inductive Answer where
  | nothing
  | truth (b : Bool)
  | target (τ : Target)
  | table (τ : Table)
  | result (v : Value)
  | reply (ρ : ToolReply)
  | page (π : Page)

/-- What a job waits for. -/
inductive JobPhase where
  | starting (s : Nat) (φ : StartPhase)
  | stopping (s : Nat) (φ : StopPhase)
  | checking (α : Attempt)
  | connecting (n : Nat)
  | running (φ : RunPhase)
  | closing (φ : ClosePhase)
  | shuttingDown (φ : ShutdownPhase)
  | calling (φ : CallPhase)
  | conversing (name : String) (φ : CallPhase)
  | visiting (name : String) (φ : CallPhase)

/-- Where a job stands. -/
abbrev Working := Progress JobPhase (Except Fault Answer)

/-- The announcement of a gate's tools. -/
def toolsOf (γ : Gate) : List Tool.Definition := Tool.definitions (.int γ.settings.maxRows)

/-! ### Parts of a job -/

/-- Work on a part has come to `π`, and the job goes on with it. -/
def part {φ α : Type} (point : φ → JobPhase) (answer : α → Answer) :
    Progress φ (Except Fault α) → Working
  | .waiting p => .waiting (point p)
  | .done r => .done (r.map answer)

/-- Work of a supervisor as a part of a job. -/
def ofWorld {φ : Type} (γ : Gate) (point : φ → JobPhase)
    (r : World × Progress φ (Except Fault Unit)) : Gate × Working :=
  ({ γ with world := r.1 }, part point (fun _ ↦ .nothing) r.2)

/-- Work of the gate as a part of a job. -/
def ofGate {φ α : Type} (point : φ → JobPhase) (answer : α → Answer)
    (r : Gate × Progress φ (Except Fault α)) : Gate × Working :=
  (r.1, part point answer r.2)

/-- A call whose caller wants the result as it is. -/
def plainly : Gate × Calling → Gate × Working := ofGate .calling .result

/-- A call over the tool protocol. -/
def politely (name : String) : Gate × Calling → Gate × Working
  | (γ, .waiting φ) => (γ, .waiting (.conversing name φ))
  | (γ, .done r) =>
    let (γ, r) := replyOf γ name r
    (γ, .done (r.map .reply))

/-- A call over HTTP. -/
def publicly (name : String) : Gate × Calling → Gate × Working
  | (γ, .waiting φ) => (γ, .waiting (.visiting name φ))
  | (γ, .done r) =>
    let (γ, r) := pageOf γ name r
    (γ, .done (r.map .page))

/-! ### Orders -/

/-- Work that is over at once. -/
def atOnce (γ : Gate) (α : Answer) : Gate × Working := (γ, .done (.ok α))

/-- Tries a connection once. -/
def tryConnection (γ : Gate) (s : Nat) : Gate × Working :=
  let (w, α) := γ.world.connect s
  let γ := { γ with world := w }
  if α.ends ≤ w.now then atOnce γ (.truth α.succeeds) else (γ, .waiting (.checking α))

/-- Begins the work on an order. -/
def begin (γ : Gate) : Order → Gate × Working
  | .start s => ofWorld γ (.starting s) (γ.world.start s)
  | .stop s => ofWorld γ (.stopping s) (γ.world.stop s)
  | .kill s => atOnce (γ.onWorld (·.killChild s)) .nothing
  | .check s => tryConnection γ s
  | .connect => ofGate .connecting (fun _ ↦ .truth true) γ.getPool
  | .run ρ => ofGate .running .table (γ.execute ρ)
  | .close => ofGate .closing (fun _ ↦ .nothing) γ.close
  | .abort => atOnce γ.abort .nothing
  | .locate => atOnce γ (.target γ.target)
  | .shutdown grace => ofGate .shuttingDown .truth (γ.shutdown grace)
  | .announce => atOnce γ (.result (announcement (toolsOf γ)))
  | .call ν ρ => plainly (γ.call ν ρ)
  | .converse ν ρ =>
    match refusal? (toolsOf γ) ν ρ with
    | some reply => atOnce γ (.reply reply)
    | none => politely ν (γ.call ν ρ)
  | .visit υ =>
    match υ.errand (toolsOf γ) with
    | .send π => atOnce γ (.page π)
    | .call ν ρ => publicly ν (γ.call ν ρ)

namespace JobPhase

/-- When a job goes on of itself. -/
def due? : JobPhase → Option Time
  | starting _ φ => φ.due?
  | stopping _ φ => φ.due?
  | checking α => some α.ends
  | connecting _ => none
  | running φ => φ.due?
  | closing φ => φ.due?
  | shuttingDown φ => φ.due?
  | calling φ | conversing _ φ | visiting _ φ => φ.run.due?

/-- Whether a job can go on. -/
def isReady (γ : Gate) : JobPhase → Bool
  | starting s φ => φ.isReady s γ.world
  | stopping _ φ => φ.isReady γ.world
  | checking α => α.ends ≤ γ.now
  | connecting n => (γ.opened[n]?).isSome
  | running φ => φ.isReady γ
  | closing φ => φ.isReady γ
  | shuttingDown φ => φ.isReady γ
  | calling φ | conversing _ φ | visiting _ φ => φ.run.isReady γ

/-- Goes on with a job. -/
def resume (γ : Gate) : JobPhase → Gate × Working
  | starting s φ => ofWorld γ (.starting s) (φ.resume s γ.world)
  | stopping s φ => ofWorld γ (.stopping s) (φ.resume s γ.world)
  | checking α => atOnce γ (.truth α.succeeds)
  | connecting n => ofGate .connecting (fun _ ↦ .truth true) (γ, γ.join n)
  | running φ => ofGate .running .table (φ.resume γ)
  | closing φ => ofGate .closing (fun _ ↦ .nothing) (φ.resume γ)
  | shuttingDown φ => ofGate .shuttingDown .truth (φ.resume γ)
  | calling φ => plainly (φ.resume γ)
  | conversing ν φ => politely ν (φ.resume γ)
  | visiting ν φ => publicly ν (φ.resume γ)

/-- Gives a job up. -/
def cancel (γ : Gate) : JobPhase → Gate × Working
  | starting s φ => ofWorld γ (.starting s) (φ.cancel s γ.world)
  | stopping s _ => ofWorld γ (.stopping s) (StopPhase.cancel s γ.world)
  | checking _ | connecting _ => (γ, .done (.error cancelled))
  | running φ => ofGate .running .table (φ.cancel γ)
  | closing φ => ofGate .closing (fun _ ↦ .nothing) (φ.cancel γ)
  | shuttingDown φ => ofGate .shuttingDown .truth (φ.cancel γ)
  | calling φ => plainly (φ.cancel γ)
  | conversing ν φ => politely ν (φ.cancel γ)
  | visiting ν φ => publicly ν (φ.cancel γ)

/-- Whether a closing waits for the pending opening.  Such a job hears of its end first. -/
def isFirst : JobPhase → Bool
  | closing (.awaitingOpening _) => true
  | shuttingDown (.closing _ _ (.awaitingOpening _)) => true
  | shuttingDown (.overdue _ (.awaitingOpening _)) => true
  | shuttingDown (.abandoned (.awaitingOpening _)) => true
  | _ => false

end JobPhase

end Sluice.Server
