import Sluice.Child
import Sluice.Install.Download
import Sluice.Proxy.Config
import Sluice.Proxy.Output

/-!
# The world of a supervisor

A supervisor launches the proxy, reads what it writes and is told when it ends.  The world holds the
clock, the machine, the processes and the supervisors, and a record of what happens.  What processes
do by themselves is one act at a time: a piece of output, the end of a stream, or their own end.
-/

namespace Sluice.Proxy

open Child

/-- How a supervisor sees its proxy. -/
inductive State where
  | stopped
  | starting
  | running
  | stopping
  | failed
  deriving DecidableEq, Repr

def State.name : State → String
  | stopped => "stopped"
  | starting => "starting"
  | running => "running"
  | stopping => "stopping"
  | failed => "failed"

/-- The reading of one stream of a process. -/
structure Reader where
  child : Nat
  stream : Stream
  buffer : LineBuffer := {}
  deriving DecidableEq, Repr

def Reader.reads (ρ : Reader) (p : Nat) (σ : Stream) : Bool := ρ.child = p && ρ.stream = σ

/-- A supervisor of the proxy. -/
structure Supervisor where
  config : Config := { instanceName := none }
  state : State := .stopped
  /-- What went wrong last, as far as output tells. -/
  lastError : Value := .text ""
  /-- The process it holds. -/
  child : Option Nat := none
  /-- The process whose end it is to be told. -/
  signal : Option Nat := none
  /-- The process that its watcher waits for. -/
  watches : Option Nat := none
  /-- The readers that have not come to an end. -/
  readers : List Reader := []
  deriving Inhabited

/-- How connections to local ports turn out. -/
structure Network where
  /-- Something else accepts connections on the port. -/
  alwaysOpen : Bool := false
  /-- Nothing answers at a closed port, not even a refusal. -/
  hangs : Bool := false
  /-- How long a closed port takes to refuse a connection, which depends on the moment. -/
  refusal : Time → Time := fun _ ↦ 0
  /-- How long an accepted connection takes. -/
  latency : Time := 0
  /-- How long a download takes. -/
  transfer : Time := 0

/-- The world of the supervisors. -/
structure World where
  now : Time := 0
  site : Install.Site
  /-- How the processes to come behave, in the order in which they are launched. -/
  behaviours : List Behaviour := []
  network : Network := {}
  children : List Child := []
  supervisors : List Supervisor := []
  events : List Event := []

namespace World

def child (w : World) (p : Nat) : Child := w.children.getD p default

def supervisor (w : World) (s : Nat) : Supervisor := w.supervisors.getD s default

def onChild (w : World) (p : Nat) (f : Child → Child) : World :=
  { w with children := w.children.modify p f }

def onSupervisor (w : World) (s : Nat) (f : Supervisor → Supervisor) : World :=
  { w with supervisors := w.supervisors.modify s f }

def emit (w : World) (ε : Event) : World := { w with events := w.events ++ [ε] }

def log (w : World) (ι : Level) (κ : Logger) (s : String) : World := w.emit (.log ι κ s)

def say (w : World) (ι : Level) (s : String) : World := w.log ι .proxy s

/-- One more supervisor, which has done nothing yet. -/
def addSupervisor (w : World) (κ : Config) : World :=
  { w with supervisors := w.supervisors ++ [{ config := κ }] }

/-- Whether a supervisor runs a process that is alive. -/
def isHealthy (w : World) (s : Nat) : Bool :=
  let σ := w.supervisor s
  σ.state = .running && match σ.child with
    | some p => (w.child p).isAlive
    | none => false

/-- What a supervisor says went wrong last. -/
def lastErrorOr (w : World) (s : Nat) (otherwise : String) : String :=
  let v := (w.supervisor s).lastError
  if v.isTruthy then v.plainString else otherwise

/-! ### Output -/

/-- Takes a line of output, and says whether the reader goes on. -/
def readLine (w : World) (s : Nat) (σ : Stream) (bs : List UInt8) : World × Bool :=
  match lineText? bs, σ with
  | none, _ => (w, true)
  | some l, .output =>
    let w := w.log .info .proxyOutput l
    match structuredError l with
    | .ok (some v) => (w.onSupervisor s ({ · with lastError := v }), true)
    | .ok none => (w, true)
    | .error _ => (w, false)
  | some l, .errors =>
    ((w.log .warning .proxyErrors l).onSupervisor s ({ · with lastError := .text l }), true)

/-- Takes lines of output until the reader gives up. -/
def readLines (w : World) (s : Nat) (σ : Stream) : List (List UInt8) → World × Bool
  | [] => (w, true)
  | l :: ls =>
    match w.readLine s σ l with
    | (w, true) => w.readLines s σ ls
    | (w, false) => (w, false)

def reader? (w : World) (p : Nat) (σ : Stream) : Option Reader :=
  (w.supervisor (w.child p).owner).readers.find? (·.reads p σ)

/-- Ends the reading of a stream. -/
def dropReader (w : World) (p : Nat) (σ : Stream) : World :=
  w.onSupervisor (w.child p).owner fun τ ↦
    { τ with readers := τ.readers.filter fun ρ ↦ !ρ.reads p σ }

/-- A process has written something. -/
def receive (w : World) (p : Nat) (σ : Stream) (bs : List UInt8) : World :=
  let s := (w.child p).owner
  match w.reader? p σ with
  | none => w
  | some ρ =>
    let κ := ρ.buffer.feed bs
    match w.readLines s σ κ.lines, κ.buffer with
    | (w, true), some β => w.onSupervisor s fun τ ↦
        { τ with readers := τ.readers.map fun ρ ↦ if ρ.reads p σ then { ρ with buffer := β } else ρ }
    | (w, _), _ => w.dropReader p σ

/-- A stream has come to its end. -/
def closeStream (w : World) (p : Nat) (σ : Stream) : World :=
  match w.reader? p σ with
  | none => w
  | some ρ =>
    (w.readLines (w.child p).owner σ ρ.buffer.finish.toList).1.dropReader p σ

/-- Something has come through a stream. -/
def deliver (w : World) (p : Nat) (σ : Stream) : Option (List UInt8) → World
  | some bs => w.receive p σ bs
  | none => w.closeStream p σ

/-! ### The end of a process -/

def exitText (code : Int) : String :=
  if code < 0 then "Process killed by signal " ++ toString (-code)
  else "Process exited with code " ++ toString code

/-- The watcher of a process passes its end on.  A proxy that ends while it should run is missed. -/
def notice (w : World) (p : Nat) (code : Int) : World :=
  let s := (w.child p).owner
  if (w.supervisor s).watches = some p then
    let w := w.onChild p ({ · with seen := some code })
    let w := (w.onSupervisor s ({ · with watches := none })).say .info (exitText code)
    if (w.supervisor s).child = some p ∧ (w.supervisor s).state = .running then
      (w.say .error ("Proxy exited while running. Last error: " ++
        w.lastErrorOr s "Unknown error")).onSupervisor s ({ · with state := .stopped })
    else w
  else w

/-- A process ends. -/
def exit (w : World) (p : Nat) (code : Int) : World :=
  let w := (w.onChild p (·.finish code w.now)).emit (.exit code)
  let w := if (w.child p).behaviour.holdsPipes then w
    else (w.closeStream p .output).closeStream p .errors
  w.notice p code

/-! ### Acts of processes -/

/-- The process that acts next, and when. -/
def nextActor? (w : World) : Option (Time × Nat) :=
  (w.children.zipIdx).foldl
    (fun best (χ, p) ↦
      match χ.nextAct?, best with
      | some (t, _), some (u, _) => if t < u then some (t, p) else best
      | some (t, _), none => some (t, p)
      | none, _ => best) none

/-- When a process acts next. -/
def due? (w : World) : Option Time := w.nextActor?.map Prod.fst

/-- Lets a process act once. -/
def act (w : World) (p : Nat) : World :=
  match (w.child p).nextAct? with
  | some (_, .write σ β) => (w.onChild p (·.flush)).deliver p σ β
  | some (_, .exit n) => w.exit p n
  | none => w

/-- Lets the next process act if it is time. -/
def act? (w : World) : Option World :=
  match w.nextActor? with
  | some (t, p) => if t ≤ w.now then some (w.act p) else none
  | none => none

/-! ### Signals -/

def terminate (w : World) (p : Nat) : World :=
  (w.emit .terminate).onChild p (·.terminate w.now)

def kill (w : World) (p : Nat) : World := (w.emit .kill).onChild p (·.kill w.now)

/-- Kills the process of a supervisor if it is alive, and does not wait. -/
def killChild (w : World) (s : Nat) : World :=
  match (w.supervisor s).child with
  | some p => if (w.child p).isAlive then w.kill p else w
  | none => w

/-! ### Launch and connections -/

/-- Launches a process. -/
def launch (w : World) (s : Nat) (command : List String) : World × Except Fault Nat :=
  let β := w.behaviours.headD {}
  let w := { w.emit (.spawn command) with behaviours := w.behaviours.tail }
  match β.refusal with
  | some φ => (w, .error φ)
  | none =>
    ({ w with children := w.children ++ [Child.launch β s w.now] }, .ok w.children.length)

/-- Does work at the site. -/
def atSite {α : Type} (w : World) (ω : Install.Work α) : World × Except Fault α :=
  let (r, σ) := (ω.run.run { w.site with events := [] })
  ({ w with site := σ, events := w.events ++ σ.events }, r)

/-- Whether something accepts connections on the port. -/
def isOpen (w : World) : Bool := w.network.alwaysOpen || w.children.any (·.accepts w.now)

end World

/-- How long a connection may take. -/
def connectTimeout : Time := 1000000

/-- How long a connection takes to fail that is tried at a closed port at a moment. -/
def Network.delay (ν : Network) (t : Time) : Time :=
  if ν.hangs then connectTimeout else min (max 0 (ν.refusal t)) connectTimeout

theorem Network.delay_nonneg (ν : Network) (t : Time) : 0 ≤ ν.delay t := by
  unfold delay
  split
  · decide
  · exact Int.le_min.mpr ⟨Int.le_max_left .., by decide⟩

theorem Network.delay_le (ν : Network) (t : Time) : ν.delay t ≤ connectTimeout := by
  unfold delay
  split
  · exact Int.le_refl _
  · exact Int.min_le_right ..

/-- A connection that is being tried. -/
structure Attempt where
  ends : Time
  succeeds : Bool
  deriving DecidableEq, Repr

/-- Tries to connect.  Whether the port is open is decided at once. -/
def World.connect (w : World) (s : Nat) : World × Attempt :=
  let w := w.emit (.connect host (w.supervisor s).config.port w.now)
  (w,
    if w.isOpen then
      if w.network.latency ≤ connectTimeout then ⟨w.now + w.network.latency, true⟩
      else ⟨w.now + connectTimeout, false⟩
    else ⟨w.now + w.network.delay w.now, false⟩)

end Sluice.Proxy
