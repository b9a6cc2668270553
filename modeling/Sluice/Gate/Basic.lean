import Sluice.Proxy.Start
import Sluice.Settings.Basic

/-!
# The gate

The gate owns at most one pool of connections to the database and at most one supervisor of the
proxy.  Both are brought up together by an opening, of which at most one is pending; whoever needs
the pool joins it.  Openings are numbered from zero, and how each of them ended is kept.
-/

namespace Sluice

open Proxy Decimal

/-- How a request to the database turns out, and how long that takes. -/
structure Outcome where
  delay : Time := 0
  fault : Option Fault := none

/-- The answer to a query: the names of its columns and its rows, where there are any. -/
structure Reply extends Outcome where
  columns : Option (List String) := none
  rows : Option (List Row) := none

/-- How the database will answer, request by request; what is not laid down succeeds at once. -/
structure Database where
  connects : List Outcome := []
  pings : List Outcome := []
  closings : List Outcome := []
  replies : List Reply := []

/-- A pool of connections. -/
structure Pool where
  size : Nat
  free : Nat
  deriving DecidableEq, Repr

/-- A new pool, with one connection. -/
def Pool.fresh : Pool := ⟨1, 1⟩

instance : Inhabited Pool := ⟨Pool.fresh⟩

def Pool.used (π : Pool) : Nat := π.size - π.free

/-- Takes a free connection, or makes a new one. -/
def Pool.acquire (π : Pool) : Pool :=
  if 0 < π.free then { π with free := π.free - 1 } else { π with size := π.size + 1 }

/-- Gives a connection back. -/
def Pool.release (π : Pool) : Pool := { π with free := π.free + 1 }

@[simp] theorem Pool.used_acquire {π : Pool} (h : π.free ≤ π.size) :
    π.acquire.used = π.used + 1 := by
  unfold Pool.acquire Pool.used
  split <;> simp only <;> omega

namespace Gate

/-- A host and a port. -/
abbrev Target := String × Int

/-- What a pending opening waits for. -/
inductive OpenPhase where
  /-- The supervisor `s` starts the proxy. -/
  | starting (s : Nat) (φ : StartPhase)
  | connecting (τ : Target) (ends : Time) (fault : Option Fault)
  /-- The pool `p` tries its first connection. -/
  | pinging (τ : Target) (p : Nat) (ends : Time) (fault : Option Fault)
  /-- The opening has failed, and the pool it made is being closed. -/
  | unwindingPool (ends : Time) (fault : Option Fault) (cause : Fault)
  /-- The opening has failed, and the proxy is being stopped. -/
  | unwindingProxy (s : Nat) (φ : StopPhase) (cause : Fault)

end Gate

/-- The gate and the world around it. -/
structure Gate where
  world : World
  settings : Settings
  database : Database := {}
  /-- Every pool that was made. -/
  pools : List Pool := []
  /-- The pool in use. -/
  pool : Option Nat := none
  /-- The supervisor in use. -/
  proxy : Option Nat := none
  opening : Option Gate.OpenPhase := none
  /-- How the openings so far ended: with a pool, or with a fault. -/
  opened : List (Except Fault Nat) := []
  /-- What the stopwatch will show, in seconds, each time it is read. -/
  stopwatch : List Value := []

namespace Gate

def now (γ : Gate) : Time := γ.world.now

def onWorld (γ : Gate) (f : World → World) : Gate := { γ with world := f γ.world }

def emit (γ : Gate) (ε : Event) : Gate := γ.onWorld (·.emit ε)

def log (γ : Gate) (ι : Level) (κ : Logger) (s : String) : Gate := γ.emit (.log ι κ s)

def isConnected (γ : Gate) : Bool := γ.pool.isSome

/-- The number of the opening that is pending, or that would be begun next. -/
def nextOpening (γ : Gate) : Nat := γ.opened.length

def poolAt (γ : Gate) (p : Nat) : Pool := γ.pools.getD p default

def onPool (γ : Gate) (p : Nat) (f : Pool → Pool) : Gate :=
  { γ with pools := γ.pools.modify p f }

/-- Reads the stopwatch. -/
def readStopwatch (γ : Gate) : Gate × Value :=
  ({ γ with stopwatch := γ.stopwatch.tail }, γ.stopwatch.headD (.float ⟨0⟩))

/-- Where the database is reached: through the proxy if it is in use. -/
def target (γ : Gate) : Target :=
  match γ.settings.proxyEnabled, γ.proxy with
  | true, some s => (Proxy.host, (γ.world.supervisor s).config.port)
  | _, _ => (γ.settings.databaseHost, γ.settings.databasePort)

/-- The pool is told to close its connections, and its closing is awaited. -/
def closePool (γ : Gate) : Gate × Outcome :=
  ({ (γ.emit .closePool).emit .awaitPool with
      database.closings := γ.database.closings.tail },
    γ.database.closings.headD {})

/-- Kills the process of the proxy, and does not wait. -/
def abort (γ : Gate) : Gate :=
  match γ.proxy with
  | some s => γ.onWorld (·.killChild s)
  | none => γ

end Gate

end Sluice
