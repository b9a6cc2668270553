import Sluice.Proxy.Stop

/-!
# Starting the proxy

A start has the proxy downloaded if it is not there, launches it and then tries to connect to its
port every now and then, until that works, the process ends or the time is up.  A start that fails
in this, or that is given up, stops the process before it reports.
-/

namespace Sluice.Proxy

/-- The time between two tries to connect. -/
def checkInterval : Time := 500000

/-- How long output is still read once the process has ended. -/
def drainTimeout : Time := 1000000

/-- What a start waits for. -/
inductive StartPhase where
  /-- A process left from before is being stopped. -/
  | clearing (φ : StopPhase)
  /-- The proxy is being downloaded. -/
  | fetching (ends : Time)
  /-- A connection is tried; the process `p` may get ready up to the deadline. -/
  | connecting (p : Nat) (deadline : Time) (attempt : Attempt)
  | pausing (p : Nat) (deadline ends : Time)
  /-- The process `p` has ended with a code, and its output is still read. -/
  | draining (p : Nat) (code : Int) (ends : Time)
  /-- The start has failed, and the process is being stopped. -/
  | cleaning (φ : StopPhase) (cause : Fault)

/-- Where a start stands. -/
abbrev Starting := Progress StartPhase (Except Fault Unit)

def startupFailure (s : String) : Fault := .saying (.own .proxyStartup) s

/-- A number of seconds in whole milliseconds. -/
def milliseconds (x : Decimal.Binary64) : Except Value.IntegerError Int :=
  Value.toInteger (.float (.ofFloat (x.toFloat * 1000)))

namespace World

/-- The process has been stopped after a failed start. -/
def settle (w : World) (s : Nat) (cause : Fault) : Stopping → World × Starting
  | .waiting φ => (w, .waiting (.cleaning φ cause))
  | .done (.ok ()) => (w.onSupervisor s ({ · with state := .failed }), .done (.error cause))
  | .done (.error φ) => (w, .done (.error φ))

/-- Fails a start after the launch. -/
def fail (w : World) (s : Nat) (cause : Fault) : World × Starting :=
  let (w, π) := w.stop s
  w.settle s cause π

/-- Whether output of a process is still read. -/
def isReading (w : World) (s p : Nat) : Bool :=
  (w.supervisor s).readers.any (·.child = p)

/-- Reports that the process has ended. -/
def reportExit (w : World) (s : Nat) (code : Int) : World × Starting :=
  w.fail s (startupFailure ("Cloud SQL Proxy exited unexpectedly (code: " ++ toString code ++
    "). Error: " ++ w.lastErrorOr s "Unknown error"))

/-- A try to connect has come to its end.  A process that has ended is never ready. -/
def afterAttempt (w : World) (s p : Nat) (deadline : Time) (succeeds : Bool) : World × Starting :=
  if succeeds && !w.hasSeen p then
    let w := w.onSupervisor s ({ · with state := .running })
    (w.say .info ("Proxy ready on " ++ host ++ ":" ++ toString (w.supervisor s).config.port),
      .done (.ok ()))
  else (w, .waiting (.pausing p deadline (w.now + checkInterval)))

/-- Looks at the process again: the time may be up, the process may have ended, or a connection is
tried. -/
def poll (w : World) (s p : Nat) (deadline : Time) : World × Starting :=
  if deadline ≤ w.now then
    let config := (w.supervisor s).config
    let ms := ((milliseconds config.startupTimeout).toOption.getD 0)
    let said := w.lastErrorOr s ""
    let details := if (w.supervisor s).lastError.isTruthy then " Last error: " ++ said else ""
    w.fail s (startupFailure ("Cloud SQL Proxy failed to start within " ++ toString ms ++ "ms." ++
      details ++ " Check credentials and instance connection name."))
  else
    match (w.child p).seen with
    | some n =>
      if w.isReading s p then (w, .waiting (.draining p n (w.now + drainTimeout)))
      else w.reportExit s n
    | none =>
      let (w, α) := w.connect s
      if α.ends ≤ w.now then w.afterAttempt s p deadline α.succeeds
      else (w, .waiting (.connecting p deadline α))

/-- Begins to wait until the process is ready. -/
def awaitReady (w : World) (s p : Nat) : World × Starting :=
  let timeout := (w.supervisor s).config.startupTimeout
  match milliseconds timeout with
  | .error ε => w.fail s (numberFault ε)
  | .ok ms =>
    let w := w.say .info ("Waiting for proxy to be ready (timeout: " ++ toString ms ++ "ms)...")
    w.poll s p (w.now + (Time.ofSeconds? timeout).getD 0)

/-- Takes charge of a process that was launched. -/
def adopt (w : World) (s p : Nat) : World :=
  w.onSupervisor s fun σ ↦
    { σ with
      child := some p
      signal := some p
      watches := some p
      readers := [{ child := p, stream := .output }, { child := p, stream := .errors }] }

/-- Launches the proxy at a path. -/
def launchProxy (w : World) (s : Nat) (path : File.Path) : World × Starting :=
  let args := (w.supervisor s).config.arguments
  let w := (w.say .info ("Starting proxy: " ++ path.text ++ " " ++ " ".intercalate args)).onSupervisor s
    ({ · with state := .starting, lastError := .text "" })
  match w.launch s (path.text :: args) with
  | (w, .error φ) =>
    if φ.isSystem then
      (w.onSupervisor s ({ · with state := .failed, lastError := .text φ.message }),
        .done (.error (startupFailure ("Failed to launch Cloud SQL Proxy: " ++ φ.message))))
    else (w, .done (.error φ))
  | (w, .ok p) => (w.adopt s p).awaitReady s p

/-- Looks for the proxy, and downloads it if need be. -/
def fetch (w : World) (s : Nat) : World × Except Fault File.Path :=
  let κ := (w.supervisor s).config
  w.atSite (Install.ensureBinary κ.binaryPath κ.autoDownload Install.defaultVersion false)

/-- The world in which the next answer of the network is given up. -/
def interrupted (w : World) : World :=
  { w with site.answers := .interrupted (.fault cancelled) :: w.site.answers.tail }

/-- Whether the proxy cannot be had without an answer of the network. -/
def needsNetwork (w : World) (s : Nat) : Bool :=
  match (w.interrupted.fetch s).2 with
  | .error φ => φ.kind = .cancelled
  | .ok _ => false

/-- Fetches the proxy and launches it. -/
def obtain (w : World) (s : Nat) : World × Starting :=
  match w.fetch s with
  | (w, .error φ) => (w, .done (.error φ))
  | (w, .ok path) => w.launchProxy s path

/-- Starts the proxy when no process is left. -/
def provide (w : World) (s : Nat) : World × Starting :=
  if (Config.given (w.supervisor s).config.instanceName).isNone then
    (w, .done (.error (startupFailure ("Cloud SQL instance connection name is required. " ++
      "Set CLOUD_SQL_INSTANCE environment variable (format: project:region:instance)"))))
  else if 0 < w.network.transfer && w.needsNetwork s then
    (w, .waiting (.fetching (w.now + w.network.transfer)))
  else w.obtain s

/-- A process left from before has been stopped. -/
def cleared (w : World) (s : Nat) : Stopping → World × Starting
  | .waiting φ => (w, .waiting (.clearing φ))
  | .done (.ok ()) => w.provide s
  | .done (.error φ) => (w, .done (.error φ))

/-- Starts the proxy unless it runs. -/
def start (w : World) (s : Nat) : World × Starting :=
  if w.isHealthy s then (w.say .info "Proxy already running", .done (.ok ()))
  else
    let (w, π) := w.stop s
    w.cleared s π

end World

namespace StartPhase

/-- When a start goes on of itself. -/
def due? : StartPhase → Option Time
  | clearing φ | cleaning φ _ => φ.due?
  | connecting _ _ α => some α.ends
  | fetching t | pausing _ _ t | draining _ _ t => some t

/-- Whether a start can go on. -/
def isReady (s : Nat) (w : World) : StartPhase → Bool
  | clearing φ | cleaning φ _ => φ.isReady w
  | connecting _ _ α => α.ends ≤ w.now
  | fetching t | pausing _ _ t => t ≤ w.now
  | draining p _ t => !w.isReading s p || t ≤ w.now

/-- Goes on with a start. -/
def resume (s : Nat) (w : World) : StartPhase → World × Starting
  | clearing φ =>
    let (w, π) := φ.resume s w
    w.cleared s π
  | fetching _ => w.obtain s
  | connecting p deadline α => w.afterAttempt s p deadline α.succeeds
  | pausing p deadline _ => w.poll s p deadline
  | draining _ n _ => w.reportExit s n
  | cleaning φ cause =>
    let (w, π) := φ.resume s w
    w.settle s cause π

/-- Gives a start up. -/
def cancel (s : Nat) (w : World) : StartPhase → World × Starting
  | clearing _ =>
    let (w, π) := StopPhase.cancel s w
    w.cleared s π
  | fetching _ => ((w.interrupted.fetch s).1, .done (.error cancelled))
  | connecting .. | pausing .. | draining .. => w.fail s cancelled
  | cleaning _ cause =>
    let (w, π) := StopPhase.cancel s w
    w.settle s cause π

end StartPhase

end Sluice.Proxy
