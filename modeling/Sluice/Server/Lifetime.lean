import Sluice.Gate.Close
import Sluice.Server.Life

/-!
# The course of a server's life

How the parts of a server's life turn out, and when, decides which moves it makes.  Of a server that
makes them, it is seen what it does and with which exit code it leaves.
-/

namespace Sluice.Server

open Gate Proxy

/-- What a server is seen to do. -/
inductive Deed where
  | record (ε : Event)
  | serve
  | stopServing
  | close
  | abort
  /-- A signal came that nobody listens for. -/
  | ignore (signal : String)

/-! ### Closing the gate -/

/-- How a closing within a grace period turns out: whether it is begun at all, how long it takes and
how it ends. -/
structure Closure where
  isBegun : Bool
  length : Time
  ending : Ending

/-- The closing that would take `o` within a number of seconds of grace. -/
def closeWithin (grace : Value) (o : Outcome) : Closure :=
  let ending := match o.fault with
    | none => .closed
    | some φ => .ofFault φ
  if let some φ := misuse? grace then ⟨false, 0, .failed φ⟩
  else if isSpent grace then ⟨false, 0, .late⟩
  else match lengthOf grace with
    | some t => if t ≤ o.delay then ⟨true, t, .late⟩ else ⟨true, o.delay, ending⟩
    | none => ⟨true, o.delay, ending⟩

/-- What is seen when a closing begins. -/
def Closure.opening (κ : Closure) : List Deed := if κ.isBegun then [.close] else []

/-- What is seen when a closing ends. -/
def Closure.deeds (grace : Value) (κ : Closure) : List Deed :=
  match κ.ending.record grace with
  | some ε => [.record ε, .abort]
  | none => []

def Closure.isClean (κ : Closure) : Bool := κ.ending.isClosed

/-- A closing that takes no longer than its grace period and has no fault is clean. -/
theorem isClean_closeWithin (grace : Value) (o : Outcome) (hm : misuse? grace = none)
    (hs : isSpent grace = false) (hf : o.fault = none)
    (hl : ∀ t, lengthOf grace = some t → o.delay < t) : (closeWithin grace o).isClean = true := by
  unfold closeWithin
  cases h : lengthOf grace with
  | none => simp [hm, hs, hf, Closure.isClean, Ending.isClosed]
  | some t =>
    have h' : ¬ t ≤ o.delay := Int.not_le.mpr (hl t h)
    simp [hm, hs, hf, h', Closure.isClean, Ending.isClosed]

/-! ### Serving -/

/-- How the parts of a server's life turn out. -/
structure Course extends Terms where
  serving : Outcome := {}
  closing : Outcome := {}
  /-- What happens meanwhile, and when. -/
  incidents : List (Time × Incident) := []

namespace Course

/-- The incidents in the order in which they happen. -/
def ordered (κ : Course) : List (Time × Incident) :=
  κ.incidents.mergeSort fun ι κ ↦ ι.1 ≤ κ.1

/-- The incidents before the server would end of itself. -/
def meanwhile (κ : Course) : List (Time × Incident) :=
  κ.ordered.takeWhile fun ι ↦ ι.1 < κ.serving.delay

/-- The incident that stops the server, if one does. -/
def stop? (κ : Course) : Option (Time × Incident) := κ.meanwhile.find? fun ι ↦ κ.asksToStop ι.2

/-- When the serving ends. -/
def served (κ : Course) : Time := (κ.stop?.map Prod.fst).getD κ.serving.delay

/-- The incidents up to the end of the serving. -/
def earlier (κ : Course) : List (Time × Incident) := κ.ordered.takeWhile fun ι ↦
  match κ.stop? with
  | some (t, _) => ι.1 ≤ t
  | none => ι.1 < κ.serving.delay

def closure (κ : Course) : Closure := closeWithin κ.grace κ.closing

/-- When the server has ended. -/
def ended (κ : Course) : Time := κ.served + κ.closure.length

/-- The incidents while the gate is closed. -/
def later (κ : Course) : List (Time × Incident) :=
  (κ.ordered.drop κ.earlier.length).takeWhile fun ι ↦ ι.1 < κ.ended

def befall (ιs : List (Time × Incident)) : List Life.Move := ιs.map fun ι ↦ .befall ι.2

/-- How the serving ends: told to stop, it gives up at once. -/
def parting (κ : Course) : List Life.Move :=
  if κ.stop?.isSome then [.ring, .go, .part (some cancelled), .go] else [.fall κ.serving.fault, .go]

/-- The moves of a life of this course. -/
def moves (κ : Course) : List Life.Move :=
  befall κ.earlier ++ κ.parting ++ [.ring, .go] ++ befall κ.later ++
    [.answer (.ok κ.closure.isClean)]

def life (κ : Course) : Life := κ.run {} κ.moves

/-! ### What is seen -/

/-- What is seen of an incident. -/
def deedsOf (κ : Course) : Incident → List Deed
  | .signal ν => if κ.heard.contains ν then [] else [.ignore ν]
  | .stray m => [.record (.log .error .server ("Unhandled async error: " ++ m))]

/-- What is seen of a platform that has no signals. -/
def unheard (κ : Course) : List Deed :=
  if κ.hearsSignals then []
  else stopSignals.map fun (_, n) ↦
    .record (.log .debug .server ("Signal handler for " ++ toString n ++
      " not supported on this platform"))

/-- What is seen of what happens. -/
def deedsAt (κ : Course) : Mark → List Deed
  | .begun => [.serve]
  | .befell ι => κ.deedsOf ι
  | .ended φ => if φ.any (·.kind = .cancelled) then [.stopServing] else []
  | .failed φ => [.record (.log .error .server ("Server stopped with error: " ++ φ.message))]
  | .noticed => [.record (.log .info .server "Shutdown requested, stopping server...")]
  | .shutdown _ => κ.closure.opening
  | .answered _ => κ.closure.deeds κ.grace

/-- All that is seen of a server. -/
def deeds (κ : Course) : List Deed := κ.unheard ++ κ.life.marks.flatMap κ.deedsAt

/-- The exit code of a server. -/
def exitCode (κ : Course) : Nat :=
  match κ.life.point with
  | .left n => n
  | _ => 1

end Course

end Sluice.Server
