import Sluice.Fault

/-!
# The life of a server, move by move

Two tasks run beside each other: one serves, the other waits until the server is asked to stop, by a
signal that it listens for or by a fault that nobody handled.  The server waits until one of them
has ended, sees to it that both have, and shuts down.
-/

namespace Sluice.Server

/-- What befalls a server while it runs. -/
inductive Incident where
  | signal (name : String)
  /-- A fault that nobody handled. -/
  | stray (message : String)
  deriving DecidableEq, Repr

/-- The signals that stop a server, with their numbers. -/
def stopSignals : List (String × Nat) := [("SIGINT", 2), ("SIGTERM", 15)]

/-- What a server is started with. -/
structure Terms where
  /-- Whether the platform lets a server listen for signals. -/
  hearsSignals : Bool := true
  /-- The seconds that a shutdown may take. -/
  grace : Value

namespace Terms

/-- The signals that a server listens for. -/
def heard (σ : Terms) : List String := if σ.hearsSignals then stopSignals.map Prod.fst else []

/-- Whether an incident asks the server to stop. -/
def asksToStop (σ : Terms) : Incident → Bool
  | .signal ν => σ.heard.contains ν
  | .stray _ => true

end Terms

/-- Where the task stands that serves. -/
inductive Serving where
  | going
  /-- It has been told to stop. -/
  | leaving
  | ended (fault : Option Fault)
  deriving DecidableEq, Repr

/-- Where the task stands that waits for a request to stop. -/
inductive Watch where
  | waiting
  | dismissed
  | gone
  deriving DecidableEq, Repr

/-- What a server waits for. -/
inductive Point where
  /-- One of the tasks is to end. -/
  | watching
  /-- The serving is to end, which has been told to. -/
  | parting
  /-- The other task is to end, which has been dismissed. -/
  | tidying (hasFailed : Bool)
  /-- The shutdown is to answer. -/
  | closing (hasFailed : Bool)
  | left (code : Nat)
  | raised (φ : Fault)
  deriving DecidableEq, Repr

instance decEqAnswer : DecidableEq (Except Fault Bool)
  | .ok b, .ok c => decidable_of_iff (b = c) (by simp)
  | .error φ, .error ψ => decidable_of_iff (φ = ψ) (by simp)
  | .ok _, .error _ | .error _, .ok _ => isFalse nofun

/-- What happens in the life of a server. -/
inductive Mark where
  | begun
  | befell (ι : Incident)
  /-- The serving ended. -/
  | ended (fault : Option Fault)
  /-- The server saw that the serving had failed. -/
  | failed (φ : Fault)
  /-- The server saw that it was asked to stop. -/
  | noticed
  /-- A shutdown was called for, with so many seconds of grace. -/
  | shutdown (grace : Value)
  /-- The shutdown said whether all was closed in time. -/
  | answered (r : Except Fault Bool)
  deriving DecidableEq, Repr

structure Life where
  serving : Serving := .going
  isAsked : Bool := false
  watch : Watch := .waiting
  point : Point := .watching
  marks : List Mark := [.begun]
  deriving DecidableEq, Repr

/-- What can happen next. -/
inductive Life.Move where
  | befall (ι : Incident)
  /-- The serving ends of itself. -/
  | fall (fault : Option Fault)
  /-- The serving ends that was told to stop. -/
  | part (fault : Option Fault)
  /-- The task ends that waits for a request to stop. -/
  | ring
  /-- The server goes on. -/
  | go
  /-- The shutdown answers. -/
  | answer (r : Except Fault Bool)
  deriving DecidableEq, Repr

/-- Whether nothing comes after this. -/
def Point.isLast : Point → Bool
  | left _ | raised _ => true
  | _ => false

/-- A task that is over stays so. -/
def Watch.dismiss : Watch → Watch
  | gone => gone
  | _ => dismissed

namespace Life

def note (ℓ : Life) (μ : Mark) : Life := { ℓ with marks := ℓ.marks ++ [μ] }

/-- The serving has ended, and the other task is no longer needed. -/
def tidy (ℓ : Life) (hasFailed : Bool) : Life :=
  { ℓ with watch := ℓ.watch.dismiss, point := .tidying hasFailed }

end Life

namespace Terms

/-- The server goes on, if what it waits for is there. -/
def goOn (σ : Terms) (ℓ : Life) : Life :=
  match ℓ.point, ℓ.serving with
  | .watching, .ended none => ℓ.tidy false
  | .watching, .ended (some φ) =>
    -- the outcome of a task that was given up cannot be asked for
    if φ.kind = .cancelled then { ℓ with point := .raised φ } else (ℓ.note (.failed φ)).tidy true
  | .watching, _ =>
    if ℓ.watch = .gone then { ℓ.note .noticed with serving := .leaving, point := .parting } else ℓ
  | .parting, .ended _ => ℓ.tidy false
  | .tidying b, _ =>
    if ℓ.watch = .gone then { ℓ.note (.shutdown σ.grace) with point := .closing b } else ℓ
  | _, _ => ℓ

/-- What a move makes of a life.  A move that cannot be made changes nothing. -/
def act (σ : Terms) (ℓ : Life) : Life.Move → Life
  | .befall ι =>
    if ℓ.point.isLast then ℓ
    else { ℓ.note (.befell ι) with isAsked := ℓ.isAsked || σ.asksToStop ι }
  | .fall φ =>
    if ℓ.serving = .going then { ℓ.note (.ended φ) with serving := .ended φ } else ℓ
  | .part φ =>
    if ℓ.serving = .leaving then { ℓ.note (.ended φ) with serving := .ended φ } else ℓ
  | .ring =>
    if ℓ.watch = .dismissed || (ℓ.watch = .waiting && ℓ.isAsked) then { ℓ with watch := .gone }
    else ℓ
  | .go => σ.goOn ℓ
  | .answer r =>
    match ℓ.point, r with
    | .closing b, .ok c => { ℓ.note (.answered r) with point := .left (if b || !c then 1 else 0) }
    | .closing _, .error φ => { ℓ.note (.answered r) with point := .raised φ }
    | _, _ => ℓ

/-- The life that moves make, one after the other. -/
def run (σ : Terms) (ℓ : Life) (μs : List Life.Move) : Life := μs.foldl σ.act ℓ

end Terms

end Sluice.Server
