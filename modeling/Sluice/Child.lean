import Sluice.Clock
import Sluice.Fault

/-!
# Child processes

How a process behaves is laid down when it is launched: when it accepts connections, what it writes,
when it ends by itself and how it takes a signal.  The first end counts.

The streams that a process writes to end with it, unless something else keeps them open.  Then
output may still come through them, and each of them ends at a moment of its own or never.
-/

namespace Sluice

namespace Child

/-- The two streams a process writes to. -/
inductive Stream where
  | output
  | errors
  deriving DecidableEq, Repr

/-- What comes through the streams of a process, and when: pieces of output, and `none` where a
stream ends. -/
abbrev Schedule := List (Time × Stream × Option (List UInt8))

namespace Schedule

/-- What comes first stands first, and what comes at the same moment keeps its order. -/
def sorted (ω : Schedule) : Schedule := ω.mergeSort fun a b ↦ a.1 ≤ b.1

/-- What comes some time from now. -/
def after (ω : Schedule) (now : Time) : Schedule := sorted (ω.map fun (t, x) ↦ (now + t, x))

end Schedule

/-- How a process behaves.  Times count from its launch, for a signal from the signal, and for what
outlives it from its end. -/
structure Behaviour where
  /-- Why it cannot be launched, if it cannot. -/
  refusal : Option Fault := none
  /-- When it begins to accept connections. -/
  listens : Option Time := none
  writes : List (Time × Stream × List UInt8) := []
  /-- When it closes a stream. -/
  closes : List (Time × Stream) := []
  ending : Option (Time × Int) := none
  onTerminate : Option (Time × Int) := some (100000, -15)
  onKill : Option (Time × Int) := some (50000, -9)
  /-- Signals find no process, though there is one. -/
  escapesTerminate : Bool := false
  escapesKill : Bool := false
  /-- Something else keeps its streams open when it ends. -/
  holdsPipes : Bool := false
  /-- What still comes through its streams then. -/
  remainder : Schedule := []

namespace Behaviour

/-- What a process puts through its streams by itself. -/
def flow (β : Behaviour) : Schedule :=
  β.writes.map (fun (t, σ, bs) ↦ (t, σ, some bs)) ++ β.closes.map fun (t, σ) ↦ (t, σ, none)

/-- What comes through its streams later than with its end. -/
def rest (β : Behaviour) : Schedule := if β.holdsPipes then β.remainder else []

end Behaviour

end Child

/-- A process that was launched. -/
structure Child where
  behaviour : Child.Behaviour := {}
  /-- The supervisor that launched it. -/
  owner : Nat := 0
  born : Time := 0
  /-- What it will put through its streams, at which moment. -/
  writes : Child.Schedule := []
  /-- What will come through its streams although it has ended. -/
  rest : Child.Schedule := []
  /-- The ends laid down so far, with their exit codes. -/
  ends : List (Time × Int) := []
  /-- The exit code, once it has ended. -/
  code : Option Int := none
  /-- The exit code, once its watcher has passed it on. -/
  seen : Option Int := none
  /-- Whether it was sent a signal that it cannot ignore. -/
  killed : Bool := false
  deriving Inhabited

namespace Child

/-- A process launched at a moment. -/
def launch (β : Behaviour) (owner : Nat) (now : Time) : Child where
  behaviour := β
  owner
  born := now
  writes := β.flow.after now
  ends := (β.ending.map fun (t, n) ↦ (now + t, n)).toList

def isAlive (χ : Child) : Bool := χ.code.isNone

/-- The first end that is laid down. -/
def nextEnd? (χ : Child) : Option (Time × Int) :=
  χ.ends.foldl
    (fun best ε ↦
      match best with
      | some β => if ε.1 < β.1 then some ε else some β
      | none => some ε) none

/-- What becomes of a process next: something comes through a stream, or it ends. -/
inductive Act where
  | write (σ : Stream) (piece : Option (List UInt8))
  | exit (code : Int)
  deriving DecidableEq, Repr

/-- What becomes of a process next, and when.  Once it has ended, all that is left is what comes
through its streams. -/
def nextAct? (χ : Child) : Option (Time × Act) :=
  if χ.isAlive then
    match χ.writes.head?, χ.nextEnd? with
    | some (t, σ, β), some (u, n) => if u < t then some (u, .exit n) else some (t, .write σ β)
    | some (t, σ, β), none => some (t, .write σ β)
    | none, some (u, n) => some (u, .exit n)
    | none, none => none
  else χ.rest.head?.map fun (t, σ, β) ↦ (t, .write σ β)

/-- What was to come through a stream next has come. -/
def flush (χ : Child) : Child :=
  if χ.isAlive then { χ with writes := χ.writes.tail } else { χ with rest := χ.rest.tail }

/-- The process ends. -/
def finish (χ : Child) (code : Int) (now : Time) : Child :=
  { χ with code := some code, rest := χ.behaviour.rest.after now }

/-- Lays down one more end, some time from now. -/
def endAfter (χ : Child) (now : Time) (ε : Option (Time × Int)) : Child :=
  match ε with
  | some (t, n) => { χ with ends := χ.ends ++ [(now + t, n)] }
  | none => χ

/-- Takes a signal to end. -/
def terminate (χ : Child) (now : Time) : Child :=
  if χ.isAlive && !χ.behaviour.escapesTerminate then χ.endAfter now χ.behaviour.onTerminate else χ

/-- Takes a signal that cannot be ignored. -/
def kill (χ : Child) (now : Time) : Child :=
  let χ := if χ.isAlive && !χ.behaviour.escapesKill then χ.endAfter now χ.behaviour.onKill else χ
  { χ with killed := true }

/-- Whether a process accepts connections. -/
def accepts (χ : Child) (now : Time) : Bool :=
  χ.isAlive && match χ.behaviour.listens with
    | some t => χ.born + t ≤ now
    | none => false

@[simp] theorem isAlive_flush (χ : Child) : χ.flush.isAlive = χ.isAlive := by
  unfold flush
  split <;> rfl

@[simp] theorem behaviour_flush (χ : Child) : χ.flush.behaviour = χ.behaviour := by
  unfold flush
  split <;> rfl

@[simp] theorem owner_flush (χ : Child) : χ.flush.owner = χ.owner := by
  unfold flush
  split <;> rfl

@[simp] theorem ends_flush (χ : Child) : χ.flush.ends = χ.ends := by
  unfold flush
  split <;> rfl

@[simp] theorem code_flush (χ : Child) : χ.flush.code = χ.code := by
  unfold flush
  split <;> rfl

@[simp] theorem seen_flush (χ : Child) : χ.flush.seen = χ.seen := by
  unfold flush
  split <;> rfl

@[simp] theorem killed_flush (χ : Child) : χ.flush.killed = χ.killed := by
  unfold flush
  split <;> rfl

@[simp] theorem isAlive_finish (χ : Child) (code : Int) (now : Time) :
    (χ.finish code now).isAlive = false := rfl

@[simp] theorem owner_finish (χ : Child) (code : Int) (now : Time) :
    (χ.finish code now).owner = χ.owner := rfl

@[simp] theorem behaviour_finish (χ : Child) (code : Int) (now : Time) :
    (χ.finish code now).behaviour = χ.behaviour := rfl

@[simp] theorem killed_kill (χ : Child) (now : Time) : (χ.kill now).killed = true := rfl

@[simp] theorem code_terminate (χ : Child) (now : Time) : (χ.terminate now).code = χ.code := by
  unfold terminate endAfter
  repeat' split
  all_goals rfl

@[simp] theorem code_kill (χ : Child) (now : Time) : (χ.kill now).code = χ.code := by
  simp only [kill]
  unfold endAfter
  repeat' split
  all_goals rfl

end Child

end Sluice
