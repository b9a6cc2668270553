import Sluice.Server.Job

/-!
# Jobs side by side

A desk holds the jobs in the order in which they came.  Work takes no time: the clock moves on to
the next moment at which something is due only when nothing can be done.  Of what can be done the
processes come first, then the pending opening, then the jobs.
-/

namespace Sluice.Server

/-- A gate and the jobs at it, first one first. -/
structure Desk where
  gate : Gate
  jobs : List Working := []

namespace Desk

def now (δ : Desk) : Time := δ.gate.now

/-- Puts a job where it came to. -/
def put (δ : Desk) (i : Nat) (r : Gate × Working) : Desk := ⟨r.1, δ.jobs.set i r.2⟩

/-- Begins the work on an order, and gives its number. -/
def take (δ : Desk) (ω : Order) : Desk × Nat :=
  let (γ, π) := begin δ.gate ω
  (⟨γ, δ.jobs ++ [π]⟩, δ.jobs.length)

def job? (δ : Desk) (i : Nat) : Option Working := δ.jobs[i]?

/-- What a job has come to, if it is over. -/
def result? (δ : Desk) (i : Nat) : Option (Except Fault Answer) :=
  match δ.job? i with
  | some (.done r) => some r
  | _ => none

def isOver (δ : Desk) (i : Nat) : Bool := (δ.result? i).isSome

/-- Gives a job up. -/
def cancel (δ : Desk) (i : Nat) : Desk :=
  match δ.job? i with
  | some (.waiting φ) => δ.put i (φ.cancel δ.gate)
  | _ => δ

/-- The number of the first job that can go on and has some property. -/
def firstReady? (δ : Desk) (p : JobPhase → Bool) : Option Nat :=
  δ.jobs.findIdx? fun
    | .waiting φ => p φ && φ.isReady δ.gate
    | .done _ => false

/-- The number of the job that goes on first. -/
def nextJob? (δ : Desk) : Option Nat :=
  (δ.firstReady? JobPhase.isFirst).or (δ.firstReady? fun _ ↦ true)

/-- Goes on with a job. -/
def resume (δ : Desk) (i : Nat) : Desk :=
  match δ.job? i with
  | some (.waiting φ) => δ.put i (φ.resume δ.gate)
  | _ => δ

/-- Does one thing that can be done. -/
def step? (δ : Desk) : Option Desk :=
  match δ.gate.world.act? with
  | some w => some { δ with gate.world := w }
  | none =>
    match δ.gate.resumeOpening? with
    | some γ => some { δ with gate := γ }
    | none => δ.nextJob?.map δ.resume

/-- When a job goes on of itself. -/
def dueOf : Working → Option Time
  | .waiting φ => φ.due?
  | .done _ => none

/-- The next moment at which something is due. -/
def due? (δ : Desk) : Option Time :=
  Time.earliest (δ.gate.world.due? :: δ.gate.opening.bind (·.due?) :: δ.jobs.map dueOf)

/-- Moves the clock on; it never goes back. -/
def advance (δ : Desk) (t : Time) : Desk := { δ with gate.world.now := max δ.now t }

/-- Works until there is no need to, and stops for good if nothing is ever due.  The first argument
bounds the number of things done. -/
def workUntil (enough : Desk → Bool) : Nat → Desk → Desk
  | 0, δ => δ
  | n + 1, δ =>
    if enough δ then δ
    else match δ.step? with
      | some ε => workUntil enough n ε
      | none =>
        match δ.due? with
        | some t => workUntil enough n (δ.advance t)
        | none => δ

/-- Works until a moment has come and nothing is left to do. -/
def workTo (t : Time) : Nat → Desk → Desk
  | 0, δ => δ.advance t
  | n + 1, δ =>
    match δ.step? with
    | some ε => workTo t n ε
    | none =>
      match δ.due? with
      | some u => if u ≤ t then workTo t n (δ.advance u) else δ.advance t
      | none => δ.advance t

/-- More than is ever done. -/
def plenty : Nat := 1000000000000

/-- Waits until a job is over. -/
def await (δ : Desk) (i : Nat) : Desk := δ.workUntil (·.isOver i) plenty

/-- Waits for a length of time. -/
def wait (δ : Desk) (t : Time) : Desk := δ.workTo (δ.now + t) plenty

/-- Works on an order until it is done. -/
def serve (δ : Desk) (ω : Order) : Desk × Except Fault Answer :=
  let (δ, i) := δ.take ω
  let δ := δ.await i
  (δ, (δ.result? i).getD (.error Proxy.cancelled))

@[simp] theorem now_advance (δ : Desk) (t : Time) : (δ.advance t).now = max δ.now t := rfl

end Desk

end Sluice.Server
