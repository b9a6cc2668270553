import Sluice.Proofs.Proxy.Order

/-!
# Supervision

A supervisor starts and stops its process any number of times, one after the other, and whoever
asked may give up at any wait.  Whenever it is at work on nothing, all that it launched is over but
for the process that it holds, and it holds one only if that runs or has ended (`settled_of_run`).

Waits may end at any moment here, whether what they wait for has come or not.  So what is shown does
not hang on the clock, on connections or on how processes behave.
-/

namespace Sluice.Proxy

/-! ## Runs -/

/-- What a supervisor is at work on. -/
inductive Task where
  | rest
  | starting (φ : StartPhase)
  | stopping (φ : StopPhase)

/-- A world, and what one of its supervisors is at work on. -/
structure Supervision where
  world : World
  task : Task := .rest

namespace Supervision

/-- What happens next. -/
inductive Move where
  /-- A start or a stop is asked for.  It begins if the supervisor is at work on nothing. -/
  | start
  | stop
  /-- The wait at hand is over. -/
  | resume
  /-- Whoever asked gives up. -/
  | cancel
  /-- The process of a number acts. -/
  | act (p : Nat)
  /-- The time, the site, the network and the processes to come turn into those of `v`. -/
  | turn (v : World)

def ofStart : World × Starting → Supervision
  | (w, .waiting φ) => ⟨w, .starting φ⟩
  | (w, .done _) => ⟨w, .rest⟩

def ofStop : World × Stopping → Supervision
  | (w, .waiting φ) => ⟨w, .stopping φ⟩
  | (w, .done _) => ⟨w, .rest⟩

/-- What becomes of the work of the supervisor `s`. -/
def move (s : Nat) : Supervision → Move → Supervision
  | ⟨w, .rest⟩, .start => ofStart (w.start s)
  | ⟨w, .rest⟩, .stop => ofStop (w.stop s)
  | ⟨w, .starting φ⟩, .resume => ofStart (φ.resume s w)
  | ⟨w, .stopping φ⟩, .resume => ofStop (φ.resume s w)
  | ⟨w, .starting φ⟩, .cancel => ofStart (φ.cancel s w)
  | ⟨w, .stopping _⟩, .cancel => ofStop (StopPhase.cancel s w)
  | ⟨w, τ⟩, .act p => ⟨w.act p, τ⟩
  | ⟨w, τ⟩, .turn v =>
    ⟨{ v with children := w.children, supervisors := w.supervisors, events := w.events }, τ⟩
  | ς, _ => ς

def run (s : Nat) (ς : Supervision) (μs : List Move) : Supervision := μs.foldl (move s) ς

@[simp] theorem run_nil (s : Nat) (ς : Supervision) : run s ς [] = ς := rfl

@[simp] theorem run_cons (s : Nat) (ς : Supervision) (μ : Move) (μs : List Move) :
    run s ς (μ :: μs) = run s (move s ς μ) μs := rfl

end Supervision

/-! ## The invariant -/

/-- What a supervisor is at work on fits the world. -/
def Task.Fits (w : World) (s : Nat) : Task → Prop
  | rest => w.AtRest s
  | starting φ => φ.Fits w s
  | stopping φ => φ.Fits w s

theorem Task.Fits.of_alike {s : Nat} {w v : World} {τ : Task} (h : τ.Fits w s)
    (hv : w.Alike s v) : τ.Fits v s := by
  cases τ with
  | rest => exact World.AtRest.of_alike h hv
  | starting φ => exact StartPhase.Fits.of_alike h hv
  | stopping φ => exact StopPhase.Fits.of_alike h hv

theorem Task.Fits.act {s : Nat} {w : World} {τ : Task} (h : τ.Fits w s) (hw : w.InOrder s)
    (q : Nat) : τ.Fits (w.act q) s := by
  cases τ with
  | rest => exact World.AtRest.act h hw q
  | starting φ => exact StartPhase.Fits.act h hw q
  | stopping φ => exact StopPhase.Fits.act h hw q

namespace Supervision

variable {s : Nat} {ς : Supervision}

/-- The supervisor is in order, and what it is at work on fits. -/
def IsSound (s : Nat) (ς : Supervision) : Prop := ς.world.InOrder s ∧ ς.task.Fits ς.world s

theorem isSound_ofStart {r : World × Starting} (h : StartFits s r) : (ofStart r).IsSound s := by
  obtain ⟨w, φ | ρ⟩ := r
  · exact ⟨h.order, h.waiting rfl⟩
  · exact ⟨h.order, h.done rfl⟩

theorem isSound_ofStop {r : World × Stopping} (h : StopFits s r) : (ofStop r).IsSound s := by
  obtain ⟨w, φ | ρ⟩ := r
  · exact ⟨h.order, h.waiting rfl⟩
  · exact ⟨h.order, .of_child (h.done rfl)⟩

theorem IsSound.move (h : ς.IsSound s) (μ : Move) : (move s ς μ).IsSound s := by
  obtain ⟨w, τ⟩ := ς
  obtain ⟨hw, hτ⟩ := h
  cases μ with
  | act q => cases τ <;> exact ⟨hw.act q, hτ.act hw q⟩
  | turn v =>
    have ha : w.Alike s { v with
      children := w.children, supervisors := w.supervisors, events := w.events } := .of_eq rfl rfl
    cases τ <;> exact ⟨hw.of_akin ha.toAkin, hτ.of_alike ha⟩
  | start =>
    cases τ with
    | rest => exact isSound_ofStart (hw.start hτ)
    | starting φ | stopping φ => exact ⟨hw, hτ⟩
  | stop =>
    cases τ with
    | rest => exact isSound_ofStop hw.stop
    | starting φ | stopping φ => exact ⟨hw, hτ⟩
  | resume =>
    cases τ with
    | rest => exact ⟨hw, hτ⟩
    | starting φ => exact isSound_ofStart (hw.resumeStart hτ)
    | stopping φ => exact isSound_ofStop (hw.resume hτ)
  | cancel =>
    cases τ with
    | rest => exact ⟨hw, hτ⟩
    | starting φ => exact isSound_ofStart (hw.cancelStart hτ)
    | stopping φ => exact isSound_ofStop hw.cancel

theorem IsSound.run (h : ς.IsSound s) (μs : List Move) : (run s ς μs).IsSound s := by
  induction μs generalizing ς with
  | nil => exact h
  | cons μ μs ih => exact ih (h.move μ)

end Supervision

/-! ## Supervisors at rest -/

namespace World

variable {s : Nat} {w : World}

/-- The supervisor of a number has done nothing yet. -/
def IsFresh (w : World) (s : Nat) : Prop :=
  (∃ κ, w.supervisors[s]? = some { config := κ }) ∧ ∀ χ ∈ w.children, χ.owner ≠ s

theorem IsFresh.isSound (h : w.IsFresh s) : Supervision.IsSound s ⟨w, .rest⟩ := by
  obtain ⟨⟨κ, hκ⟩, hχ⟩ := h
  obtain ⟨hs, -⟩ := List.getElem?_eq_some_iff.mp hκ
  have hσ : w.supervisor s = { config := κ } := by
    rw [supervisor, List.getD_eq_getElem?_getD, hκ, Option.getD_some]
  refine ⟨?_, .of_child (by rw [hσ])⟩
  constructor
  case known => exact hs
  case bare => exact fun _ ↦ by rw [hσ]; exact ⟨rfl, rfl, rfl⟩
  case spent =>
    intro p hp ho
    rw [child, List.getD_eq_getElem _ _ hp] at ho
    exact absurd ho (hχ _ (List.getElem_mem hp))
  all_goals
    intro p hp
    rw [hσ] at hp
    cases hp

/-- What holds of a supervisor that is at work on nothing. -/
structure IsSettled (w : World) (s : Nat) : Prop where
  /-- All that it launched is over, but for the process that it holds. -/
  spent {p : Nat} : p < w.children.length → (w.child p).owner = s →
    (w.supervisor s).child ≠ some p → (w.child p).IsSpent
  /-- So one process at most is alive and was not killed. -/
  single {p q : Nat} : p < w.children.length → q < w.children.length → (w.child p).owner = s →
    (w.child q).owner = s → ¬ (w.child p).IsSpent → ¬ (w.child q).IsSpent → p = q
  /-- A process that it holds runs, or it has ended and the supervisor knows. -/
  running {p : Nat} : (w.supervisor s).child = some p → (w.supervisor s).state = .running ∨
    (w.supervisor s).state = .stopped ∧ (w.child p).isAlive = false
  /-- After a failure it holds no process, -/
  failed : (w.supervisor s).state = .failed → (w.supervisor s).child = none
  /-- and without one it waits for nothing and reads nothing. -/
  bare : (w.supervisor s).child = none → (w.supervisor s).signal = none ∧
    (w.supervisor s).watches = none ∧ (w.supervisor s).readers = []
  /-- A start while the process is healthy says so and does nothing else. -/
  start : w.isHealthy s = true → w.start s = (w.say .info "Proxy already running", .done (.ok ()))

theorem InOrder.isSettled (h : w.InOrder s) (hr : w.AtRest s) : w.IsSettled s where
  spent := h.spent
  single {p q} hp hq hop hoq hap haq := by
    have hold {r : Nat} (hr : r < w.children.length) (ho : (w.child r).owner = s)
        (ha : ¬ (w.child r).IsSpent) : (w.supervisor s).child = some r := by
      by_contra hne
      exact ha (h.spent hr ho hne)
    exact Option.some_inj.mp ((hold hp hop hap).symm.trans (hold hq hoq haq))
  running := hr.running
  failed := hr.failed
  bare := h.bare
  start hh := by rw [World.start, if_pos hh]

end World

/-- Whenever a supervisor that began with nothing is at work on nothing, all that it launched but
does not hold is over, and it goes by what is the case. -/
theorem settled_of_run {w : World} {s : Nat} (hw : w.IsFresh s) {μs : List Supervision.Move}
    (hμ : (Supervision.run s ⟨w, .rest⟩ μs).task = .rest) :
    (Supervision.run s ⟨w, .rest⟩ μs).world.IsSettled s := by
  obtain ⟨ho, hτ⟩ := hw.isSound.run μs
  rw [hμ] at hτ
  exact ho.isSettled hτ

/-! ## Giving up -/

namespace Supervision

variable {s : Nat}

theorem task_ofStart_settle (w : World) (cause : Fault) (ρ : Except Fault Unit) :
    (ofStart (w.settle s cause (.done ρ))).task = .rest := by
  cases ρ <;> rfl

theorem task_ofStart_fail (w : World) (cause : Fault) :
    (ofStart (w.fail s cause)).task = .rest ∨
      ∃ φ, (ofStart (w.fail s cause)).task = .starting (.cleaning φ cause) := by
  rw [World.fail]
  obtain ⟨v, φ | ρ⟩ := w.stop s
  · exact .inr ⟨φ, rfl⟩
  · exact .inl (task_ofStart_settle v cause ρ)

/-- Giving up twice ends whatever a supervisor is at work on. -/
theorem task_cancel_cancel (ς : Supervision) : (run s ς [.cancel, .cancel]).task = .rest := by
  obtain ⟨w, _ | φ | φ⟩ := ς
  · rfl
  · cases φ with
    | clearing φ => rfl
    | fetching t => rfl
    | cleaning φ cause => rfl
    | connecting p deadline α | pausing p deadline t | draining p n t =>
      change (move s (ofStart (w.fail s cancelled)) .cancel).task = .rest
      generalize hς : ofStart (w.fail s cancelled) = ς
      obtain h | ⟨φ, h⟩ := hς ▸ task_ofStart_fail (s := s) w cancelled
      all_goals
        obtain ⟨v, τ⟩ := ς
        cases h
        rfl
  · rfl

end Supervision

/-- A supervisor and two processes to come: one that cannot be launched, one that does nothing. -/
def stubborn : World :=
  { site :=
      { host := ⟨"linux", "x64"⟩
        store := ⟨[(["/", "proxy"], .file 0o755 ⟨#[]⟩)]⟩ }
    behaviours := [{ refusal := some (.saying (.system .notFound) "") }, {}]
    supervisors :=
      [{ config := { instanceName := some "p:r:i", binaryPath := some "/proxy" } }] }

/-- A first start fails to launch the process, and whoever asks for another gives up, and gives up
again while the process is being stopped. -/
theorem settled_of_run_stubborn :
    let run := Supervision.run 0 ⟨stubborn, .rest⟩
    stubborn.IsFresh 0 ∧ ((run [.start]).world.supervisor 0).state = .failed ∧
      (run [.start, .start, .cancel, .cancel]).task = .rest ∧
      (run [.start, .start, .cancel, .cancel]).world.IsSettled 0 := by
  have hw : stubborn.IsFresh 0 := ⟨⟨_, rfl⟩, by simp [stubborn]⟩
  have hμ := Supervision.task_cancel_cancel (s := 0)
    (Supervision.run 0 ⟨stubborn, .rest⟩ [.start, .start])
  exact ⟨hw, by decide +kernel, hμ, settled_of_run hw hμ⟩

end Sluice.Proxy
