import Mathlib.Tactic.Set
import Sluice.Proofs.Proxy.View

/-!
# Supervisors in order

A supervisor is in order (`World.InOrder`) if whatever it launched and does not hold is over, and it
is told of the end of what it holds.  Beside that it rests with a process that runs or has ended
(`World.AtRest`), or is in the middle of a start or a stop, which knows the process it is about
(`StopPhase.Fits`, `StartPhase.Fits`).

Each operation of a supervisor keeps this up, whether it goes on, ends or is given up, and so does
each act of a process (`InOrder.act`).
-/

namespace Sluice

/-- A process that is over: it has ended, or it was sent a signal that it cannot ignore. -/
def Child.IsSpent (χ : Child) : Prop := χ.isAlive = false ∨ χ.killed = true

namespace Proxy

/-! ## Invariants -/

namespace World

/-- The supervisor holds one process at most, and has done with every other that it launched. -/
structure InOrder (w : World) (s : Nat) : Prop where
  known : s < w.supervisors.length
  /-- With no process, there is nothing to wait for and nothing to read. -/
  bare : (w.supervisor s).child = none → (w.supervisor s).signal = none ∧
    (w.supervisor s).watches = none ∧ (w.supervisor s).readers = []
  launched {p : Nat} : (w.supervisor s).child = some p → p < w.children.length
  owner {p : Nat} : (w.supervisor s).child = some p → (w.child p).owner = s
  signal {p : Nat} : (w.supervisor s).child = some p → (w.supervisor s).signal = some p
  /-- While the process is alive its watcher waits, -/
  watched {p : Nat} : (w.supervisor s).child = some p → (w.child p).isAlive = true →
    (w.supervisor s).watches = some p ∧ w.hasSeen p = false
  /-- and once it has ended the supervisor has been told. -/
  told {p : Nat} : (w.supervisor s).child = some p → (w.child p).isAlive = false →
    w.hasSeen p = true
  held {p : Nat} : (w.supervisor s).watches = some p → (w.supervisor s).child = some p
  spent {p : Nat} : p < w.children.length → (w.child p).owner = s →
    (w.supervisor s).child ≠ some p → (w.child p).IsSpent

/-- The supervisor is at work on nothing: the process it holds runs, or it has ended. -/
structure AtRest (w : World) (s : Nat) : Prop where
  running {p : Nat} : (w.supervisor s).child = some p → (w.supervisor s).state = .running ∨
    (w.supervisor s).state = .stopped ∧ (w.child p).isAlive = false
  failed : (w.supervisor s).state = .failed → (w.supervisor s).child = none

/-- A supervisor without a process is at work on nothing. -/
theorem AtRest.of_child {w : World} {s : Nat} (h : (w.supervisor s).child = none) :
    w.AtRest s where
  running hp := by rw [h] at hp; cases hp
  failed _ := h

/-- The supervisor holds the process `p` and is in the state `σ`. -/
def Holds (w : World) (s p : Nat) (σ : State) : Prop :=
  (w.supervisor s).child = some p ∧ (w.supervisor s).state = σ

end World

/-- A stop knows the process it is about. -/
def StopPhase.Fits (w : World) (s : Nat) : StopPhase → Prop
  | grace p _ => w.Holds s p .stopping
  | killed p => w.Holds s p .stopping ∧ (w.child p).IsSpent

/-- A start knows the process it is about. -/
def StartPhase.Fits (w : World) (s : Nat) : StartPhase → Prop
  | clearing φ | cleaning φ _ => φ.Fits w s
  | fetching _ => (w.supervisor s).child = none
  | connecting p _ _ | pausing p _ _ | draining p _ _ => w.Holds s p .starting

/-- Where a stop stands fits the world it has led to. -/
structure StopFits (s : Nat) (r : World × Stopping) : Prop where
  order : r.1.InOrder s
  waiting {φ : StopPhase} : r.2 = .waiting φ → φ.Fits r.1 s
  done {ρ : Except Fault Unit} : r.2 = .done ρ → (r.1.supervisor s).child = none

/-- Where a start stands fits the world it has led to. -/
structure StartFits (s : Nat) (r : World × Starting) : Prop where
  order : r.1.InOrder s
  waiting {φ : StartPhase} : r.2 = .waiting φ → φ.Fits r.1 s
  done {ρ : Except Fault Unit} : r.2 = .done ρ → r.1.AtRest s

section Fits

variable {s : Nat} {w : World}

/-- A stop that is over leaves the supervisor without a process. -/
theorem StopFits.of_done (h : w.InOrder s) (hc : (w.supervisor s).child = none)
    (r : Except Fault Unit) : StopFits s (w, .done r) where
  order := h
  waiting hw := by cases hw
  done _ := hc

/-- A stop that waits has to fit the world. -/
theorem StopFits.of_waiting (h : w.InOrder s) {φ : StopPhase} (hφ : φ.Fits w s) :
    StopFits s (w, .waiting φ) where
  order := h
  waiting hw := by
    cases hw
    exact hφ
  done hd := by cases hd

/-- A start that is over leaves the supervisor at rest. -/
theorem StartFits.of_rest (h : w.InOrder s) (hr : w.AtRest s) (r : Except Fault Unit) :
    StartFits s (w, .done r) where
  order := h
  waiting hw := by cases hw
  done _ := hr

/-- A start that waits has to fit the world. -/
theorem StartFits.of_waiting (h : w.InOrder s) {φ : StartPhase} (hφ : φ.Fits w s) :
    StartFits s (w, .waiting φ) where
  order := h
  waiting hw := by
    cases hw
    exact hφ
  done hd := by cases hd

/-- A supervisor that holds no process is at rest. -/
theorem StartFits.of_none (h : w.InOrder s) (hc : (w.supervisor s).child = none)
    (r : Except Fault Unit) : StartFits s (w, .done r) :=
  .of_rest h (.of_child hc) r

end Fits

/-! ## Worlds that are alike -/

namespace World

variable {s p : Nat} {w v : World}

/-- A supervisor is in order in any world that is alike to it, its own state aside. -/
theorem InOrder.of_akin (h : w.InOrder s) (hv : w.Akin s v) : v.InOrder s where
  known := by rw [hv.supervisors]; exact h.known
  bare hc := by
    rw [hv.child] at hc
    obtain ⟨h1, h2, h3⟩ := h.bare hc
    exact ⟨hv.signal.trans h1, hv.watches.trans h2, hv.readers h3⟩
  launched hc := by rw [hv.children]; exact h.launched (hv.child ▸ hc)
  owner hc := by rw [hv.owner]; exact h.owner (hv.child ▸ hc)
  signal hc := by rw [hv.signal]; exact h.signal (hv.child ▸ hc)
  watched hc ha := by
    rw [hv.child] at hc
    rw [hv.isAlive hc] at ha
    rw [hv.watches, hv.hasSeen hc]
    exact h.watched hc ha
  told hc ha := by
    rw [hv.child] at hc
    rw [hv.isAlive hc] at ha
    rw [hv.hasSeen hc]
    exact h.told hc ha
  held hq := by rw [hv.child]; exact h.held (hv.watches ▸ hq)
  spent hp ho hc := by
    rw [hv.children] at hp
    rw [hv.owner] at ho
    rw [hv.child] at hc
    exact (h.spent hp ho hc).imp (hv.ended _) (hv.killed _)

/-- A supervisor is at rest in any world that is alike to it. -/
theorem AtRest.of_alike (h : w.AtRest s) (hv : w.Alike s v) : v.AtRest s where
  running hc := by
    rw [hv.child] at hc
    rw [hv.state, hv.isAlive hc]
    exact h.running hc
  failed hf := by
    rw [hv.child]
    exact h.failed (hv.state ▸ hf)

/-- What a supervisor holds is the same in worlds that are alike. -/
theorem Holds.of_alike {σ : State} (h : w.Holds s p σ) (hv : w.Alike s v) : v.Holds s p σ :=
  ⟨hv.child.trans h.1, hv.state.trans h.2⟩

end World

/-- A stop fits any world that is alike. -/
theorem StopPhase.Fits.of_alike {s : Nat} {w v : World} {φ : StopPhase} (h : φ.Fits w s)
    (hv : w.Alike s v) : φ.Fits v s := by
  cases φ with
  | grace p t => exact World.Holds.of_alike h hv
  | killed p => exact ⟨h.1.of_alike hv, h.2.imp (hv.ended p) (hv.killed p)⟩

/-- A start fits any world that is alike. -/
theorem StartPhase.Fits.of_alike {s : Nat} {w v : World} {φ : StartPhase} (h : φ.Fits w s)
    (hv : w.Alike s v) : φ.Fits v s := by
  cases φ with
  | clearing φ | cleaning φ cause => exact StopPhase.Fits.of_alike h hv
  | fetching t => exact hv.child.trans h
  | connecting p deadline α | pausing p deadline t | draining p n t =>
    exact World.Holds.of_alike h hv

namespace World

variable {s p : Nat} {w v : World}

/-- A supervisor has been told of the end of its process exactly if it has ended. -/
theorem InOrder.hasSeen (h : w.InOrder s) (hp : (w.supervisor s).child = some p) :
    w.hasSeen p = !(w.child p).isAlive := by
  cases ha : (w.child p).isAlive with
  | true => exact (h.watched hp ha).2
  | false => exact h.told hp ha

/-- The state of a supervisor does not matter to its order. -/
theorem InOrder.setState (h : w.InOrder s) (σ : State) :
    (w.onSupervisor s ({ · with state := σ })).InOrder s :=
  h.of_akin (.onSupervisor w s (by simp))

/-- A supervisor that changes its state still holds its process. -/
theorem InOrder.holds_setState (h : w.InOrder s) (hp : (w.supervisor s).child = some p)
    (σ : State) : (w.onSupervisor s ({ · with state := σ })).Holds s p σ := by
  simp [Holds, h.known, hp]

/-! ## Stopping -/

/-- A supervisor may let go of a process that is over. -/
theorem InOrder.release (h : w.InOrder s)
    (hp : ∀ p, (w.supervisor s).child = some p → (w.child p).IsSpent) (r : Except Fault Unit) :
    StopFits s (w.release s, .done r) := by
  have hσ : (w.release s).supervisor s =
      { w.supervisor s with
        state := .stopped, child := none, signal := none, watches := none, readers := [] } := by
    simp [World.release, h.known]
  refine .of_done ?_ (by rw [hσ]) r
  constructor
  case known => simpa [World.release, say, log, emit] using h.known
  case bare => exact fun _ ↦ by rw [hσ]; exact ⟨rfl, rfl, rfl⟩
  case spent =>
    intro p hl ho _
    by_cases hc : (w.supervisor s).child = some p
    · exact hp p hc
    · exact h.spent hl ho hc
  all_goals
    intro p hp
    rw [hσ] at hp
    cases hp

/-- A supervisor may let go of a process that is over. -/
theorem InOrder.release_of (h : w.InOrder s) (hp : (w.supervisor s).child = some p)
    (hχ : (w.child p).IsSpent) (r : Except Fault Unit) : StopFits s (w.release s, .done r) := by
  refine h.release (fun q hq ↦ ?_) r
  rw [hp] at hq
  cases hq
  exact hχ

/-- A stop that begins leaves the supervisor in order. -/
theorem InOrder.stop (h : w.InOrder s) : StopFits s (w.stop s) := by
  unfold World.stop
  split
  next hp => exact .of_done h hp _
  next p hp =>
    have hs := h.of_akin (alike_say w .info "Stopping proxy...").toAkin
    have hv := hs.holds_setState hp .stopping
    replace hs := hs.setState .stopping
    dsimp only
    generalize (w.say .info "Stopping proxy...").onSupervisor s ({ · with state := .stopping }) = v
      at hs hv
    split
    next hq =>
      rw [hs.signal hv.1, Option.any_some, hs.hasSeen hv.1] at hq
      exact hs.release_of hv.1 (.inl (by simpa using hq)) _
    next =>
      have ht := alike_terminate (s := s) v p
      exact .of_waiting (φ := .grace p _) (hs.of_akin ht.toAkin) (hv.of_alike ht)

/-- A process that is sent the signal has been killed. -/
theorem killed_kill (hp : p < w.children.length) : ((w.kill p).child p).killed = true := by
  rw [World.kill, child_onChild, if_pos ⟨rfl, hp⟩]
  rfl

/-- A stop that goes on leaves the supervisor in order. -/
theorem InOrder.resume {φ : StopPhase} (h : w.InOrder s) (hφ : φ.Fits w s) :
    StopFits s (φ.resume s w) := by
  cases φ with
  | grace p t =>
    obtain ⟨hc, hσ⟩ := hφ
    rw [StopPhase.resume]
    split
    next hs =>
      rw [h.hasSeen hc] at hs
      exact h.release_of hc (.inl (by simpa using hs)) _
    next =>
      have ha : w.Alike s ((w.say .warning "Force killing proxy...").kill p) :=
        (alike_say ..).trans (alike_kill ..)
      have hk := killed_kill (w := w.say .warning "Force killing proxy...") (h.launched hc)
      have hv := h.of_akin ha.toAkin
      have hc' := ha.child.trans hc
      dsimp only
      split
      · split
        · exact hv.release_of hc' (.inr hk) _
        next q hq _ =>
          rw [hv.signal hc'] at hq
          cases hq
          exact .of_waiting (φ := .killed p) hv ⟨⟨hc', ha.state.trans hσ⟩, .inr hk⟩
      · exact hv.release_of hc' (.inr hk) _
  | killed p => exact h.release_of hφ.1.1 hφ.2 _

/-- A stop that is given up has killed its process and let go of it. -/
theorem InOrder.cancel (h : w.InOrder s) : StopFits s (StopPhase.cancel s w) := by
  rw [StopPhase.cancel, World.killChild]
  split
  next p hp =>
    split
    next ha =>
      have hk := alike_kill (s := s) w p
      exact (h.of_akin hk.toAkin).release_of (hk.child.trans hp)
        (.inr (killed_kill (h.launched hp))) _
    next ha => exact h.release_of hp (.inl (by simpa using ha)) _
  next hp => exact h.release (fun q hq ↦ by rw [hp] at hq; cases hq) _

end World

/-! ## Starting -/

section Starting

variable {s p : Nat} {w v : World}

/-- A failed start is over, or its stop is under way. -/
theorem StopFits.settle {r : World × Stopping} (h : StopFits s r) (cause : Fault) :
    StartFits s (r.1.settle s cause r.2) := by
  obtain ⟨w, π⟩ := r
  unfold World.settle
  split
  next φ hφ => exact .of_waiting (φ := .cleaning φ cause) h.order (h.waiting hφ)
  next hd =>
    have hc : ((w.onSupervisor s ({ · with state := .failed })).supervisor s).child = none := by
      simpa [h.order.known] using h.done hd
    exact .of_none (h.order.setState .failed) hc _
  next hd => exact .of_none h.order (h.done hd) _

/-- A start that fails leaves the supervisor in order. -/
theorem World.InOrder.fail (h : w.InOrder s) (cause : Fault) : StartFits s (w.fail s cause) :=
  h.stop.settle cause

/-- A try to connect that has come to its end leaves the supervisor in order. -/
theorem World.InOrder.afterAttempt (h : w.InOrder s) (hp : w.Holds s p .starting)
    (deadline : Time) (b : Bool) : StartFits s (w.afterAttempt s p deadline b) := by
  unfold World.afterAttempt
  split
  · have hr := h.holds_setState hp.1 .running
    have ha := alike_say (s := s) (w.onSupervisor s ({ · with state := .running })) .info
      ("Proxy ready on " ++ host ++ ":" ++ toString
        ((w.onSupervisor s ({ · with state := .running })).supervisor s).config.port)
    refine .of_rest ((h.setState .running).of_akin ha.toAkin) (.of_alike ?_ ha) _
    exact ⟨fun _ ↦ .inl hr.2, fun hf ↦ by rw [hr.2] at hf; cases hf⟩
  · exact .of_waiting (φ := .pausing p deadline _) h hp

/-- A look at the process leaves the supervisor in order. -/
theorem World.InOrder.poll (h : w.InOrder s) (hp : w.Holds s p .starting) (deadline : Time) :
    StartFits s (w.poll s p deadline) := by
  unfold World.poll
  split
  · exact h.fail _
  · split
    next n _ =>
      split
      · exact .of_waiting (φ := .draining p n _) h hp
      · exact h.fail _
    · have hc := alike_connect (s := s) w s
      dsimp only
      split
      · exact (h.of_akin hc.toAkin).afterAttempt (hp.of_alike hc) deadline _
      · exact .of_waiting (φ := .connecting p deadline _) (h.of_akin hc.toAkin) (hp.of_alike hc)

/-- A supervisor that waits for its process is in order. -/
theorem World.InOrder.awaitReady (h : w.InOrder s) (hp : w.Holds s p .starting) :
    StartFits s (w.awaitReady s p) := by
  unfold World.awaitReady
  dsimp only
  split
  · exact h.fail _
  · exact (h.of_akin (alike_say ..).toAkin).poll (hp.of_alike (alike_say ..)) _

/-- A launch fails, or there is one more process, which has just begun. -/
theorem World.launch_cases (w : World) (s : Nat) (command : List String) :
    ∃ v, w.Alike s v ∧ ((∃ φ, w.launch s command = (v, .error φ)) ∨
      ∃ β, w.launch s command = ({ v with children := v.children ++ [Child.launch β s v.now] },
        .ok v.children.length)) := by
  refine ⟨{ w.emit (.spawn command) with behaviours := w.behaviours.tail }, .of_eq rfl rfl, ?_⟩
  unfold World.launch
  dsimp only
  split
  next φ _ => exact .inl ⟨φ, rfl⟩
  · exact .inr ⟨_, rfl⟩

/-- A world with one more process. -/
def World.withChild (w : World) (χ : Child) : World := { w with children := w.children ++ [χ] }

/-- The processes that there were are the same beside a new one. -/
theorem World.child_withChild_of_lt (χ : Child) (hp : p < w.children.length) :
    (w.withChild χ).child p = w.child p := List.getD_append _ _ _ _ hp

/-- The last process is the new one. -/
theorem World.child_withChild (w : World) (χ : Child) :
    (w.withChild χ).child w.children.length = χ := by
  simp [World.child, World.withChild]

/-- A supervisor without a process takes charge of one that has just begun. -/
theorem World.InOrder.adopt (h : w.InOrder s) (hc : (w.supervisor s).child = none) {χ : Child}
    (ho : χ.owner = s) (ha : χ.isAlive = true) (hs : χ.seen = none) :
    ((w.withChild χ).adopt s w.children.length).InOrder s := by
  set n := w.children.length with hn
  set v := (w.withChild χ).adopt s n with hv
  have hχ : v.child n = χ := w.child_withChild χ
  have hσ : (v.supervisor s).child = some n ∧ (v.supervisor s).signal = some n ∧
      (v.supervisor s).watches = some n := by
    rw [hv, World.adopt, World.supervisor_onSupervisor, if_pos ⟨rfl, h.known⟩]
    exact ⟨rfl, rfl, rfl⟩
  obtain ⟨hσ, hsignal, hwatches⟩ := hσ
  have heq {p : Nat} (hp : (v.supervisor s).child = some p) : p = n := by
    rw [hσ] at hp
    cases hp
    rfl
  have hl : v.children.length = n + 1 := by simp [hv, hn, World.adopt, World.withChild]
  constructor
  case known => simpa [hv, World.adopt, World.withChild] using h.known
  case bare => exact fun hp ↦ by rw [hσ] at hp; cases hp
  case launched =>
    intro p hp
    rw [heq hp, hl]
    exact Nat.lt_succ_self n
  case owner => exact fun hp ↦ by rw [heq hp, hχ, ho]
  case signal => exact fun hp ↦ by rw [heq hp, hsignal]
  case watched => exact fun hp _ ↦ by rw [heq hp, hwatches, World.hasSeen, hχ, hs]; exact ⟨rfl, rfl⟩
  case told =>
    intro p hp hd
    rw [heq hp, hχ, ha] at hd
    cases hd
  case held => exact fun hq ↦ by rw [hσ, ← hwatches, hq]
  case spent =>
    intro p hp ho' hne
    have hpn : p ≠ n := by
      rintro rfl
      exact hne hσ
    have hp : p < w.children.length := by omega
    have hold : v.child p = w.child p := World.child_withChild_of_lt χ hp
    rw [hold] at ho' ⊢
    exact h.spent hp ho' (by simp [hc])

/-- The world in which a launch of the proxy is tried. -/
def World.announced (w : World) (s : Nat) (path : File.Path) : World :=
  (w.say .info ("Starting proxy: " ++ path.text ++ " " ++
    " ".intercalate (w.supervisor s).config.arguments)).onSupervisor s
      ({ · with state := .starting, lastError := .text "" })

/-- The world in which it has been tried. -/
def World.tried (w : World) (s : Nat) (path : File.Path) : World :=
  { (w.announced s path).emit (.spawn (path.text :: (w.supervisor s).config.arguments)) with
    behaviours := w.behaviours.tail }

/-- Until a launch succeeds a supervisor sees nothing of it. -/
theorem World.akin_tried (w : World) (s : Nat) (path : File.Path) : w.Akin s (w.tried s path) := by
  have ha : w.Akin s (w.announced s path) := (alike_say ..).toAkin.trans (.onSupervisor _ s (by simp))
  have ht : (w.announced s path).Alike s (w.tried s path) := .of_eq rfl rfl
  exact ha.trans ht.toAkin

/-- The world in which the supervisor has taken charge of what it launched. -/
def World.embarked (w : World) (s : Nat) (path : File.Path) : World :=
  ((w.tried s path).withChild (Child.launch (w.behaviours.headD {}) s w.now)).adopt s
    w.children.length

/-- What the launch comes to is up to the process that is first in line. -/
theorem World.launchProxy_eq (w : World) (s : Nat) (path : File.Path) :
    w.launchProxy s path = match (w.behaviours.headD {}).refusal with
      | some φ =>
        if φ.isSystem then
          ((w.tried s path).onSupervisor s ({ · with state := .failed, lastError := .text φ.message }),
            .done (.error (startupFailure ("Failed to launch Cloud SQL Proxy: " ++ φ.message))))
        else (w.tried s path, .done (.error φ))
      | none => (w.embarked s path).awaitReady s w.children.length := by
  have hl : (w.announced s path).launch s (path.text :: (w.supervisor s).config.arguments) =
      match (w.behaviours.headD {}).refusal with
      | some φ => (w.tried s path, .error φ)
      | none => ((w.tried s path).withChild (Child.launch (w.behaviours.headD {}) s w.now),
          .ok w.children.length) := rfl
  unfold World.announced at hl
  unfold World.launchProxy
  dsimp only
  rw [hl]
  cases (w.behaviours.headD {}).refusal <;> rfl

/-- What a launch leads to: the supervisor holds one more process, which has just begun. -/
structure World.Launched (w : World) (s : Nat) (v : World) : Prop where
  order : v.InOrder s
  holds : v.Holds s w.children.length .starting
  now : v.now = w.now
  network : v.network = w.network
  children : v.children = w.children ++ [Child.launch (w.behaviours.headD {}) s w.now]
  config : (v.supervisor s).config = (w.supervisor s).config

/-- A supervisor in order that holds no process may take charge of a new one. -/
theorem World.InOrder.launched_embarked (h : w.InOrder s) (hc : (w.supervisor s).child = none)
    (path : File.Path) : w.Launched s (w.embarked s path) := by
  have hu := w.akin_tried s path
  have ho := h.of_akin hu
  have hσ : ((w.tried s path).supervisor s).state = .starting ∧
      ((w.tried s path).supervisor s).config = (w.supervisor s).config := by
    change ((w.announced s path).supervisor s).state = _ ∧
      ((w.announced s path).supervisor s).config = _
    simp [World.announced, h.known]
  refine ⟨ho.adopt (hu.child.trans hc) rfl rfl rfl, ?_, rfl, rfl, rfl, ?_⟩
  all_goals
    simp only [World.Holds, World.embarked, World.adopt]
    rw [World.supervisor_onSupervisor, if_pos ⟨rfl, ho.known⟩]
  · exact ⟨rfl, hσ.1⟩
  · exact hσ.2

/-- A supervisor that holds nothing fails to launch the proxy, or waits for what it has launched. -/
theorem World.InOrder.launchProxy_cases (h : w.InOrder s) (hc : (w.supervisor s).child = none)
    (path : File.Path) :
    ((w.behaviours.headD {}).refusal ≠ none ∧
        ∃ v φ, w.Akin s v ∧ w.launchProxy s path = (v, .done (.error φ))) ∨
      (w.behaviours.headD {}).refusal = none ∧
        ∃ v, w.Launched s v ∧ w.launchProxy s path = v.awaitReady s w.children.length := by
  have hu := w.akin_tried s path
  rw [w.launchProxy_eq]
  cases (w.behaviours.headD {}).refusal with
  | some φ =>
    refine .inl ⟨Option.some_ne_none φ, ?_⟩
    dsimp only
    split
    · exact ⟨_, _, hu.trans (.onSupervisor _ s (by simp)), rfl⟩
    · exact ⟨_, φ, hu, rfl⟩
  | none => exact .inr ⟨rfl, _, h.launched_embarked hc path, rfl⟩

/-- To launch the proxy leaves the supervisor in order. -/
theorem World.InOrder.launchProxy (h : w.InOrder s) (hc : (w.supervisor s).child = none)
    (path : File.Path) : StartFits s (w.launchProxy s path) := by
  obtain ⟨-, v, φ, hv, he⟩ | ⟨-, v, hv, he⟩ := h.launchProxy_cases hc path
  · rw [he]
    exact .of_none (h.of_akin hv) (hv.child.trans hc) _
  · rw [he]
    exact hv.order.awaitReady hv.holds

/-- To look for the program leaves the supervisor in order. -/
theorem World.InOrder.obtain (h : w.InOrder s) (hc : (w.supervisor s).child = none) :
    StartFits s (w.obtain s) := by
  have ha := alike_fetch (s := s) w s
  unfold World.obtain
  split
  next v φ hv =>
    rw [hv] at ha
    exact .of_none (h.of_akin ha.toAkin) (ha.child.trans hc) _
  next v path hv =>
    rw [hv] at ha
    exact (h.of_akin ha.toAkin).launchProxy (ha.child.trans hc) path

/-- To wait for the program leaves the supervisor in order. -/
theorem World.InOrder.provide (h : w.InOrder s) (hc : (w.supervisor s).child = none) :
    StartFits s (w.provide s) := by
  unfold World.provide
  split
  · exact .of_none h hc _
  · split
    · exact .of_waiting (φ := .fetching _) h hc
    · exact h.obtain hc

/-- A supervisor that has stopped an earlier process may start the proxy. -/
theorem StopFits.cleared {r : World × Stopping} (h : StopFits s r) :
    StartFits s (r.1.cleared s r.2) := by
  obtain ⟨w, π⟩ := r
  unfold World.cleared
  split
  next φ hφ => exact .of_waiting (φ := .clearing φ) h.order (h.waiting hφ)
  next hd => exact h.order.provide (h.done hd)
  next hd => exact .of_none h.order (h.done hd) _

/-- A start that begins leaves the supervisor in order. -/
theorem World.InOrder.start (h : w.InOrder s) (hr : w.AtRest s) : StartFits s (w.start s) := by
  have ha := alike_say (s := s) w .info "Proxy already running"
  unfold World.start
  split
  · exact .of_rest (h.of_akin ha.toAkin) (hr.of_alike ha) _
  · exact h.stop.cleared

/-- A start that goes on leaves the supervisor in order. -/
theorem World.InOrder.resumeStart {φ : StartPhase} (h : w.InOrder s) (hφ : φ.Fits w s) :
    StartFits s (φ.resume s w) := by
  cases φ with
  | clearing φ => exact (h.resume hφ).cleared
  | fetching t => exact h.obtain hφ
  | connecting p deadline α => exact h.afterAttempt hφ deadline _
  | pausing p deadline t => exact h.poll hφ deadline
  | draining p n t => exact h.fail _
  | cleaning φ cause => exact (h.resume hφ).settle cause

/-- A start that is given up leaves the supervisor in order. -/
theorem World.InOrder.cancelStart {φ : StartPhase} (h : w.InOrder s) (hφ : φ.Fits w s) :
    StartFits s (φ.cancel s w) := by
  cases φ with
  | clearing φ => exact h.cancel.cleared
  | fetching t =>
    have ha := (alike_interrupted (s := s) w).trans (alike_fetch w.interrupted s)
    exact .of_none (h.of_akin ha.toAkin) (ha.child.trans hφ) _
  | connecting p deadline α | pausing p deadline t | draining p n t => exact h.fail _
  | cleaning φ cause => exact h.cancel.settle cause

end Starting

/-! ## Acts of processes -/

section Acts

variable {s p q : Nat} {t : Time} {w v : World}

/-- The watcher of the process that a supervisor holds tells it of the end. -/
def World.tell (w : World) (s q : Nat) (n : Int) : World :=
  (w.onChild q ({ · with seen := some n })).onSupervisor s ({ · with watches := none })

/-- A supervisor that is told of the end of its process has seen it and still holds the process. -/
theorem World.InOrder.tell (h : w.InOrder s) (hq : (w.supervisor s).child = some q) {n : Int}
    (hv : (w.onChild q (·.finish n t)).Alike s v) :
    (v.tell s q n).InOrder s ∧ ((v.tell s q n).child q).isAlive = false ∧
      (v.tell s q n).Holds s q (w.supervisor s).state := by
  have hk : s < v.supervisors.length := by rw [hv.supervisors]; exact h.known
  have hl : q < v.children.length := by rw [hv.children, length_onChild]; exact h.launched hq
  have hc : (v.supervisor s).child = some q := hv.child.trans hq
  have hσ : (v.tell s q n).supervisor s = { v.supervisor s with watches := none } := by
    simp [World.tell, hk]
  have hχ : (v.tell s q n).child q = { v.child q with seen := some n } := by
    simp [World.tell, hl]
  have hd : ((v.tell s q n).child q).isAlive = false := by
    have : (v.child q).isAlive = false := hv.ended q (by simp [h.launched hq])
    rw [hχ]
    exact this
  have heq {p : Nat} (hp : ((v.tell s q n).supervisor s).child = some p) : p = q := by
    rw [hσ, hc] at hp
    cases hp
    rfl
  refine ⟨?_, hd, by rw [hσ]; exact hc, by rw [hσ]; exact hv.state⟩
  constructor
  case known => simpa [World.tell] using hk
  case bare => exact fun hp ↦ by rw [hσ, hc] at hp; cases hp
  case launched => exact fun hp ↦ by rw [heq hp]; simpa [World.tell] using hl
  case owner =>
    intro p hp
    rw [heq hp, hχ]
    refine (hv.owner q).trans ?_
    simpa [h.launched hq] using h.owner hq
  case signal => exact fun hp ↦ by rw [heq hp, hσ]; exact hv.signal.trans (h.signal hq)
  case watched => exact fun hp ha ↦ by rw [heq hp, hd] at ha; cases ha
  case told => exact fun hp _ ↦ by rw [heq hp, World.hasSeen, hχ]; rfl
  case held => exact fun hw ↦ by rw [hσ] at hw; cases hw
  case spent =>
    intro p hp ho hne
    have hpq : q ≠ p := by
      rintro rfl
      rw [hσ] at hne
      exact hne hc
    have hold : (v.tell s q n).child p = v.child p := by simp [World.tell, hpq]
    have hold' : (w.onChild q (·.finish n t)).child p = w.child p := by simp [hpq]
    rw [hold] at ho ⊢
    have hp : p < w.children.length := by
      simpa [World.tell, hv.children] using hp
    have hs : (w.child p).IsSpent :=
      h.spent hp (by rw [← hold', ← hv.owner]; exact ho) (by rw [hq]; rintro ⟨⟩; exact hpq rfl)
    rw [← hold'] at hs
    exact hs.imp (hv.ended p) (hv.killed p)

/-- The process that a supervisor holds has ended, and the end is passed on: the supervisor still
holds the process, and if that was to run it knows that it does not. -/
theorem World.InOrder.notice (h : w.InOrder s) (hq : (w.supervisor s).child = some q)
    (ha : (w.child q).isAlive = true) {n : Int}
    (hv : (w.onChild q (·.finish n t)).Alike s v) :
    (v.notice q n).InOrder s ∧ ((v.notice q n).child q).isAlive = false ∧
      (v.notice q n).Holds s q
        (if (w.supervisor s).state = .running then .stopped else (w.supervisor s).state) := by
  have ho : (v.child q).owner = s := by
    refine (hv.owner q).trans ?_
    simpa [h.launched hq] using h.owner hq
  have hw : (v.supervisor s).watches = some q := hv.watches.trans (h.watched hq ha).1
  obtain ⟨hx, hd, hc⟩ := h.tell hq hv
  have ht := alike_say (s := s) (v.tell s q n) .info (exitText n)
  have hd' := (ht.isAlive hc.1).trans hd
  replace hx := hx.of_akin ht.toAkin
  replace hc := hc.of_alike ht
  unfold World.notice
  dsimp only
  rw [ho, if_pos hw]
  split
  next hr =>
    rw [if_pos (hc.2.symm.trans hr.2)]
    have hy := hx.of_akin (alike_say (s := s) _ .error
      ("Proxy exited while running. Last error: " ++
        ((v.tell s q n).say .info (exitText n)).lastErrorOr s "Unknown error")).toAkin
    exact ⟨hy.setState .stopped, hd', hy.holds_setState hc.1 .stopped⟩
  next hr =>
    rw [if_neg fun hs ↦ hr ⟨hc.1, hc.2.trans hs⟩]
    exact ⟨hx, hd', hc⟩

/-- An act leaves the world alike, or the process that the supervisor holds has ended. -/
theorem World.InOrder.act_cases (h : w.InOrder s) (q : Nat) :
    w.Alike s (w.act q) ∨ (w.supervisor s).child = some q ∧ (w.act q).InOrder s ∧
      ((w.act q).child q).isAlive = false ∧ (w.act q).Holds s q
        (if (w.supervisor s).state = .running then .stopped else (w.supervisor s).state) := by
  by_cases hq : (w.supervisor s).child = some q
  · obtain ha | ⟨n, v, hl, ha, hv, hact⟩ := w.act_cases s q
    · exact .inl ha
    · rw [hact]
      exact .inr ⟨hq, h.notice hq ha hv⟩
  · exact .inl (alike_act hq fun hw ↦ hq (h.held hw))

/-- Whatever processes do, a supervisor stays in order. -/
theorem World.InOrder.act (h : w.InOrder s) (q : Nat) : (w.act q).InOrder s := by
  obtain ha | ⟨-, ho, -⟩ := h.act_cases q
  · exact h.of_akin ha.toAkin
  · exact ho

/-- A supervisor at rest stays so, whatever processes do. -/
theorem World.AtRest.act (hr : w.AtRest s) (h : w.InOrder s) (q : Nat) : (w.act q).AtRest s := by
  obtain ha | ⟨hq, -, hd, hc, hσ⟩ := h.act_cases q
  · exact hr.of_alike ha
  · have hs : (if (w.supervisor s).state = .running then .stopped
        else (w.supervisor s).state) = State.stopped := by
      obtain hs | ⟨hs, -⟩ := hr.running hq <;> simp [hs]
    rw [hs] at hσ
    refine ⟨fun hp ↦ .inr ⟨hσ, ?_⟩, fun hf ↦ by rw [hσ] at hf; cases hf⟩
    rw [hc] at hp
    cases hp
    exact hd

/-- A process cannot take itself from its supervisor while that is not running it. -/
theorem World.Holds.act {σ : State} (hp : w.Holds s p σ) (hσ : σ ≠ .running) (h : w.InOrder s)
    (q : Nat) : (w.act q).Holds s p σ := by
  obtain ha | ⟨hq, -, -, hc⟩ := h.act_cases q
  · exact hp.of_alike ha
  · rw [hp.1] at hq
    cases hq
    rwa [hp.2, if_neg hσ] at hc

/-- A stop fits whatever processes do meanwhile. -/
theorem StopPhase.Fits.act {φ : StopPhase} (hφ : φ.Fits w s) (h : w.InOrder s) (q : Nat) :
    φ.Fits (w.act q) s := by
  cases φ with
  | grace p t => exact World.Holds.act hφ (by decide) h q
  | killed p =>
    refine ⟨hφ.1.act (by decide) h q, ?_⟩
    obtain ha | ⟨hq, -, hd, -⟩ := h.act_cases q
    · exact hφ.2.imp (ha.ended p) (ha.killed p)
    · rw [hφ.1.1] at hq
      cases hq
      exact .inl hd

/-- A start fits whatever processes do meanwhile. -/
theorem StartPhase.Fits.act {φ : StartPhase} (hφ : φ.Fits w s) (h : w.InOrder s) (q : Nat) :
    φ.Fits (w.act q) s := by
  cases φ with
  | clearing φ | cleaning φ cause => exact StopPhase.Fits.act hφ h q
  | fetching t =>
    obtain ha | ⟨hq, -⟩ := h.act_cases q
    · exact ha.child.trans hφ
    · cases (show (w.supervisor s).child = none from hφ).symm.trans hq
  | connecting p deadline α | pausing p deadline t | draining p n t =>
    exact World.Holds.act hφ (by decide) h q

end Acts

end Proxy

end Sluice
