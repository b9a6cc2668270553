import Sluice.Proofs.Gate.Closing
import Sluice.Proofs.Server.SingleFlight

/-!
# A gate in service

Callers ask for the pool or run queries, the gate is closed and shut down, any number of times and
side by side, and whoever asked may give up (`Desk.occur`).  Jobs and the opening go on when they
are ready; the clock, the network, the database and the processes to come are anybody's choice.
What one occurrence can make of a gate is told once (`Desk.happens`).

Whatever happens, supervisors stay in order, and whatever a closing waits for is pending or has left
its result behind (`Desk.InService`).  If whoever comes finds no closing that can go on
(`IsTimely`), as where events from outside do not coincide (`IsCalm`), then the supervisor in hand
alone may hold a process.
-/

namespace Sluice.Server

open Proxy Gate

/-! ## Runs -/

/-- What a gate in service is asked for. -/
inductive Demand where
  | pool (κ : Caller)
  | close
  | shutdown (grace : Value)

def Demand.order : Demand → Order
  | pool κ => κ.order
  | close => .close
  | shutdown grace => .shutdown grace

/-- What happens next. -/
inductive Occurrence where
  | take (d : Demand)
  /-- The job of a number is given up, or goes on. -/
  | giveUp (i : Nat)
  | resume (i : Nat)
  /-- The process of a number acts. -/
  | act (p : Nat)
  /-- The pending opening goes on. -/
  | proceed
  /-- The time, the site, the network and the processes to come turn into those of `w`, and the
  database will answer as `β` says. -/
  | shift (w : World) (β : Database)

namespace Desk

/-- Whether a job can go on. -/
def isReady (δ : Desk) (i : Nat) : Bool :=
  match δ.job? i with
  | some (.waiting φ) => φ.isReady δ.gate
  | _ => false

/-- No job can go on. -/
def isQuiet (δ : Desk) : Bool := δ.nextJob?.isNone

def occur (δ : Desk) : Occurrence → Desk
  | .take d => (δ.take d.order).1
  | .giveUp i => δ.cancel i
  | .resume i => if δ.isReady i then δ.resume i else δ
  | .act p => { δ with gate.world := δ.gate.world.act p }
  | .proceed =>
    match δ.gate.resumeOpening? with
    | some γ => { δ with gate := γ }
    | none => δ
  | .shift w β =>
    { δ with
      gate.database := β
      gate.world := { w with
        children := δ.gate.world.children
        supervisors := δ.gate.world.supervisors
        events := δ.gate.world.events } }

/-- What becomes of a desk. -/
def occurs (δ : Desk) (os : List Occurrence) : Desk := os.foldl occur δ

@[simp] theorem occurs_nil (δ : Desk) : δ.occurs [] = δ := rfl

@[simp] theorem occurs_cons (δ : Desk) (o : Occurrence) (os : List Occurrence) :
    δ.occurs (o :: os) = (δ.occur o).occurs os := rfl

/-- What happens last happens to what came of all before it. -/
theorem occurs_concat (δ : Desk) (os : List Occurrence) (o : Occurrence) :
    δ.occurs (os ++ [o]) = (δ.occurs os).occur o := by
  simp [occurs]

/-- Everything that happens is allowed by `P` where it happens. -/
def Abides (P : Desk → Occurrence → Prop) : Desk → List Occurrence → Prop
  | _, [] => True
  | δ, o :: os => P δ o ∧ Abides P (δ.occur o) os

/-- What is allowed by two rules is allowed by both together. -/
theorem Abides.and {P Q : Desk → Occurrence → Prop} {δ : Desk} {os : List Occurrence}
    (hP : Abides P δ os) (hQ : Abides Q δ os) : Abides (fun δ o ↦ P δ o ∧ Q δ o) δ os := by
  induction os generalizing δ with
  | nil => trivial
  | cons o os ih => exact ⟨⟨hP.1, hQ.1⟩, ih hP.2 hQ.2⟩

/-- What is allowed by `P` is allowed by whatever `P` implies. -/
theorem Abides.mono {P Q : Desk → Occurrence → Prop} (hPQ : ∀ δ o, P δ o → Q δ o) {δ : Desk}
    {os : List Occurrence} (h : Abides P δ os) : Abides Q δ os := by
  induction os generalizing δ with
  | nil => trivial
  | cons o os ih => exact ⟨hPQ δ o h.1, ih h.2⟩

/-- Everything is allowed if all but the last is, and the last is where it happens. -/
theorem abides_concat_iff {P : Desk → Occurrence → Prop} {δ : Desk} {os : List Occurrence}
    {o : Occurrence} : δ.Abides P (os ++ [o]) ↔ δ.Abides P os ∧ P (δ.occurs os) o := by
  induction os generalizing δ with
  | nil => simp [Abides]
  | cons x os ih => simp [Abides, ih, and_assoc]

/-- What each allowed occurrence keeps up is kept up. -/
theorem Abides.induction {P : Desk → Occurrence → Prop} {I : Desk → Prop}
    (hI : ∀ δ o, I δ → P δ o → I (δ.occur o)) {δ : Desk} {os : List Occurrence}
    (h : Abides P δ os) (hδ : I δ) : I (δ.occurs os) := by
  induction os generalizing δ with
  | nil => exact hδ
  | cons o os ih => exact ih h.2 (hI δ o hδ h.1)

/-- What each occurrence keeps up is kept up. -/
theorem occurs_induction {I : Desk → Prop} (hI : ∀ δ o, I δ → I (δ.occur o)) {δ : Desk} (hδ : I δ)
    (os : List Occurrence) : I (δ.occurs os) := by
  induction os generalizing δ with
  | nil => exact hδ
  | cons o os ih => exact ih (hI δ o hδ)

/-- Whoever comes finds no job that can go on. -/
def IsCalm (δ : Desk) (o : Occurrence) : Prop := ∀ d, o = .take d → δ.isQuiet = true

/-- A job that is found to be ready is ready. -/
theorem isReady_of_firstReady? {δ : Desk} {f : JobPhase → Bool} {i : Nat}
    (h : δ.firstReady? f = some i) : δ.isReady i = true := by
  rw [firstReady?, List.findIdx?_eq_some_iff_getElem] at h
  obtain ⟨hi, hr, -⟩ := h
  rw [isReady, job?, List.getElem?_eq_getElem hi]
  split at hr
  next φ hφ =>
    rw [hφ]
    exact (Bool.and_eq_true_iff.mp hr).2
  next => cases hr

/-- The job that goes on next is ready. -/
theorem isReady_of_nextJob? {δ : Desk} {i : Nat} (h : δ.nextJob? = some i) :
    δ.isReady i = true := by
  obtain h | ⟨-, h⟩ := Option.or_eq_some_iff.mp h
  · exact isReady_of_firstReady? h
  · exact isReady_of_firstReady? h

/-- At a quiet desk no job is ready. -/
theorem isReady_eq_false_of_isQuiet {δ : Desk} (h : δ.isQuiet = true) (i : Nat) :
    δ.isReady i = false := by
  rw [isQuiet, Option.isNone_iff_eq_none, nextJob?, Option.or_eq_none_iff] at h
  have hn := h.2
  rw [firstReady?, List.findIdx?_eq_none_iff] at hn
  rw [isReady]
  split
  next φ hφ =>
    have := hn _ (List.mem_of_getElem? hφ)
    simpa using this
  next => rfl

/-! ### What an occurrence does -/

/-- A job that can go on does so if it is told to. -/
theorem occur_resume_of_waiting {δ : Desk} {i : Nat} {ψ : JobPhase}
    (hi : δ.job? i = some (.waiting ψ)) (hψ : ψ.isReady δ.gate = true) :
    δ.occur (.resume i) = δ.put i (ψ.resume δ.gate) := by
  simp [occur, isReady, Desk.resume, hi, hψ]

/-- A job that goes on has waited, and its wait is over. -/
theorem occur_resume {δ : Desk} {i : Nat} (h : δ.isReady i = true) :
    ∃ ψ, δ.job? i = some (.waiting ψ) ∧ ψ.isReady δ.gate = true ∧
      δ.occur (.resume i) = δ.put i (ψ.resume δ.gate) := by
  unfold isReady at h
  split at h
  next ψ hi => exact ⟨ψ, hi, h, occur_resume_of_waiting hi h⟩
  next => cases h

/-- The job or the opening is not pending, or cannot go on. -/
def IsVain (δ : Desk) : Occurrence → Prop
  | .giveUp i => ∀ ψ, δ.job? i ≠ some (.waiting ψ)
  | .resume i => δ.isReady i = false
  | .proceed => ∀ φ, δ.gate.opening = some φ → φ.isReady δ.gate.world = false
  | _ => False

/-- What an occurrence makes of a desk. -/
inductive Happens (δ : Desk) : Occurrence → Desk → Prop
  | idle {o : Occurrence} (ho : δ.IsVain o) : Happens δ o δ
  | take (d : Demand) : Happens δ (.take d) (δ.take d.order).1
  | giveUp {i : Nat} {ψ : JobPhase} (hi : δ.job? i = some (.waiting ψ)) :
      Happens δ (.giveUp i) (δ.put i (ψ.cancel δ.gate))
  | resume {i : Nat} {ψ : JobPhase} (hi : δ.job? i = some (.waiting ψ))
      (hψ : ψ.isReady δ.gate = true) : Happens δ (.resume i) (δ.put i (ψ.resume δ.gate))
  | act (p : Nat) : Happens δ (.act p) ⟨{ δ.gate with world := δ.gate.world.act p }, δ.jobs⟩
  | proceed {φ : OpenPhase} (ho : δ.gate.opening = some φ)
      (hφ : φ.isReady δ.gate.world = true) : Happens δ .proceed ⟨φ.resume δ.gate, δ.jobs⟩
  | shift (w : World) (β : Database) : Happens δ (.shift w β) (δ.occur (.shift w β))

/-- An occurrence does nothing but what is said of it. -/
theorem happens (δ : Desk) (o : Occurrence) : Happens δ o (δ.occur o) := by
  cases o with
  | take d => exact .take d
  | giveUp i =>
    change Happens δ _ (δ.cancel i)
    unfold Desk.cancel
    split
    next ψ hi => exact .giveUp hi
    next hi => exact .idle hi
  | resume i =>
    cases hr : δ.isReady i with
    | true =>
      obtain ⟨ψ, hi, hψ, hocc⟩ := occur_resume hr
      rw [hocc]
      exact .resume hi hψ
    | false =>
      have hocc : δ.occur (.resume i) = δ := by simp [occur, hr]
      rw [hocc]
      exact .idle hr
  | act p => exact .act p
  | proceed =>
    unfold occur
    dsimp only
    split
    next γ hγ =>
      obtain ⟨φ, ho, hφ, rfl⟩ := resumeOpening?_eq_some_iff.mp hγ
      exact .proceed ho hφ
    next hn => exact .idle fun φ ho ↦ by simpa [resumeOpening?, ho] using hn
  | shift w β => exact .shift w β

end Desk

/-! ## Closings as jobs -/

/-- Where the closing stands that a job has begun. -/
def JobPhase.closing? : JobPhase → Option ClosePhase
  | closing φ => some φ
  | shuttingDown (.closing _ _ φ) => some φ
  | shuttingDown (.overdue _ φ) => some φ
  | shuttingDown (.abandoned φ) => some φ
  | _ => none

/-- A job waits at the point `φ` of a closing. -/
def ClosesAt (π : Working) (φ : ClosePhase) : Prop := ∃ ψ, π = .waiting ψ ∧ ψ.closing? = some φ

/-- A job of a gate in service. -/
def IsServed : Working → Prop
  | .done _ => True
  | .waiting (.connecting _) | .waiting (.running _) => True
  | .waiting (.closing _) | .waiting (.shuttingDown _) => True
  | .waiting _ => False

/-- A closing that has come to `r` is a job that has come to `r'`. -/
structure Wraps (r : Gate × Closing) (r' : Gate × Working) : Prop where
  isKept {b : Prop} {S : Nat → StopPhase → Prop} : r.1.IsKept b S → r'.1.IsKept b S
  withdraws : r.1.Withdraws r'.1
  closings : r'.1.closings = r.1.closings
  closesAt {φ : ClosePhase} : ClosesAt r'.2 φ ↔ r.2 = .waiting φ
  isServed : IsServed r'.2

section Wraps

variable {γ : Gate} {r : Gate × Closing}

/-- A waiting job waits in a closing just where it has one. -/
theorem closesAt_waiting {ψ : JobPhase} {φ : ClosePhase} :
    ClosesAt (.waiting ψ) φ ↔ ψ.closing? = some φ :=
  ⟨by rintro ⟨_, ⟨⟩, h⟩; exact h, fun h ↦ ⟨ψ, rfl, h⟩⟩

/-- A job that is over waits in no closing. -/
theorem not_closesAt_done {ρ : Except Fault Answer} {φ : ClosePhase} :
    ¬ ClosesAt (.done ρ) φ := by
  rintro ⟨_, ⟨⟩, _⟩

/-- A closing goes on at a point of a job. -/
theorem wraps_waiting (γ : Gate) {φ : ClosePhase} {ψ : JobPhase} (h : ψ.closing? = some φ)
    (hs : IsServed (.waiting ψ)) : Wraps (γ, .waiting φ) (γ, .waiting ψ) where
  isKept := id
  withdraws := .refl γ
  closings := rfl
  closesAt := by simp [closesAt_waiting, h]
  isServed := hs

/-- A closing that is over is wrapped by a job that is. -/
theorem wraps_done (γ : Gate) (ρ : Except Fault Unit) (ρ' : Except Fault Answer) :
    Wraps (γ, .done ρ) (γ, .done ρ') where
  isKept := id
  withdraws := .refl γ
  closings := rfl
  closesAt := by simp [not_closesAt_done]
  isServed := trivial

/-- To kill the proxy closes no pool. -/
theorem closings_abort (γ : Gate) : γ.abort.closings = γ.closings := by
  unfold abort
  split
  next s _ => exact closings_withWorld (γ.world.traffic_killChild s)
  next => rfl

/-- A closing that has ended is the end of a shutdown. -/
theorem wraps_settle (γ : Gate) (ρ : Except Fault Unit) (grace : Value) (ε : Ending) :
    Wraps (γ, .done ρ) (ofGate .shuttingDown .truth (γ.settle grace ε)) := by
  have h (r : Event) (hr : r.isClosing = false) (hc : r.isCreation = false)
      (b : Except Fault Answer) :
      Wraps (γ, .done ρ) ((γ.emit r).abort, .done b) :=
    { isKept := fun hγ ↦ by
        refine IsKept.abort ?_
        exact hγ.of_eq rfl rfl rfl rfl fun _ ↦ id
      withdraws := (γ.withdraws_emit hc).trans (withdraws_abort _)
      closings := by simp [closings_abort, hr]
      closesAt := by simp [not_closesAt_done]
      isServed := trivial }
  cases ε with
  | closed => exact wraps_done γ ρ _
  | late => exact h _ rfl rfl _
  | failed φ => exact h _ rfl rfl _

/-- A closing is wrapped by the job that it is. -/
theorem wraps_closing (r : Gate × Closing) :
    Wraps r (ofGate .closing (fun _ ↦ .nothing) r) := by
  obtain ⟨γ, φ | ρ⟩ := r
  · exact wraps_waiting γ rfl trivial
  · exact wraps_done γ ρ _

/-- A shutdown wraps the closing that it waits for. -/
theorem wraps_duringShutdown (r : Gate × Closing) (d : Option Time) (grace : Value) :
    Wraps r (ofGate .shuttingDown .truth (r.1.duringShutdown d grace r.2)) := by
  obtain ⟨γ, φ | ρ | ρ⟩ := r
  · exact wraps_waiting γ rfl trivial
  · unfold duringShutdown
    dsimp only
    split
    · exact wraps_done γ _ _
    · exact wraps_settle γ _ grace _
  · exact wraps_settle γ _ grace _

/-- A shutdown whose time is up wraps the closing that it gives up. -/
theorem wraps_afterExpiry (r : Gate × Closing) (grace : Value) :
    Wraps r (ofGate .shuttingDown .truth (r.1.afterExpiry grace r.2)) := by
  obtain ⟨γ, φ | ρ | ρ⟩ := r
  · exact wraps_waiting γ rfl trivial
  · unfold afterExpiry
    dsimp only
    split <;> exact wraps_settle γ _ grace _
  · exact wraps_settle γ _ grace _

/-- A shutdown that gives up wraps its closing. -/
theorem wraps_afterAbandoning (r : Gate × Closing) :
    Wraps r (ofGate .shuttingDown .truth (r.1.afterAbandoning r.2)) := by
  obtain ⟨γ, φ | ρ⟩ := r
  · exact wraps_waiting γ rfl trivial
  · exact wraps_done γ ρ _

/-- A job that has begun a closing goes on: the closing goes on if it is ready, or is given up. -/
theorem wraps_resume {ψ : JobPhase} {φ : ClosePhase} (h : ψ.closing? = some φ)
    (hr : ψ.isReady γ = true) : ∃ r, (φ.isReady γ = true ∧ r = φ.resume γ ∨ r = φ.cancel γ) ∧
      Wraps r (ψ.resume γ) := by
  unfold JobPhase.closing? at h
  split at h
  case h_1 φ => cases h; exact ⟨_, .inl ⟨hr, rfl⟩, wraps_closing _⟩
  case h_2 d grace φ =>
    cases h
    change ∃ r, _ ∧ Wraps r (ofGate .shuttingDown .truth ((ShutdownPhase.closing d grace φ).resume γ))
    unfold ShutdownPhase.resume
    dsimp only
    split
    next hφ => exact ⟨_, .inl ⟨hφ, rfl⟩, wraps_duringShutdown _ d grace⟩
    next => exact ⟨_, .inr rfl, wraps_afterExpiry _ grace⟩
  case h_3 grace φ => cases h; exact ⟨_, .inl ⟨hr, rfl⟩, wraps_afterExpiry _ grace⟩
  case h_4 φ => cases h; exact ⟨_, .inl ⟨hr, rfl⟩, wraps_afterAbandoning _⟩
  case h_5 => cases h

/-- A job that is given up gives up its closing. -/
theorem wraps_cancel {ψ : JobPhase} {φ : ClosePhase} (h : ψ.closing? = some φ) :
    Wraps (φ.cancel γ) (ψ.cancel γ) := by
  unfold JobPhase.closing? at h
  split at h
  case h_1 φ => cases h; exact wraps_closing _
  case h_2 d grace φ => cases h; exact wraps_afterAbandoning _
  case h_3 grace φ => cases h; exact wraps_afterAbandoning _
  case h_4 φ => cases h; exact wraps_afterAbandoning _
  case h_5 => cases h

/-- A shutdown begins a closing, or it is over. -/
theorem wraps_shutdown (γ : Gate) (grace : Value) : ∃ r, (r = γ.close ∨ ∃ ρ, r = (γ, .done ρ)) ∧
    Wraps r (begin γ (.shutdown grace)) := by
  change ∃ r, _ ∧ Wraps r (ofGate .shuttingDown .truth (γ.shutdown grace))
  unfold shutdown
  split
  next φ _ => exact ⟨(γ, .done (.ok ())), .inr ⟨_, rfl⟩, wraps_settle γ _ grace _⟩
  next =>
    split
    · exact ⟨(γ, .done (.ok ())), .inr ⟨_, rfl⟩, wraps_settle γ _ grace _⟩
    · exact ⟨γ.close, .inl rfl, wraps_duringShutdown _ _ grace⟩

end Wraps

/-- What a closing keeps is kept by the job that wraps it. -/
theorem Wraps.isKept_of_keeps {b : Prop} {S : Nat → StopPhase → Prop} {r : Gate × Closing}
    {r' : Gate × Working} (hw : Wraps r r') (hr : Keeps b S r) :
    r'.1.IsKept b fun s φ ↦ S s φ ∨ ClosesAt r'.2 (.stoppingProxy s φ) :=
  (hw.isKept hr).mono fun _ _ ↦ Or.imp_right hw.closesAt.mp

/-- An opening that a closing waits for is waited for by the job that wraps it. -/
theorem Wraps.awaits {r : Gate × Closing} {r' : Gate × Working} (hw : Wraps r r') {n : Nat}
    (hn : r.1.Awaits n) : r'.1.Awaits n :=
  hn.of_eq hw.withdraws.opened hw.withdraws.opening

/-! ## Callers as jobs -/

/-- A job without a closing has come to `r`: it keeps aloof. -/
structure Asks (γ : Gate) (r : Gate × Working) : Prop where
  aloof : γ.Aloof r.1
  closesAt (φ : ClosePhase) : ¬ ClosesAt r.2 φ
  isServed : IsServed r.2

section Asks

variable {γ : Gate}

/-- A caller that got its answer asks for nothing more. -/
theorem asks_done {δ : Gate} (h : γ.Aloof δ) (ρ : Except Fault Answer) : Asks γ (δ, .done ρ) :=
  ⟨h, fun _ ↦ not_closesAt_done, trivial⟩

/-- A query waits for no closing. -/
theorem asks_running {r : Gate × Running} (h : γ.Aloof r.1) :
    Asks γ (ofGate .running .table r) := by
  obtain ⟨δ, φ | ρ⟩ := r
  · exact ⟨h, fun _ hφ ↦ by simp [ofGate, part, closesAt_waiting, JobPhase.closing?] at hφ, trivial⟩
  · exact asks_done h _

/-- A caller that gets the pool waits for no closing. -/
theorem asks_receive (γ : Gate) (π : Getting) (κ : Caller) : Asks γ (κ.receive γ π) := by
  cases κ with
  | connect =>
    obtain n | ρ := π
    · exact ⟨.refl γ, fun _ hφ ↦ by
        simp [Caller.receive, ofGate, part, closesAt_waiting, JobPhase.closing?] at hφ, trivial⟩
    · exact asks_done (.refl γ) _
  | run ρ => exact asks_running (γ.aloof_afterGetting ρ π)

/-- A caller that goes on waits for no closing. -/
theorem asks_resume {ψ : JobPhase} (h : ψ.closing? = none) (hs : IsServed (.waiting ψ)) :
    Asks γ (ψ.resume γ) := by
  cases ψ with
  | connecting n => exact asks_receive γ (γ.join n) .connect
  | running φ => exact asks_running (φ.aloof_resume γ)
  | closing φ => cases h
  | shuttingDown φ => cases φ <;> cases h
  | _ => exact hs.elim

/-- A caller that gives up waits for no closing. -/
theorem asks_cancel {ψ : JobPhase} (h : ψ.closing? = none) (hs : IsServed (.waiting ψ)) :
    Asks γ (ψ.cancel γ) := by
  cases ψ with
  | connecting n => exact asks_done (.refl γ) _
  | running φ => exact asks_running (φ.aloof_cancel γ)
  | closing φ => cases h
  | shuttingDown φ => cases φ <;> cases h
  | _ => exact hs.elim

end Asks

/-! ## The invariant -/

namespace Desk

/-- The stops under way in closings. -/
def Stopping (δ : Desk) (s : Nat) (φ : StopPhase) : Prop :=
  ∃ π ∈ δ.jobs, ClosesAt π (.stoppingProxy s φ)

/-- Those in closings of other jobs than the one of a number. -/
def StoppingBut (δ : Desk) (i s : Nat) (φ : StopPhase) : Prop :=
  ∃ j π, j ≠ i ∧ δ.job? j = some π ∧ ClosesAt π (.stoppingProxy s φ)

/-- Whatever a closing waits for is pending or has left its result behind, and the gate is kept; if
`b` holds then the supervisor in hand alone may hold a process. -/
structure InService (b : Prop) (δ : Desk) : Prop where
  gate : δ.gate.IsKept b δ.Stopping
  jobs {π : Working} : π ∈ δ.jobs → IsServed π
  awaits {π : Working} {n : Nat} : π ∈ δ.jobs → ClosesAt π (.awaitingOpening n) → δ.gate.Awaits n

variable {b : Prop} {δ : Desk}

/-- Less may be asked of the other supervisors. -/
theorem InService.weaken (h : δ.InService b) : δ.InService False where
  gate := { h.gate with
    custody := { h.gate.custody with
      held := False.elim
      unseen := False.elim } }
  jobs := h.jobs
  awaits := h.awaits

namespace InService

/-- The gate alone has changed. -/
theorem of_gate (h : δ.InService b) {γ : Gate} (hk : γ.IsKept b δ.Stopping)
    (ha : ∀ n, δ.gate.Awaits n → γ.Awaits n) : InService b ⟨γ, δ.jobs⟩ :=
  ⟨hk, h.jobs, fun hπ hn ↦ ha _ (h.awaits hπ hn)⟩

/-- The job of a number has come to a point. -/
theorem put (h : δ.InService b) {i : Nat} {r : Gate × Working}
    (hk : r.1.IsKept b fun s φ ↦ δ.StoppingBut i s φ ∨ ClosesAt r.2 (.stoppingProxy s φ))
    (hs : IsServed r.2) (ha : ∀ n, δ.gate.Awaits n → r.1.Awaits n)
    (hn : ∀ n, ClosesAt r.2 (.awaitingOpening n) → r.1.Awaits n) : (δ.put i r).InService b := by
  have hmem {π : Working} (hπ : π ∈ (δ.put i r).jobs) :
      (∃ j, j ≠ i ∧ δ.job? j = some π) ∨ π = r.2 := by
    obtain ⟨j, hj⟩ := List.mem_iff_getElem?.mp hπ
    exact (job?_put_cases hj).imp (⟨j, ·⟩) And.right
  refine ⟨hk.mono fun s φ ↦ ?_, fun hπ ↦ ?_, fun hπ hφ ↦ ?_⟩
  · rintro ⟨π, hπ, hφ⟩
    obtain ⟨j, hj, hπ⟩ | rfl := hmem hπ
    · exact .inl ⟨j, π, hj, hπ, hφ⟩
    · exact .inr hφ
  · obtain ⟨j, -, hπ⟩ | rfl := hmem hπ
    · exact h.jobs (List.mem_of_getElem? hπ)
    · exact hs
  · obtain ⟨j, -, hπ⟩ | rfl := hmem hπ
    · exact ha _ (h.awaits (List.mem_of_getElem? hπ) hφ)
    · exact hn _ hφ

/-- One more job has come to a point. -/
theorem append (h : δ.InService b) {r : Gate × Working}
    (hk : r.1.IsKept b fun s φ ↦ δ.Stopping s φ ∨ ClosesAt r.2 (.stoppingProxy s φ))
    (hs : IsServed r.2) (ha : ∀ n, δ.gate.Awaits n → r.1.Awaits n)
    (hn : ∀ n, ClosesAt r.2 (.awaitingOpening n) → r.1.Awaits n) :
    InService b ⟨r.1, δ.jobs ++ [r.2]⟩ := by
  refine ⟨hk.mono fun s φ ↦ ?_, fun hπ ↦ ?_, fun hπ hφ ↦ ?_⟩
  · rintro ⟨π, hπ, hφ⟩
    rcases List.mem_append.mp hπ with hπ | hπ
    · exact .inl ⟨π, hπ, hφ⟩
    · exact .inr (List.mem_singleton.mp hπ ▸ hφ)
  · rcases List.mem_append.mp hπ with hπ | hπ
    · exact h.jobs hπ
    · exact List.mem_singleton.mp hπ ▸ hs
  · rcases List.mem_append.mp hπ with hπ | hπ
    · exact ha _ (h.awaits hπ hφ)
    · exact hn _ (List.mem_singleton.mp hπ ▸ hφ)

end InService

/-- A stop is under way in a job, or in another one. -/
theorem stopping_iff {i : Nat} {π : Working} (hi : δ.job? i = some π) {s : Nat} {φ : StopPhase} :
    δ.Stopping s φ ↔ δ.StoppingBut i s φ ∨ ClosesAt π (.stoppingProxy s φ) := by
  constructor
  · rintro ⟨ψ, hψ, hφ⟩
    obtain ⟨j, hj⟩ := List.mem_iff_getElem?.mp hψ
    by_cases hji : j = i
    · have hψ : ψ = π := Option.some_inj.mp (hj.symm.trans (hji ▸ hi))
      exact .inr (hψ ▸ hφ)
    · exact .inl ⟨j, ψ, hji, hj, hφ⟩
  · rintro (⟨j, ψ, -, hj, hφ⟩ | hφ)
    · exact ⟨ψ, List.mem_of_getElem? hj, hφ⟩
    · exact ⟨π, List.mem_of_getElem? hi, hφ⟩

/-- No closing can go on. -/
def Rests (δ : Desk) : Prop :=
  ∀ i π φ, δ.job? i = some π → ClosesAt π φ → δ.isReady i = false

/-- Whoever comes finds no closing that can go on. -/
def IsTimely (δ : Desk) (o : Occurrence) : Prop := ∀ d, o = .take d → δ.Rests

/-- If no job can go on then no closing can. -/
theorem IsCalm.isTimely {o : Occurrence} (h : δ.IsCalm o) : δ.IsTimely o :=
  fun d hd i _ _ _ _ ↦ isReady_eq_false_of_isQuiet (h d hd) i

/-- The stop of a closing that cannot go on has not seen the end of its process. -/
theorem Rests.hasSeen (h : δ.Rests) {s : Nat} {φ : StopPhase} (hφ : δ.Stopping s φ) :
    δ.gate.world.hasSeen φ.child = false := by
  obtain ⟨π, hπ, hφ⟩ := hφ
  obtain ⟨i, hi⟩ := List.mem_iff_getElem?.mp hπ
  have hr := h i π _ hi hφ
  obtain ⟨ψ, rfl, hψ⟩ := hφ
  rw [isReady, job?, hi] at hr
  have hr : φ.isReady δ.gate.world = false := by
    unfold JobPhase.closing? at hψ
    split at hψ
    all_goals cases hψ
    · exact hr
    · exact (Bool.or_eq_false_iff.mp hr).1
    · exact hr
    · exact hr
  cases φ with
  | grace p t => exact (Bool.or_eq_false_iff.mp hr).1
  | killed p => exact hr

/-- The gate as the closing of a job finds it. -/
theorem InService.isKept_adds (h : δ.InService b) {i : Nat} {ψ : JobPhase} {φ : ClosePhase}
    (hi : δ.job? i = some (.waiting ψ)) (hψ : ψ.closing? = some φ) :
    δ.gate.IsKept b (Adds (α := Unit) (δ.StoppingBut i) (.waiting φ)) := by
  refine h.gate.mono fun s χ ↦ ?_
  rintro (⟨j, π, -, hπ, hχ⟩ | hχ)
  · exact ⟨π, List.mem_of_getElem? hπ, hχ⟩
  · cases hχ
    exact ⟨_, List.mem_of_getElem? hi, closesAt_waiting.mpr hψ⟩

/-- A job without a closing leaves the gate in service. -/
theorem InService.put_of_asks (h : δ.InService b) (i : Nat) {r : Gate × Working}
    (hr : Asks δ.gate r) : (δ.put i r).InService b := by
  have hk : δ.gate.IsKept b (δ.StoppingBut i) :=
    h.gate.mono fun s φ ⟨_, π, _, hπ, hφ⟩ ↦ ⟨π, List.mem_of_getElem? hπ, hφ⟩
  have ha := hr.aloof
  refine h.put ?_ hr.isServed (fun n hn ↦ hn.of_eq ha.opened ha.opening)
    fun n hn ↦ absurd hn (hr.closesAt _)
  refine (hk.of_eq ha.children ha.supervisors ha.proxy ha.opening fun p hp ↦ ha.pool ▸ hp).mono ?_
  exact fun s φ hφ ↦ hφ.resolve_right (hr.closesAt _)

/-- A closing is given up. -/
theorem InService.put_of_cancel (h : δ.InService b) {i : Nat} {ψ : JobPhase} {φ : ClosePhase}
    (hi : δ.job? i = some (.waiting ψ)) (hψ : ψ.closing? = some φ) {r' : Gate × Working}
    (hw : Wraps (φ.cancel δ.gate) r') : (δ.put i r').InService b := by
  have ha (n : Nat) (hn : δ.gate.Awaits n) : r'.1.Awaits n := hw.awaits (hn.cancel φ)
  refine h.put (hw.isKept_of_keeps (h.isKept_adds hi hψ).keeps_cancel) hw.isServed ha ?_
  intro n hn
  have hφ := ClosePhase.eq_of_cancel (hw.closesAt.mp hn)
  exact ha n (h.awaits (List.mem_of_getElem? hi) (closesAt_waiting.mpr (hφ ▸ hψ)))

/-- A closing goes on in time. -/
theorem InService.put_of_resume (h : δ.InService b) {i : Nat} {ψ : JobPhase} {φ : ClosePhase}
    (hi : δ.job? i = some (.waiting ψ)) (hψ : ψ.closing? = some φ) {r' : Gate × Working}
    (hr : φ.isReady δ.gate = true) (hw : Wraps (φ.resume δ.gate) r') : (δ.put i r').InService b := by
  have hd := φ.withdraws_resume δ.gate
  have ha (n : Nat) (hn : δ.gate.Awaits n) : r'.1.Awaits n :=
    hw.awaits (hn.of_eq hd.opened hd.opening)
  refine h.put (hw.isKept_of_keeps ((h.isKept_adds hi hψ).keeps_resume hr)) hw.isServed ha ?_
  intro n hn
  have hφ := ClosePhase.eq_of_resume (hw.closesAt.mp hn)
  exact ha n (h.awaits (List.mem_of_getElem? hi) (closesAt_waiting.mpr (hφ ▸ hψ)))

/-- A job is given up. -/
theorem InService.put_cancel (h : δ.InService b) {i : Nat} {ψ : JobPhase}
    (hi : δ.job? i = some (.waiting ψ)) : (δ.put i (ψ.cancel δ.gate)).InService b := by
  cases hψ : ψ.closing? with
  | none => exact h.put_of_asks i (asks_cancel hψ (h.jobs (List.mem_of_getElem? hi)))
  | some φ => exact h.put_of_cancel hi hψ (wraps_cancel hψ)

/-- A job goes on in time. -/
theorem InService.put_resume (h : δ.InService b) {i : Nat} {ψ : JobPhase}
    (hi : δ.job? i = some (.waiting ψ)) (hr : ψ.isReady δ.gate = true) :
    (δ.put i (ψ.resume δ.gate)).InService b := by
  cases hψ : ψ.closing? with
  | none => exact h.put_of_asks i (asks_resume hψ (h.jobs (List.mem_of_getElem? hi)))
  | some φ =>
    obtain ⟨r, ⟨hφ, rfl⟩ | rfl, hw⟩ := wraps_resume hψ hr
    · exact h.put_of_resume hi hψ hφ hw
    · exact h.put_of_cancel hi hψ hw

/-- A caller comes, and begins an opening if there is neither a pool nor an opening. -/
theorem InService.getPool (h : δ.InService b) (hq : b → δ.Rests) :
    δ.gate.getPool.1.IsKept b δ.Stopping ∧ ∀ n, δ.gate.Awaits n → δ.gate.getPool.1.Awaits n := by
  unfold Gate.getPool
  split
  · exact ⟨h.gate, fun n ↦ id⟩
  next hp =>
    dsimp only
    split
    · exact ⟨h.gate, fun n ↦ id⟩
    next ho =>
      have ho : δ.gate.opening = none := by simpa using ho
      exact ⟨h.gate.beginOpening hp ho fun hb _ _ ↦ (hq hb).hasSeen,
        fun n hn ↦ hn.of_advances δ.gate.advances_beginOpening⟩

/-- The gate is to be closed or shut down. -/
theorem InService.takeClosing (h : δ.InService b) {ω : Order} {r : Gate × Closing}
    (hr : r = δ.gate.close ∨ ∃ ρ, r = (δ.gate, .done ρ)) (hw : Wraps r (begin δ.gate ω)) :
    (δ.take ω).1.InService b := by
  obtain rfl | ⟨ρ, rfl⟩ := hr
  · have hd := δ.gate.withdraws_close
    refine h.append (hw.isKept_of_keeps h.gate.keeps_close) hw.isServed
      (fun n hn ↦ hw.awaits (hn.of_eq hd.opened hd.opening)) fun n hn ↦ ?_
    obtain ⟨rfl, hγ, ho⟩ := eq_of_close (hw.closesAt.mp hn)
    refine hw.awaits ?_
    rw [hγ]
    exact fun _ ↦ ⟨rfl, ho⟩
  · refine h.append (hw.isKept_of_keeps (h.gate.keeps (by simp))) hw.isServed
      (fun n hn ↦ hw.awaits hn) fun n hn ↦ ?_
    cases hw.closesAt.mp hn

/-- A closing that comes leaves the gate in service. -/
theorem InService.takeClose (h : δ.InService b) : (δ.take .close).1.InService b :=
  h.takeClosing (.inl rfl) (wraps_closing δ.gate.close)

/-- A shutdown that comes leaves the gate in service. -/
theorem InService.takeShutdown (h : δ.InService b) (grace : Value) :
    (δ.take (.shutdown grace)).1.InService b := by
  obtain ⟨r, hr, hw⟩ := wraps_shutdown δ.gate grace
  exact h.takeClosing hr hw

/-- Whatever a gate in service is asked for, it stays in service. -/
theorem InService.take (h : δ.InService b) (hq : b → δ.Rests) (d : Demand) :
    (δ.take d.order).1.InService b := by
  cases d with
  | pool κ =>
    change InService b ⟨(begin δ.gate κ.order).1, δ.jobs ++ [(begin δ.gate κ.order).2]⟩
    rw [Caller.begin_order]
    obtain ⟨hk, ha⟩ := h.getPool hq
    have hr := asks_receive δ.gate.getPool.1 δ.gate.getPool.2 κ
    have hg := hr.aloof
    refine h.append ?_ hr.isServed (fun n hn ↦ (ha n hn).of_eq hg.opened hg.opening)
      fun n hn ↦ absurd hn (hr.closesAt _)
    refine (hk.of_eq hg.children hg.supervisors hg.proxy hg.opening fun p hp ↦ hg.pool ▸ hp).mono ?_
    exact fun s φ hφ ↦ hφ.resolve_right (hr.closesAt _)
  | close => exact h.takeClose
  | shutdown grace => exact h.takeShutdown grace

/-- Whatever happens, a gate in service stays so. -/
theorem InService.occur (h : δ.InService b) {o : Occurrence} (ho : b → δ.IsTimely o) :
    (δ.occur o).InService b := by
  have hm := δ.happens o
  generalize δ.occur o = ε at hm
  cases hm with
  | idle => exact h
  | take d => exact h.take (fun hb ↦ ho hb d rfl) d
  | giveUp hi => exact h.put_cancel hi
  | resume hi hψ => exact h.put_resume hi hψ
  | act p => exact h.of_gate (h.gate.act p) fun n hn ↦ hn.of_eq rfl rfl
  | @proceed φ hφ =>
    exact h.of_gate (h.gate.resumeOpening hφ) fun n hn ↦ hn.of_advances (φ.advances_resume _)
  | shift w β =>
    exact h.of_gate (h.gate.of_eq rfl rfl rfl rfl fun _ ↦ id) fun n hn ↦ hn.of_eq rfl rfl

/-! ## What happens beside a job -/

/-- No other job than the one of a number has begun a closing that has not ended. -/
def Alone (δ : Desk) (i : Nat) : Prop :=
  ∀ j π φ, j ≠ i → δ.job? j = some π → ¬ ClosesAt π φ

/-- A job without a closing leaves another one alone. -/
theorem Alone.put {i : Nat} (h : δ.Alone i) (j : Nat) {r : Gate × Working}
    (hr : ∀ φ, ¬ ClosesAt r.2 φ) : (δ.put j r).Alone i := by
  intro k π φ hk hπ
  obtain ⟨-, hπ⟩ | ⟨-, rfl⟩ := job?_put_cases hπ
  · exact h k π φ hk hπ
  · exact hr φ

/-- What happens beside a job begins nothing, and keeps the books if no other closing is under
way. -/
structure Aside (i : Nat) (δ ε : Desk) : Prop where
  subsides : δ.gate.Subsides ε.gate
  job : ε.job? i = δ.job? i
  alone : δ.Alone i → ε.Alone i
  balances : δ.Alone i → δ.gate.Balances ε.gate

/-- Nothing happens beside a job if nothing happens. -/
theorem Aside.refl (i : Nat) (δ : Desk) : Aside i δ δ :=
  ⟨(Withdraws.refl _).subsides, rfl, id, fun _ ↦ (Aloof.refl _).balances⟩

/-- What the gate does beside a job has to subside and keep the books. -/
theorem aside_of_gate (i : Nat) {γ : Gate} (hs : δ.gate.Subsides γ) (hb : δ.gate.Balances γ) :
    Aside i δ ⟨γ, δ.jobs⟩ := ⟨hs, rfl, id, fun _ ↦ hb⟩

/-- A caller goes on or gives up. -/
theorem aside_of_asks {i j : Nat} (hj : j ≠ i) {r : Gate × Working} (hr : Asks δ.gate r) :
    Aside i δ (δ.put j r) :=
  ⟨hr.aloof.subsides, job?_put_of_ne hj r, fun h ↦ h.put j hr.closesAt,
    fun _ ↦ hr.aloof.balances⟩

/-- Another closing goes on or is given up. -/
theorem aside_of_closing {i j : Nat} (hj : j ≠ i) {π : Working} (hπ : δ.job? j = some π)
    {φ : ClosePhase} (hφ : ClosesAt π φ) {r : Gate × Working} (hr : δ.gate.Subsides r.1) :
    Aside i δ (δ.put j r) :=
  ⟨hr, job?_put_of_ne hj r, fun h ↦ absurd hφ (h j π φ hj hπ),
    fun h ↦ absurd hφ (h j π φ hj hπ)⟩

/-- A job that is given up goes aside. -/
theorem InService.aside_cancel (h : δ.InService b) {i j : Nat} (hj : j ≠ i) {ψ : JobPhase}
    (hψ : δ.job? j = some (.waiting ψ)) : Aside i δ (δ.put j (ψ.cancel δ.gate)) := by
  cases hc : ψ.closing? with
  | none => exact aside_of_asks hj (asks_cancel hc (h.jobs (List.mem_of_getElem? hψ)))
  | some φ =>
    have hw := wraps_cancel (γ := δ.gate) hc
    exact aside_of_closing hj hψ (closesAt_waiting.mpr hc)
      ((φ.subsides_cancel δ.gate).trans hw.withdraws.subsides)

/-- A job that goes on goes aside. -/
theorem InService.aside_resume (h : δ.InService b) {i j : Nat} (hj : j ≠ i) {ψ : JobPhase}
    (hψ : δ.job? j = some (.waiting ψ)) (hr : ψ.isReady δ.gate = true) :
    Aside i δ (δ.put j (ψ.resume δ.gate)) := by
  cases hc : ψ.closing? with
  | none => exact aside_of_asks hj (asks_resume hc (h.jobs (List.mem_of_getElem? hψ)))
  | some φ =>
    obtain ⟨r, hr, hw⟩ := wraps_resume hc hr
    have hs : δ.gate.Subsides r.1 := by
      obtain ⟨-, rfl⟩ | rfl := hr
      · exact (φ.withdraws_resume δ.gate).subsides
      · exact φ.subsides_cancel δ.gate
    exact aside_of_closing hj hψ (closesAt_waiting.mpr hc) (hs.trans hw.withdraws.subsides)

/-- Nobody comes, and another job or the opening goes on: this happens aside. -/
theorem InService.aside (h : δ.InService b) {i : Nat} {o : Occurrence} (ht : ∀ d, o ≠ .take d)
    (hg : o ≠ .giveUp i) (hr : o ≠ .resume i) : Aside i δ (δ.occur o) := by
  have hm := δ.happens o
  generalize δ.occur o = ε at hm
  cases hm with
  | idle => exact .refl i δ
  | take d => exact absurd rfl (ht d)
  | giveUp hj => exact h.aside_cancel (by rintro rfl; exact hg rfl) hj
  | resume hj hψ => exact h.aside_resume (by rintro rfl; exact hr rfl) hj hψ
  | act p => exact aside_of_gate i (δ.gate.subsides_act p) (δ.gate.balances_act p)
  | proceed hφ => exact aside_of_gate i (OpenPhase.subsides_resume hφ) (h.gate.balances_resume hφ)
  | shift w β =>
    exact aside_of_gate i (subsides_of_eq rfl rfl rfl rfl (·.of_eq rfl)) (balances_of_eq rfl rfl rfl rfl)

end Desk

/-! ## New gates -/

/-- A gate that has done nothing yet, in a world without supervisors and processes. -/
structure IsNew (γ : Gate) : Prop where
  pool : γ.pool = none
  proxy : γ.proxy = none
  opening : γ.opening = none
  supervisors : γ.world.supervisors = []
  children : γ.world.children = []

/-- A new gate is in service. -/
theorem IsNew.inService {γ : Gate} (h : IsNew γ) : (Desk.mk γ []).InService b where
  gate := by
    have hχ (p : Nat) : ¬ p < γ.world.children.length := by simp [h.children]
    have hσ (s : Nat) : γ.world.supervisor s = default := by simp [World.supervisor, h.supervisors]
    have hin : γ.inHand = none := by rw [inHand, h.opening, h.proxy]
    have hS (s : Nat) (φ : StopPhase) :
        ¬ ((Desk.mk γ []).Stopping s φ ∨ γ.Unwinds s φ) := by
      rintro (⟨π, ⟨⟩, -⟩ | ⟨c, hc⟩)
      rw [h.opening] at hc
      cases hc
    refine
      { custody := ?_
        starting := fun ho ↦ by rw [h.opening] at ho; cases ho
        unwinding := fun _ ht ↦ by rw [h.proxy] at ht; cases ht
        settled := fun _ ↦ h.opening }
    constructor
    case order => exact fun hs ↦ by simp [h.supervisors] at hs
    case owner => exact fun hp ↦ absurd hp (hχ _)
    case inHand => exact fun hs ↦ by rw [hin] at hs; cases hs
    case held => exact fun _ hp ↦ by rw [hσ] at hp; cases hp
    case known | knows => exact fun hφ ↦ absurd hφ (hS _ _)
    case unseen => exact fun _ hφ ↦ absurd hφ (hS _ _)
  jobs := by rintro π ⟨⟩
  awaits := by rintro π n ⟨⟩

/-- Settings that have the proxy used. -/
def proxySettings : Settings.Sources where
  arguments := [("cloud_sql_proxy_enabled", .bool true), ("cloud_sql_instance", .text "p:r:i"),
    ("cloud_sql_proxy_binary", .text "/proxy")]

/-- A new gate on a machine that has the proxy, with processes to come that behave as laid down. -/
def newGate (σ : Settings) (βs : List Child.Behaviour) : Gate where
  world :=
    { site :=
        { host := ⟨"linux", "x64"⟩
          store := ⟨[(["/", "proxy"], .file 0o755 ⟨#[]⟩)]⟩ }
      behaviours := βs }
  settings := σ

/-- The new gate is new. -/
theorem isNew_newGate (σ : Settings) (βs : List Child.Behaviour) : IsNew (newGate σ βs) :=
  ⟨rfl, rfl, rfl, rfl, rfl⟩

end Sluice.Server
