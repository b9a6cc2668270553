import Sluice.Gate.Call
import Sluice.Gate.Close
import Sluice.Proofs.Proxy.Traffic

/-!
# Statements that reach the database

The driver is handed a statement in one place, where a query is run (`abides_run`).  Whatever else a
gate does is quiet: it opens and closes, starts and stops the proxy, gives queries up and hands out
their results without a statement of its own.
-/

namespace Sluice

/-- A statement as the driver is handed it, with its parameters if it has any. -/
structure Statement where
  text : String
  params : Option (List Value) := none

/-- The statement that an event hands to the driver. -/
def Event.statement? : Event → Option Statement
  | query s params => some ⟨s, params⟩
  | _ => none

/-- A statement is a dealing with the database. -/
theorem filterMap_statement?_traffic (εs : List Event) :
    (traffic εs).filterMap Event.statement? = εs.filterMap Event.statement? := by
  rw [traffic, List.filterMap_filter]
  congr 1
  funext ε
  cases ε <;> rfl

namespace Gate

open Proxy

/-- The statements that the driver was handed so far. -/
def statements (γ : Gate) : List Statement := γ.world.events.filterMap Event.statement?

/-- The statements are told by the dealings with the database alone. -/
theorem statements_eq (γ : Gate) :
    γ.statements = γ.world.traffic.filterMap Event.statement? :=
  (filterMap_statement?_traffic _).symm

/-- Work from `γ` to `δ` that hands the driver no statement. -/
structure Quiet (γ δ : Gate) : Prop where
  settings : δ.settings = γ.settings
  statements : δ.statements = γ.statements

/-- Work from `γ` to `δ` that hands the driver no other statements than `P` permits. -/
structure Sends (P : Statement → Prop) (γ δ : Gate) : Prop where
  settings : δ.settings = γ.settings
  statements : ∃ σs, δ.statements = γ.statements ++ σs ∧ ∀ σ ∈ σs, P σ

theorem Quiet.refl (γ : Gate) : γ.Quiet γ := ⟨rfl, rfl⟩

/-- Quiet work in two parts is quiet. -/
theorem Quiet.trans {γ δ ε : Gate} (h : γ.Quiet δ) (h' : δ.Quiet ε) : γ.Quiet ε :=
  ⟨h'.settings.trans h.settings, h'.statements.trans h.statements⟩

/-- Quiet work hands over nothing, which whatever permits. -/
theorem Quiet.sends {P : Statement → Prop} {γ δ : Gate} (h : γ.Quiet δ) : γ.Sends P δ :=
  ⟨h.settings, [], by rw [h.statements, List.append_nil], by simp⟩

/-- Work in two parts sends what either part sends. -/
theorem Sends.trans {P : Statement → Prop} {γ δ ε : Gate} (h : γ.Sends P δ) (h' : δ.Sends P ε) :
    γ.Sends P ε := by
  obtain ⟨σs, hσ, hσP⟩ := h.statements
  obtain ⟨τs, hτ, hτP⟩ := h'.statements
  refine ⟨h'.settings.trans h.settings, σs ++ τs, by rw [hτ, hσ, List.append_assoc], ?_⟩
  intro σ hm
  rcases List.mem_append.mp hm with hm | hm
  · exact hσP σ hm
  · exact hτP σ hm

/-- More may be permitted. -/
theorem Sends.mono {P Q : Statement → Prop} {γ δ : Gate} (h : γ.Sends P δ)
    (hPQ : ∀ σ, P σ → Q σ) : γ.Sends Q δ := by
  obtain ⟨σs, hσ, hP⟩ := h.statements
  exact ⟨h.settings, σs, hσ, fun σ hm ↦ hPQ σ (hP σ hm)⟩

/-! ## The gate itself -/

/-- Work of the world that deals with no database is quiet. -/
theorem quiet_withWorld {γ : Gate} {w : World} (h : w.traffic = γ.world.traffic) :
    γ.Quiet { γ with world := w } :=
  ⟨rfl, by rw [statements_eq, statements_eq, h]⟩

/-- To make a record is quiet, unless this is a statement. -/
theorem quiet_emit (γ : Gate) {ε : Event} (h : ε.statement? = none) : γ.Quiet (γ.emit ε) :=
  ⟨rfl, by simp [statements, emit, onWorld, World.emit, h]⟩

theorem quiet_log (γ : Gate) (ι : Level) (κ : Logger) (s : String) : γ.Quiet (γ.log ι κ s) :=
  γ.quiet_emit rfl

theorem quiet_onPool (γ : Gate) (p : Nat) (f : Pool → Pool) : γ.Quiet (γ.onPool p f) := ⟨rfl, rfl⟩

/-- To tell the pool to close is quiet. -/
theorem quiet_closePool (γ : Gate) : γ.Quiet γ.closePool.1 :=
  ((γ.quiet_emit rfl).trans (quiet_emit _ rfl)).trans ⟨rfl, rfl⟩

/-- To kill the proxy is quiet. -/
theorem quiet_abort (γ : Gate) : γ.Quiet γ.abort := by
  unfold abort
  split
  next s _ => exact quiet_withWorld (γ.world.traffic_killChild s)
  next => exact .refl γ

/-! ## Openings -/

theorem quiet_conclude (γ : Gate) (r : Except Fault Nat) : γ.Quiet (γ.conclude r) := ⟨rfl, rfl⟩

theorem quiet_await (γ : Gate) (φ : OpenPhase) : γ.Quiet (γ.await φ) := ⟨rfl, rfl⟩

/-- However the supervisor of a failed opening is stopped, this is quiet. -/
theorem quiet_afterUnwinding (γ : Gate) (s : Nat) (cause : Fault) (π : Stopping) :
    γ.Quiet (γ.afterUnwinding s cause π) := by
  unfold afterUnwinding
  split <;> exact ⟨rfl, rfl⟩

/-- To undo an opening is quiet. -/
theorem quiet_unwindProxy (γ : Gate) (cause : Fault) : γ.Quiet (γ.unwindProxy cause) := by
  unfold unwindProxy
  split
  next => exact γ.quiet_conclude _
  next s _ =>
    exact (quiet_withWorld (γ.world.traffic_stop s)).trans (quiet_afterUnwinding ..)

/-- A pool that did not answer is closed quietly. -/
theorem quiet_afterPoolClosed (γ : Gate) (cause : Fault) (o : Option Fault) :
    γ.Quiet (γ.afterPoolClosed cause o) := by
  cases o with
  | some φ => exact γ.quiet_conclude _
  | none => exact γ.quiet_unwindProxy _

/-- What follows the first question to the database is quiet. -/
theorem quiet_afterPing (γ : Gate) (τ : Target) (p : Nat) (o : Option Fault) :
    γ.Quiet (γ.afterPing τ p o) := by
  cases o with
  | some φ =>
    unfold afterPing
    dsimp only
    split
    · exact γ.quiet_closePool.trans (quiet_afterPoolClosed ..)
    · exact γ.quiet_closePool.trans (quiet_await ..)
  | none =>
    have h : γ.Quiet { γ with pool := some p } := ⟨rfl, rfl⟩
    exact h.trans ((quiet_log ..).trans (quiet_conclude ..))

/-- What follows the request for a pool is quiet. -/
theorem quiet_afterConnect (γ : Gate) (τ : Target) (o : Option Fault) :
    γ.Quiet (γ.afterConnect τ o) := by
  cases o with
  | some φ => exact γ.quiet_unwindProxy _
  | none =>
    have h : γ.Quiet { γ.emit .ping with
        pools := γ.pools ++ [Pool.fresh]
        database.pings := γ.database.pings.tail } := (γ.quiet_emit rfl).trans ⟨rfl, rfl⟩
    unfold afterConnect
    dsimp only
    split
    · exact h.trans (quiet_afterPing ..)
    · exact h.trans (quiet_await ..)

/-- To ask for a pool is quiet. -/
theorem quiet_createPool (γ : Gate) : γ.Quiet γ.createPool := by
  unfold createPool
  dsimp only
  split
  next φ _ => exact γ.quiet_afterConnect ..
  next t _ =>
    have h : γ.Quiet { γ.emit (.createPool (poolOptions γ.settings γ.target t)) with
        database.connects := γ.database.connects.tail } := (γ.quiet_emit rfl).trans ⟨rfl, rfl⟩
    split
    · exact h.trans (quiet_afterConnect ..)
    · exact h.trans (quiet_await ..)

/-- What follows the start of the proxy is quiet. -/
theorem quiet_afterStart (γ : Gate) (s : Nat) (π : Starting) : γ.Quiet (γ.afterStart s π) := by
  unfold afterStart
  split
  · exact γ.quiet_await _
  · have h : γ.Quiet { γ with proxy := some s } := ⟨rfl, rfl⟩
    exact h.trans (quiet_createPool _)
  · exact γ.quiet_conclude _

/-- An opening begins quietly. -/
theorem quiet_beginOpening (γ : Gate) : γ.Quiet γ.beginOpening := by
  unfold beginOpening
  split
  · split
    next φ _ => exact γ.quiet_conclude _
    next κ _ =>
      have h := (World.traffic_start _ γ.world.supervisors.length).trans
        (γ.world.traffic_addSupervisor κ)
      exact (quiet_withWorld h).trans (quiet_afterStart ..)
  · exact γ.quiet_createPool

/-- An opening goes on quietly. -/
theorem OpenPhase.quiet_resume (γ : Gate) (φ : OpenPhase) : γ.Quiet (φ.resume γ) := by
  cases φ with
  | starting s φ =>
    exact (quiet_withWorld (φ.traffic_resume s γ.world)).trans (quiet_afterStart ..)
  | connecting τ t o => exact γ.quiet_afterConnect ..
  | pinging τ p t o => exact γ.quiet_afterPing ..
  | unwindingPool t o cause => exact γ.quiet_afterPoolClosed ..
  | unwindingProxy s φ cause =>
    exact (quiet_withWorld (φ.traffic_resume s γ.world)).trans (quiet_afterUnwinding ..)

/-- An opening is given up quietly. -/
theorem OpenPhase.quiet_cancel (γ : Gate) (φ : OpenPhase) : γ.Quiet (φ.cancel γ) := by
  cases φ with
  | starting s φ =>
    exact (quiet_withWorld (φ.traffic_cancel s γ.world)).trans (quiet_afterStart ..)
  | connecting τ t o => exact γ.quiet_conclude _
  | pinging τ p t o => exact γ.quiet_conclude _
  | unwindingPool t o cause => exact γ.quiet_conclude _
  | unwindingProxy s φ cause =>
    exact (quiet_withWorld (StopPhase.traffic_cancel s γ.world)).trans
      (quiet_afterUnwinding _ s cause (StopPhase.cancel s γ.world).2)

theorem quiet_cancelOpening (γ : Gate) : γ.Quiet γ.cancelOpening := by
  unfold cancelOpening
  split
  next φ _ => exact φ.quiet_cancel γ
  next => exact .refl γ

/-- Whoever asks for the pool does so quietly. -/
theorem quiet_getPool (γ : Gate) : γ.Quiet γ.getPool.1 := by
  unfold getPool
  split
  · exact .refl γ
  · dsimp only
    split
    · exact .refl γ
    · exact γ.quiet_beginOpening

/-! ## Closings -/

theorem quiet_afterStop (γ : Gate) (s : Nat) (π : Stopping) : γ.Quiet (γ.afterStop s π).1 := by
  unfold afterStop
  split <;> exact ⟨rfl, rfl⟩

/-- To stop the proxy is quiet. -/
theorem quiet_stopProxy (γ : Gate) : γ.Quiet γ.stopProxy.1 := by
  unfold stopProxy
  split
  next => exact .refl γ
  next s _ => exact (quiet_withWorld (γ.world.traffic_stop s)).trans (quiet_afterStop ..)

theorem quiet_afterClosingPool (γ : Gate) (o : Option Fault) :
    γ.Quiet (γ.afterClosingPool o).1 := by
  cases o with
  | some φ => exact .refl γ
  | none =>
    have h : γ.Quiet { γ with pool := none } := ⟨rfl, rfl⟩
    exact h.trans ((quiet_log ..).trans (quiet_stopProxy _))

/-- To let go of the pool and of the proxy is quiet. -/
theorem quiet_release (γ : Gate) : γ.Quiet γ.release.1 := by
  unfold release
  split
  · exact γ.quiet_stopProxy
  · dsimp only
    split
    · exact γ.quiet_closePool.trans (quiet_afterClosingPool ..)
    · exact γ.quiet_closePool

theorem quiet_afterOpening (γ : Gate) (r : Except Fault Nat) : γ.Quiet (γ.afterOpening r).1 := by
  cases r with
  | ok p => exact γ.quiet_release
  | error φ =>
    unfold afterOpening
    dsimp only
    split
    · exact .refl γ
    · exact (γ.quiet_log ..).trans (quiet_release _)

theorem quiet_awaitOpening (γ : Gate) (n : Nat) : γ.Quiet (γ.awaitOpening n).1 := by
  unfold awaitOpening
  split
  · exact γ.quiet_afterOpening _
  · exact .refl γ

/-- A closing begins quietly. -/
theorem quiet_close (γ : Gate) : γ.Quiet γ.close.1 := by
  unfold close
  split
  · exact γ.quiet_awaitOpening _
  · exact γ.quiet_release

/-- A closing goes on quietly. -/
theorem ClosePhase.quiet_resume (γ : Gate) (φ : ClosePhase) : γ.Quiet (φ.resume γ).1 := by
  cases φ with
  | awaitingOpening n => exact γ.quiet_awaitOpening n
  | awaitingPool t o => exact γ.quiet_afterClosingPool o
  | stoppingProxy s φ =>
    exact (quiet_withWorld (φ.traffic_resume s γ.world)).trans (quiet_afterStop ..)

/-- A closing is given up quietly. -/
theorem ClosePhase.quiet_cancel (γ : Gate) (φ : ClosePhase) : γ.Quiet (φ.cancel γ).1 := by
  cases φ with
  | awaitingOpening n => exact γ.quiet_cancelOpening.trans (quiet_awaitOpening ..)
  | awaitingPool t o => exact .refl γ
  | stoppingProxy s φ =>
    exact (quiet_withWorld (StopPhase.traffic_cancel s γ.world)).trans
      (quiet_afterStop _ s (StopPhase.cancel s γ.world).2)

/-! ## Shutdowns -/

theorem quiet_settle (γ : Gate) (grace : Value) (ε : Ending) : γ.Quiet (γ.settle grace ε).1 := by
  cases ε with
  | closed => exact .refl γ
  | late => exact (γ.quiet_emit rfl).trans (quiet_abort _)
  | failed φ => exact (γ.quiet_emit rfl).trans (quiet_abort _)

/-- A shutdown goes on quietly while it closes. -/
theorem quiet_duringShutdown (γ : Gate) (d : Option Time) (grace : Value) (π : Closing) :
    γ.Quiet (γ.duringShutdown d grace π).1 := by
  unfold duringShutdown
  split
  · exact .refl γ
  · exact γ.quiet_settle ..
  · split
    · exact .refl γ
    · exact γ.quiet_settle ..

/-- A shutdown whose time is up goes on quietly. -/
theorem quiet_afterExpiry (γ : Gate) (grace : Value) (π : Closing) :
    γ.Quiet (γ.afterExpiry grace π).1 := by
  unfold afterExpiry
  split
  · exact .refl γ
  · exact γ.quiet_settle ..
  · split <;> exact γ.quiet_settle ..

theorem quiet_afterAbandoning (γ : Gate) (π : Closing) : γ.Quiet (γ.afterAbandoning π).1 := by
  cases π with
  | waiting φ => exact .refl γ
  | done r => exact .refl γ

/-- A shutdown begins quietly. -/
theorem quiet_shutdown (γ : Gate) (grace : Value) : γ.Quiet (γ.shutdown grace).1 := by
  unfold shutdown
  split
  · exact γ.quiet_settle ..
  · split
    · exact γ.quiet_settle ..
    · exact γ.quiet_close.trans (quiet_duringShutdown ..)

/-- A shutdown goes on quietly. -/
theorem ShutdownPhase.quiet_resume (γ : Gate) (φ : ShutdownPhase) : γ.Quiet (φ.resume γ).1 := by
  cases φ with
  | closing d grace φ =>
    unfold resume
    dsimp only
    split
    · exact (φ.quiet_resume γ).trans (quiet_duringShutdown ..)
    · exact (φ.quiet_cancel γ).trans (quiet_afterExpiry ..)
  | overdue grace φ => exact (φ.quiet_resume γ).trans (quiet_afterExpiry ..)
  | abandoned φ => exact (φ.quiet_resume γ).trans (quiet_afterAbandoning ..)

/-- A shutdown is given up quietly. -/
theorem ShutdownPhase.quiet_cancel (γ : Gate) (φ : ShutdownPhase) : γ.Quiet (φ.cancel γ).1 := by
  cases φ with
  | closing d grace φ => exact (φ.quiet_cancel γ).trans (quiet_afterAbandoning ..)
  | overdue grace φ => exact (φ.quiet_cancel γ).trans (quiet_afterAbandoning ..)
  | abandoned φ => exact (φ.quiet_cancel γ).trans (quiet_afterAbandoning ..)

/-! ## Queries -/

/-- Work from `γ` that has come to `r`: what it handed the driver is permitted by `P`, and if it
waits, then at a point that is `ok`. -/
structure Abides {φ α : Type} (P : Statement → Prop) (ok : φ → Prop) (γ : Gate)
    (r : Gate × Progress φ α) : Prop where
  sends : γ.Sends P r.1
  waits : ∀ p, r.2 = .waiting p → ok p

section Abides

variable {φ α : Type} {P : Statement → Prop} {ok : φ → Prop} {γ δ : Gate}

/-- Work that waits at a permitted point abides. -/
theorem Sends.waiting (h : γ.Sends P δ) {p : φ} (hp : ok p) :
    Abides P ok γ (δ, (.waiting p : Progress φ α)) :=
  ⟨h, by rintro _ ⟨⟩; exact hp⟩

/-- Work that is over abides. -/
theorem Sends.done (h : γ.Sends P δ) (a : α) : Abides P ok γ (δ, .done a) := ⟨h, by rintro _ ⟨⟩⟩

/-- Work abides by what permits more. -/
theorem Abides.mono {Q : Statement → Prop} {ok' : φ → Prop} {r : Gate × Progress φ α}
    (h : Abides P ok γ r) (hPQ : ∀ τ, P τ → Q τ) (hok : ∀ p, ok p → ok' p) : Abides Q ok' γ r :=
  ⟨h.sends.mono hPQ, fun p hp ↦ hok p (h.waits p hp)⟩

/-- What abides may be put behind work that sends what is permitted. -/
theorem Sends.abides (h : γ.Sends P δ) {r : Gate × Progress φ α} (hr : Abides P ok δ r) :
    Abides P ok γ r := ⟨h.trans hr.sends, hr.waits⟩

end Abides

/-- Whether `P` permits the statement that a request becomes. -/
def Request.IsPermitted (P : Statement → Prop) (ρ : Request) : Prop :=
  ∀ params, paramsOf ρ.params = .ok params → P ⟨ρ.text, params⟩

/-- Whether `P` permits the statement that a query may still become. -/
def RunPhase.IsPermitted (P : Statement → Prop) : RunPhase → Prop
  | joining _ ρ => ρ.IsPermitted P
  | running .. => True

/-- A query is permitted by what permits more. -/
theorem RunPhase.IsPermitted.mono {P Q : Statement → Prop} (hPQ : ∀ τ, P τ → Q τ) {φ : RunPhase}
    (h : φ.IsPermitted P) : φ.IsPermitted Q := by
  cases φ with
  | joining n ρ => exact fun params hp ↦ hPQ _ (h params hp)
  | running p t d budget reply => trivial

/-- A query ends quietly, its statement having been sent. -/
theorem quiet_finishRun (γ : Gate) (p : Nat) (budget : Value) (ρ : Reply) :
    γ.Quiet (γ.finishRun p budget ρ).1 := γ.quiet_onPool ..

/-- A query that is over waits for nothing. -/
theorem abides_finishRun {P : Statement → Prop} (γ : Gate) (p : Nat) (budget : Value) (ρ : Reply) :
    Abides P (RunPhase.IsPermitted P) γ (γ.finishRun p budget ρ) :=
  (γ.quiet_finishRun p budget ρ).sends.done _

/-- The driver is handed a statement. -/
theorem sends_emit_query {P : Statement → Prop} (γ : Gate) {s : String}
    {params : Option (List Value)} (h : P ⟨s, params⟩) : γ.Sends P (γ.emit (.query s params)) := by
  refine ⟨rfl, [⟨s, params⟩], ?_, by simpa using h⟩
  simp [statements, emit, onWorld, World.emit, Event.statement?]

/-- A query hands the driver the statement that it is, and no other. -/
theorem abides_run {P : Statement → Prop} {ρ : Request} (hρ : ρ.IsPermitted P) (γ : Gate)
    (p : Nat) : Abides P (RunPhase.IsPermitted P) γ (γ.run p ρ) := by
  unfold run
  split
  · exact (Quiet.refl γ).sends.done _
  next budget _ =>
    split
    · exact (Quiet.refl γ).sends.done _
    · split
      · exact (Quiet.refl γ).sends.done _
      · dsimp only
        generalize hδ : (γ.onPool p Pool.acquire).log _ _ _ = δ
        have hγ : γ.Quiet δ := hδ ▸ (γ.quiet_onPool p Pool.acquire).trans (quiet_log ..)
        split
        · exact (hγ.trans (quiet_onPool ..)).sends.done _
        next params hp =>
          have hs : γ.Sends P { δ.emit (.query ρ.text params) with
              database.replies := δ.database.replies.tail } :=
            (hγ.sends.trans (δ.sends_emit_query (hρ params hp))).trans (Quiet.sends ⟨rfl, rfl⟩)
          split
          · exact hs.abides (abides_finishRun ..)
          · exact hs.waiting trivial

/-- A query that got its pool sends the statement that it is for. -/
theorem abides_afterGetting {P : Statement → Prop} {ρ : Request} (hρ : ρ.IsPermitted P) (γ : Gate)
    (π : Getting) : Abides P (RunPhase.IsPermitted P) γ (γ.afterGetting ρ π) := by
  unfold afterGetting
  split
  · exact (Quiet.refl γ).sends.waiting hρ
  · exact abides_run hρ γ _
  · exact (Quiet.refl γ).sends.done _

/-- A query sends the statement that it is for. -/
theorem abides_execute {P : Statement → Prop} {ρ : Request} (hρ : ρ.IsPermitted P) (γ : Gate) :
    Abides P (RunPhase.IsPermitted P) γ (γ.execute ρ) :=
  γ.quiet_getPool.sends.abides (abides_afterGetting hρ ..)

/-- A query that goes on sends the statement that it is for. -/
theorem RunPhase.abides_resume {P : Statement → Prop} {φ : RunPhase} (hφ : φ.IsPermitted P)
    (γ : Gate) : Abides P (RunPhase.IsPermitted P) γ (φ.resume γ) := by
  cases φ with
  | joining n ρ => exact abides_afterGetting hφ γ _
  | running p t d budget reply =>
    unfold resume
    dsimp only
    split
    · exact (γ.quiet_onPool ..).sends.done _
    · exact γ.abides_finishRun ..

/-- A query that is given up hands the driver nothing. -/
theorem RunPhase.abides_cancel {P : Statement → Prop} (φ : RunPhase) (γ : Gate) :
    Abides P (RunPhase.IsPermitted P) γ (φ.cancel γ) := by
  cases φ with
  | joining n ρ => exact (Quiet.refl γ).sends.done _
  | running p t d budget reply => exact (γ.quiet_onPool ..).sends.done _

end Gate

end Sluice
