import Sluice.Proofs.Gate.Closing
import Sluice.Proofs.Gate.Steady
import Sluice.Proofs.Gate.Tending

/-!
# Openings that fail

An opening fails with the fault with which the proxy failed to start (`Gate.startFault?`), or with
one that says that the database cannot be reached; while it undoes what it has done it keeps that
in mind (`Gate.Reports`).

As long as nobody closes the gate and pools close without a fault, whatever an opening comes to is
accounted for (`Gate.Attempts`): so nothing is in use once one has failed, however many failed
before (`Gate.Recovers`).
-/

namespace Sluice.Gate

open Proxy

/-! ## What an opening reports -/

/-- A fault that says that the database cannot be reached. -/
def IsConnectivity (φ : Fault) : Prop := ∃ ψ, φ = connectivity ψ

/-- The fault with which a start has ended, if it has. -/
def faultOf? : Starting → Option Fault
  | .done (.error φ) => some φ
  | _ => none

/-- The fault with which the proxy fails to start at the point that an opening comes to next. -/
def startFault? (γ : Gate) : Option Fault :=
  match γ.opening with
  | some (.starting s φ) => faultOf? (φ.resume s γ.world).2
  | some _ => none
  | none =>
    if γ.settings.proxyEnabled && γ.proxy.isNone then
      match γ.settings.proxy with
      | .error φ => some φ
      | .ok κ => faultOf? ((γ.world.addSupervisor κ).start γ.world.supervisors.length).2
    else none

/-- The fault that an opening will report once it has undone what it did. -/
def OpenPhase.cause? : OpenPhase → Option Fault
  | unwindingPool _ _ cause | unwindingProxy _ _ cause => some cause
  | _ => none

/-- After openings that ended with `rs` one has come to `δ`: if it fails then with the fault `k` of
the start, or else because the database cannot be reached. -/
structure Reports (k : Option Fault) (rs : List (Except Fault Nat)) (δ : Gate) : Prop where
  cause {φ : OpenPhase} {c : Fault} : δ.opening = some φ → φ.cause? = some c → IsConnectivity c
  error {φ : Fault} : δ.opened = rs ++ [.error φ] → k = some φ ∨ k = none ∧ IsConnectivity φ

section Reports

variable {k : Option Fault} {γ : Gate} {s : Nat} {cause : Fault}

theorem reports_conclude (γ : Gate) {r : Except Fault Nat}
    (h : ∀ φ, r = .error φ → k = some φ ∨ k = none ∧ IsConnectivity φ) :
    Reports k γ.opened (γ.conclude r) where
  cause := by rintro φ c ⟨⟩
  error he := h _ (List.singleton_inj.mp (List.append_cancel_left he))

theorem reports_await (γ : Gate) {φ : OpenPhase} (h : ∀ c, φ.cause? = some c → IsConnectivity c) :
    Reports k γ.opened (γ.await φ) where
  cause := by
    rintro ψ c ⟨⟩ hc
    exact h c hc
  error he := by simp [await] at he

/-- An opening fails because the database cannot be reached. -/
theorem reports_connectivity (γ : Gate) (hc : IsConnectivity cause) :
    Reports none γ.opened (γ.conclude (.error cause)) :=
  reports_conclude γ <| by
    rintro φ ⟨⟩
    exact .inr ⟨rfl, hc⟩

theorem reports_afterUnwinding (γ : Gate) (s : Nat) (hc : IsConnectivity cause) {π : Stopping}
    (he : ∀ ψ, π ≠ .done (.error ψ)) : Reports none γ.opened (γ.afterUnwinding s cause π) := by
  unfold afterUnwinding
  split
  next φ =>
    refine γ.reports_await ?_
    rintro c ⟨⟩
    exact hc
  · exact reports_connectivity { γ with proxy := none } hc
  next ψ => exact absurd rfl (he ψ)

theorem reports_unwindProxy (γ : Gate) (hc : IsConnectivity cause) :
    Reports none γ.opened (γ.unwindProxy cause) := by
  unfold unwindProxy
  split
  · exact γ.reports_connectivity hc
  next s _ =>
    exact reports_afterUnwinding { γ with world := (γ.world.stop s).1 } s hc
      (γ.world.stop_ne_error s)

variable (ha : ∀ o ∈ γ.database.closings, o.fault = none)

include ha

theorem reports_afterPing (τ : Target) (p : Nat) (o : Option Fault) :
    Reports none γ.opened (γ.afterPing τ p o) := by
  cases o with
  | some φ =>
    have hc : IsConnectivity (connectivity φ) := ⟨φ, rfl⟩
    unfold afterPing
    dsimp only
    rw [fault_closePool ha]
    split
    · exact reports_unwindProxy γ.closePool.1 hc
    · refine reports_await γ.closePool.1 ?_
      rintro c ⟨⟩
      exact hc
  | none =>
    refine reports_conclude ({ γ with pool := some p }.log .info .pool _) (r := .ok p) ?_
    rintro φ ⟨⟩

theorem reports_afterConnect (τ : Target) (o : Option Fault) :
    Reports none γ.opened (γ.afterConnect τ o) := by
  cases o with
  | some φ => exact γ.reports_unwindProxy ⟨φ, rfl⟩
  | none =>
    unfold afterConnect
    dsimp only
    set δ : Gate := { γ.emit .ping with
      pools := γ.pools ++ [Pool.fresh], database.pings := γ.database.pings.tail } with hδ
    split
    · exact reports_afterPing (γ := δ) ha ..
    · exact δ.reports_await (by rintro c ⟨⟩)

theorem reports_createPool : Reports none γ.opened γ.createPool := by
  unfold createPool
  dsimp only
  split
  · exact reports_afterConnect ha ..
  next timeout _ =>
    set δ : Gate := { γ.emit (.createPool (poolOptions γ.settings γ.target timeout)) with
      database.connects := γ.database.connects.tail } with hδ
    split
    · exact reports_afterConnect (γ := δ) ha ..
    · exact δ.reports_await (by rintro c ⟨⟩)

/-- The fault of a start is reported as it is. -/
theorem reports_afterStart (s : Nat) (π : Starting) :
    Reports (faultOf? π) γ.opened (γ.afterStart s π) := by
  unfold afterStart
  split
  · exact γ.reports_await (by rintro c ⟨⟩)
  · exact reports_createPool (γ := { γ with proxy := some s }) ha
  · refine γ.reports_conclude ?_
    rintro φ ⟨⟩
    exact .inl rfl

theorem reports_beginOpening (ho : γ.opening = none) :
    Reports γ.startFault? γ.opened γ.beginOpening := by
  unfold startFault? beginOpening
  rw [ho]
  dsimp only
  split
  · cases γ.settings.proxy with
    | error φ =>
      refine γ.reports_conclude ?_
      rintro ψ ⟨⟩
      exact .inl rfl
    | ok κ =>
      set r := (γ.world.addSupervisor κ).start γ.world.supervisors.length with hr
      exact reports_afterStart (γ := { γ with world := r.1 }) ha _ r.2
  · exact reports_createPool ha

end Reports

/-- An opening goes on; what it is undoing it undoes without a fault. -/
theorem IsHeedful.reports_resume {γ : Gate} {S : Nat → StopPhase → Prop} (hs : γ.IsHeedful S)
    (h : γ.IsKept False S) {φ : OpenPhase} (ho : γ.opening = some φ)
    (hc : ∀ c, φ.cause? = some c → IsConnectivity c) :
    Reports γ.startFault? γ.opened (φ.resume γ) := by
  have ha (o : Outcome) : o ∈ γ.database.closings → o.fault = none := hs.answers
  unfold startFault?
  rw [ho]
  cases φ with
  | starting s φ =>
    exact reports_afterStart (γ := { γ with world := (φ.resume s γ.world).1 }) ha s _
  | connecting τ t o => exact reports_afterConnect ha τ o
  | pinging τ p t o => exact reports_afterPing ha τ p o
  | unwindingPool t o cause =>
    rw [hs.pending ho]
    exact γ.reports_unwindProxy (hc cause rfl)
  | unwindingProxy s φ cause =>
    have hu : S s φ ∨ γ.Unwinds s φ := .inr ⟨cause, ho⟩
    exact reports_afterUnwinding { γ with world := (φ.resume s γ.world).1 } s (hc cause rfl)
      (StopPhase.resume_ne_error (h.custody.order (h.custody.known hu)) (hs.heeds hu))

/-! ## What an opening leaves behind -/

/-- At a gate that nobody closes an opening that began or went on at `γ` has come to `δ`. -/
structure Attempts (γ δ : Gate) : Prop where
  steady : δ.IsSteady fun _ _ ↦ False
  tends : γ.world.Tends δ.world
  books : δ.closings + δ.atHand + γ.pools.length = γ.closings + γ.atHand + δ.pools.length
  advances : γ.Advances δ
  reports : Reports γ.startFault? γ.opened δ

/-- Openings have led from `γ₀` to `γ`, and nobody has closed the gate.  The books are kept,
whatever was let go of has ended, and nothing is in use when the last one has failed. -/
structure Recovers (γ₀ γ : Gate) : Prop where
  heedful : γ.IsHeedful fun _ _ ↦ False
  minds : γ₀.world.Minds γ.world
  books : γ.closings + γ.atHand + γ₀.pools.length = γ₀.closings + γ₀.atHand + γ.pools.length
  cause {φ : OpenPhase} {c : Fault} : γ.opening = some φ → φ.cause? = some c → IsConnectivity c
  failed {φ : Fault} : γ₀.opened.length < γ.opened.length → γ.opening = none →
    γ.opened.getLast? = some (.error φ) → γ.pool = none ∧ γ.proxy = none
  pool {p : Nat} : γ₀.pool = some p → γ.pool = some p

section Attempts

variable {γ₀ γ δ : Gate} {φ : OpenPhase}

theorem IsHeedful.attempts_beginOpening (hs : γ.IsHeedful fun _ _ ↦ False)
    (h : γ.IsKept False fun _ _ ↦ False) (hp : γ.pool = none) (ho : γ.opening = none) :
    γ.Attempts γ.beginOpening where
  steady := hs.beginOpening h ho
  tends := h.tends_beginOpening ho
  books := by
    have hn : γ.atHand = 0 := by simp [atHand, hp, ho]
    rw [hn]
    exact (tally_beginOpening hp).books
  advances := γ.advances_beginOpening
  reports := reports_beginOpening (fun _ ↦ hs.answers) ho

theorem IsHeedful.attempts_resume (hs : γ.IsHeedful fun _ _ ↦ False)
    (h : γ.IsKept False fun _ _ ↦ False) (ho : γ.opening = some φ)
    (hr : φ.isReady γ.world = true) (hc : ∀ c, φ.cause? = some c → IsConnectivity c) :
    γ.Attempts (φ.resume γ) where
  steady := hs.resumeOpening h ho hr
  tends := (h.carries_resume ho hr).tends
  books := (h.balances_resume ho).tally.books
  advances := φ.advances_resume γ
  reports := hs.reports_resume h ho hc

/-- An opening that has failed leaves neither a pool nor a supervisor in use. -/
theorem Attempts.failed (h : γ.Attempts δ) (hp : γ.pool = none) (ho : δ.opening = none) {φ : Fault}
    (he : δ.opened.getLast? = some (.error φ)) : δ.pool = none ∧ δ.proxy = none := by
  have hδ : δ.pool = none := by
    obtain ⟨hs, -⟩ | ⟨-, r, hr, hq⟩ := h.advances
    · rw [ho] at hs
      cases hs
    · rw [hr, List.getLast?_concat, Option.some_inj] at he
      rw [hq, he, hp]
      rfl
  refine ⟨hδ, ?_⟩
  cases hx : δ.proxy with
  | none => rfl
  | some s =>
    obtain ⟨-, hf⟩ := h.steady.stopping hδ ho hx
    exact hf.elim

theorem Recovers.refl (ho : γ.opening = none)
    (ha : ∀ o ∈ γ.database.closings, o.fault = none) : γ.Recovers γ where
  heedful :=
    { heeds := by
        rintro s φ (hf | ⟨c, hc⟩)
        · exact hf.elim
        · rw [ho] at hc
          cases hc
      answers := ha _
      pending := fun hφ ↦ by rw [ho] at hφ; cases hφ }
  minds := .refl _
  books := rfl
  cause hφ := by rw [ho] at hφ; cases hφ
  failed hl := absurd hl (Nat.lt_irrefl _)
  pool := id

theorem Recovers.attempt (h : γ₀.Recovers γ) (hp : γ.pool = none) (ha : γ.Attempts δ) :
    γ₀.Recovers δ where
  heedful := ha.steady.toIsHeedful
  minds := h.minds.trans_tends ha.tends
  books := by have := h.books; have := ha.books; omega
  cause := ha.reports.cause
  failed _ ho he := ha.failed hp ho he
  pool hq := by
    rw [h.pool hq] at hp
    cases hp

theorem Recovers.of_aloof (h : γ₀.Recovers γ) (ha : γ.Aloof δ) : γ₀.Recovers δ where
  heedful := h.heedful.of_eq ha.children ha.supervisors ha.opening fun _ ho ↦ ha.answers ▸ ho
  minds := h.minds.trans_tends ha.tends
  books := by
    have hb := ha.balances.tally.books
    have := h.books
    omega
  cause hφ := h.cause (ha.opening ▸ hφ)
  failed := by
    rw [ha.opened, ha.opening, ha.pool, ha.proxy]
    exact h.failed
  pool hq := ha.pool ▸ h.pool hq

/-- A process acts. -/
theorem Recovers.act (h : γ₀.Recovers γ) (hk : γ.IsKept False fun _ _ ↦ False) (p : Nat) :
    γ₀.Recovers { γ with world := γ.world.act p } where
  heedful := h.heedful.act hk p
  minds := h.minds.act p (fun _ ↦ hk.custody.order) fun _ ↦ hk.custody.owner
  books := by
    have hb := (γ.balances_act p).tally.books
    have := h.books
    omega
  cause := h.cause
  failed := h.failed
  pool := h.pool

end Attempts

end Sluice.Gate
