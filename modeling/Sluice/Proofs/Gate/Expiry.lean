import Sluice.Proofs.Gate.Clock
import Sluice.Proofs.Gate.Closing
import Sluice.Proofs.Proxy.Startup

/-!
# When the grace period is over

A closing that cannot go on when its grace period is over is given up, and the proxy is killed.
That ends the shutdown at once, with every process over, unless the proxy is being started and
either the closing waits for that, while the start looks at a living process, or it does not, so
that nobody kills what the start holds (`Gate.Outlives`, `IsKept.isForced_resume_iff`).
-/

namespace Sluice

namespace Proxy

variable {s p : Nat} {w : World}

/-! ## Starts that are given up -/

/-- The process that a start looks at, to see whether it is ready or what it still says. -/
def StartPhase.polls? : StartPhase → Option Nat
  | connecting p _ _ | pausing p _ _ | draining p _ _ => some p
  | _ => none

/-- A start that fails is not over while its process lives. -/
theorem World.InOrder.fail_of_isAlive (h : w.InOrder s) (hp : (w.supervisor s).child = some p)
    (ha : (w.child p).isAlive = true) (cause : Fault) : ∃ ψ, (w.fail s cause).2 = .waiting ψ := by
  let v := (w.say .info "Stopping proxy...").onSupervisor s ({ · with state := .stopping })
  have hv : ¬ (v.supervisor s).signal.any v.hasSeen = true := by
    have hσ : (v.supervisor s).signal = some p := by simp [v, h.known, h.signal hp]
    have hs : v.hasSeen p = false := (h.watched hp ha).2
    rw [hσ, Option.any_some, hs]
    exact Bool.false_ne_true
  rw [World.fail, World.stop, hp]
  dsimp only
  rw [if_neg hv]
  exact ⟨_, rfl⟩

/-- A start that is given up is over at once, unless it looks at a living process. -/
theorem World.InOrder.cancelStart_eq_cancelled {φ : StartPhase} (h : w.InOrder s)
    (hφ : φ.Fits w s) (hp : ∀ p, φ.polls? = some p → (w.child p).isAlive = false) :
    (φ.cancel s w).2 = .done (.error cancelled) := by
  have hfail {p : Nat} (hc : (w.supervisor s).child = some p) (ha : (w.child p).isAlive = false) :
      (w.fail s cancelled).2 = .done (.error cancelled) := by
    obtain ⟨v, hv, -⟩ := h.fail_of_hasSeen hc (h.told hc ha) cancelled
    rw [hv]
  cases φ with
  | clearing φ => rfl
  | fetching t => rfl
  | connecting p d α | pausing p d t | draining p n t => exact hfail hφ.1 (hp p rfl)
  | cleaning φ cause => rfl

theorem World.InOrder.cancelStart_of_polls? {φ : StartPhase} (h : w.InOrder s) (hφ : φ.Fits w s)
    (hp : φ.polls? = some p) (ha : (w.child p).isAlive = true) :
    ∃ ψ, (φ.cancel s w).2 = .waiting ψ := by
  cases φ with
  | connecting q d α | pausing q d t | draining q n t =>
    cases hp
    exact h.fail_of_isAlive hφ.1 ha cancelled
  | clearing φ | fetching t | cleaning φ cause => cases hp

end Proxy

namespace Gate

open Proxy

variable {b : Prop} {γ δ : Gate} {S : Nat → StopPhase → Prop} {φ : ClosePhase} {n : Nat}

/-! ## What outlives a shutdown -/

/-- A process lives on when a closing that stands at a point is given up for lack of time: it
belongs to a start that the closing waits for, or to one that the closing does not reach. -/
def Outlives (γ : Gate) : ClosePhase → Prop
  | .awaitingOpening _ => ∃ s σ p, γ.opening = some (.starting s σ) ∧ σ.polls? = some p ∧
      (γ.world.child p).isAlive = true
  | .awaitingPool .. | .stoppingProxy .. => ∃ s σ p, γ.opening = some (.starting s σ) ∧
      (γ.world.supervisor s).child = some p ∧ ¬ (γ.world.child p).IsSpent

theorem outlives_iff (hφ : ∀ n, φ ≠ .awaitingOpening n) : γ.Outlives φ ↔
    ∃ s σ p, γ.opening = some (.starting s σ) ∧ (γ.world.supervisor s).child = some p ∧
      ¬ (γ.world.child p).IsSpent := by
  cases φ with
  | awaitingOpening n => exact absurd rfl (hφ n)
  | awaitingPool t o => exact Iff.rfl
  | stoppingProxy s ψ => exact Iff.rfl

/-! ## Openings that are given up -/

/-- An opening that is given up is over at once, unless it starts the proxy and looks at a living
process. -/
theorem IsKept.cancelOpening_eq_cancelled (h : γ.IsKept b S) (ho : γ.opening.isSome = true)
    (hn : ¬ γ.Outlives (.awaitingOpening n)) :
    γ.cancelOpening.opening = none ∧ γ.cancelOpening.opened = γ.opened ++ [.error cancelled] := by
  obtain ⟨φ, hφ⟩ := Option.isSome_iff_exists.mp ho
  rw [Gate.cancelOpening, hφ]
  cases φ with
  | starting s σ =>
    have hk := h.custody.order (h.custody.inHand (s := s) (by rw [inHand, hφ]))
    have hp (p : Nat) (hp : σ.polls? = some p) : (γ.world.child p).isAlive = false :=
      Bool.eq_false_iff.mpr fun ha ↦ hn ⟨s, σ, p, hφ, hp, ha⟩
    have hc := hk.cancelStart_eq_cancelled (h.starting hφ).2.1 hp
    change ({ γ with world := _ }.afterStart s (σ.cancel s γ.world).2).opening = none ∧
      ({ γ with world := _ }.afterStart s (σ.cancel s γ.world).2).opened = _
    rw [hc]
    exact ⟨rfl, rfl⟩
  | connecting τ t o => exact ⟨rfl, rfl⟩
  | pinging τ p t o => exact ⟨rfl, rfl⟩
  | unwindingPool t o cause => exact ⟨rfl, rfl⟩
  | unwindingProxy s ψ cause => exact ⟨rfl, rfl⟩

/-- One that looks at a living process stays pending until that has been stopped. -/
theorem IsKept.opened_cancelOpening (h : γ.IsKept b S) (hn : γ.Outlives (.awaitingOpening n)) :
    γ.cancelOpening.opened = γ.opened := by
  obtain ⟨s, σ, p, hφ, hp, ha⟩ := hn
  have hk := h.custody.order (h.custody.inHand (s := s) (by rw [inHand, hφ]))
  obtain ⟨ψ, hψ⟩ := hk.cancelStart_of_polls? (h.starting hφ).2.1 hp ha
  rw [Gate.cancelOpening, hφ]
  change ({ γ with world := _ }.afterStart s (σ.cancel s γ.world).2).opened = _
  rw [hψ]
  rfl

/-! ## Closings that are given up -/

/-- A closing that does not wait for an opening is over when it is given up. -/
theorem ClosePhase.cancel_eq_cancelled (γ : Gate) (hφ : ∀ n, φ ≠ .awaitingOpening n) :
    (φ.cancel γ).2 = .done (.error cancelled) := by
  cases φ with
  | awaitingOpening n => exact absurd rfl (hφ n)
  | awaitingPool t o => rfl
  | stoppingProxy s ψ => rfl

/-- A closing that waits for an opening is over when that is. -/
theorem IsKept.cancel_awaitingOpening (h : γ.IsKept b S) (ha : γ.Awaits n)
    (hr : γ.opened[n]? = none) (hn : ¬ γ.Outlives (.awaitingOpening n)) :
    (ClosePhase.awaitingOpening n).cancel γ = (γ.cancelOpening, .done (.error cancelled)) := by
  obtain ⟨rfl, ho⟩ := ha hr
  have hk : cancelled.kind = .cancelled := rfl
  change γ.cancelOpening.awaitOpening γ.nextOpening = _
  simp [awaitOpening, (h.cancelOpening_eq_cancelled ho hn).2, nextOpening, afterOpening, hk]

theorem IsKept.cancel_awaitingOpening_of_outlives (h : γ.IsKept b S) (hr : γ.opened[n]? = none)
    (hn : γ.Outlives (.awaitingOpening n)) : (ClosePhase.awaitingOpening n).cancel γ =
      (γ.cancelOpening, .waiting (.awaitingOpening n)) := by
  change γ.cancelOpening.awaitOpening n = _
  simp [awaitOpening, h.opened_cancelOpening hn, hr]

/-- A supervisor that is started is not reached by a closing that does not wait for it, and no
process is. -/
theorem IsKept.cancel_of_starting (h : γ.IsKept True (Adds (α := Unit) S (.waiting φ)))
    (hφ : ∀ n, φ ≠ .awaitingOpening n) {s : Nat} {σ : StartPhase}
    (ho : γ.opening = some (.starting s σ)) :
    (φ.cancel γ).1.world.supervisor s = γ.world.supervisor s ∧
      (φ.cancel γ).1.world.children = γ.world.children := by
  cases φ with
  | awaitingOpening n => exact absurd rfl (hφ n)
  | awaitingPool t o => exact ⟨rfl, rfl⟩
  | stoppingProxy t ψ =>
    have hts : t ≠ s := fun hts ↦ (h.starting ho).2.2 ψ (.inr (by rw [hts]))
    have hin : γ.inHand = some s := by rw [inHand, ho]
    -- the supervisor in hand alone holds a process
    have hc : (γ.world.supervisor t).child = none := by
      cases hc : (γ.world.supervisor t).child with
      | none => rfl
      | some p => exact absurd (Option.some_inj.mp ((h.custody.held trivial hc).symm.trans hin)) hts
    have hw := StopPhase.works_cancel t γ.world
    refine ⟨hw.others (Ne.symm hts), ?_⟩
    change (γ.world.killChild t).children = _
    rw [World.killChild, hc]

/-! ## The end of the grace period -/

/-- A grace period that is not over at once takes some time. -/
theorem lengthOf_nonneg {v : Value} {g : Time} (hs : isSpent v = false) (hg : lengthOf v = some g) :
    0 ≤ g := by
  cases v with
  | int z =>
    cases hg
    have hz : ¬ z ≤ 0 := by simpa [isSpent] using hs
    change 0 ≤ z * (1000000 : Int)
    omega
  | bool c =>
    cases hg
    cases c <;> decide
  | float x =>
    -- a number that is not spent has no sign
    obtain ⟨⟨n, m⟩, hn, rfl⟩ := Option.map_eq_some_iff.mp hg
    have h0 : 0 ≤ n := by
      unfold isSpent at hs
      unfold Decimal.Binary64.toFraction? at hn
      dsimp only at hs
      cases hv : x.view with
      | finite ν k q =>
        rw [hv] at hs hn
        obtain ⟨rfl, -⟩ := Bool.or_eq_false_iff.mp hs
        cases hn
        exact Int.natCast_nonneg _
      | infinite ν => rw [hv] at hn; cases hn
      | nan => rw [hv] at hn; cases hn
    simp only [Int.not_lt.mpr h0, if_false]
    exact Int.natCast_nonneg _
  | _ => cases hg

/-- A closing that is over when it is given up for lack of time is the end of the shutdown. -/
theorem afterExpiry_cancelled (γ : Gate) (grace : Value) : ∃ ε,
    γ.afterExpiry grace (.done (.error cancelled)) = ((γ.emit ε).abort, .done (.ok false)) :=
  ⟨_, rfl⟩

/-- The shutdown has returned that not all was closed in time, and every process is over. -/
def IsForced (r : Gate × ShuttingDown) : Prop := r.2 = .done (.ok false) ∧ r.1.IsSpent

theorem isForced_afterExpiry_iff (h : γ.IsKept True S) (grace : Value) :
    IsForced (γ.afterExpiry grace (.done (.error cancelled))) ↔
      ∀ s σ p, γ.opening = some (.starting s σ) → (γ.world.supervisor s).child = some p →
        (γ.world.child p).IsSpent := by
  obtain ⟨ε, he⟩ := γ.afterExpiry_cancelled grace
  have hε : (γ.emit ε).IsKept True S := h.of_eq rfl rfl rfl rfl fun _ ↦ id
  rw [he, IsForced, and_iff_right rfl]
  exact hε.isSpent_abort_iff trivial

/-- When its grace period is over, a shutdown whose closing cannot go on is forced, unless a process
outlives it. -/
theorem IsKept.isForced_resume_iff (h : γ.IsKept True (Adds (α := Unit) S (.waiting φ)))
    (ha : ∀ n, φ = .awaitingOpening n → γ.Awaits n) (hr : φ.isReady γ = false) (d : Option Time)
    (grace : Value) :
    IsForced ((ShutdownPhase.closing d grace φ).resume γ) ↔ ¬ γ.Outlives φ := by
  have hres : (ShutdownPhase.closing d grace φ).resume γ =
      (φ.cancel γ).1.afterExpiry grace (φ.cancel γ).2 := by
    simp [ShutdownPhase.resume, hr]
  have hk := h.keeps_cancel
  rw [hres]
  by_cases hφ : ∃ n, φ = .awaitingOpening n
  · obtain ⟨n, rfl⟩ := hφ
    have hn : γ.opened[n]? = none := by simpa [ClosePhase.isReady] using hr
    by_cases hout : γ.Outlives (.awaitingOpening n)
    · -- the closing that was given up goes on waiting
      rw [h.cancel_awaitingOpening_of_outlives hn hout]
      exact iff_of_false (fun hf ↦ by cases hf.1) (not_not_intro hout)
    · have hc := h.cancel_awaitingOpening (ha n rfl) hn hout
      have ho := (h.cancelOpening_eq_cancelled (ha n rfl hn).2 hout).1
      rw [Keeps, hc] at hk
      rw [hc, isForced_afterExpiry_iff hk]
      exact iff_of_true (by simp [ho]) hout
  · replace hφ (n : Nat) : φ ≠ .awaitingOpening n := fun hn ↦ hφ ⟨n, hn⟩
    have ho : (φ.cancel γ).1.opening = γ.opening := by
      obtain hw | ⟨n, hn, -⟩ := φ.withdraws_cancel γ
      · exact hw.opening
      · exact absurd hn (hφ n)
    rw [ClosePhase.cancel_eq_cancelled γ hφ, isForced_afterExpiry_iff hk, outlives_iff hφ, ho]
    simp only [not_exists, not_and, not_not]
    refine forall_congr' fun s ↦ forall_congr' fun σ ↦ forall_congr' fun p ↦ forall_congr' fun hσ ↦ ?_
    obtain ⟨hs, hc⟩ := h.cancel_of_starting hφ hσ
    rw [hs, World.child, hc, World.child]

end Gate

end Sluice
