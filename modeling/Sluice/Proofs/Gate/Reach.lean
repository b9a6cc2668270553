import Sluice.Gate.Close
import Sluice.Proofs.Proxy.Work

/-!
# Which supervisor is reached

An opening or a closing that goes on works on the supervisor that it starts or stops, and may come
to stop the one in use; an opening that begins may add one.  Every other supervisor is left as it
is.
-/

namespace Sluice.Gate

open Proxy

variable {γ : Gate} {t : Nat}

/-! ## Openings -/

theorem supervisor_afterUnwinding (γ : Gate) (s t : Nat) (cause : Fault) (π : Stopping) :
    (γ.afterUnwinding s cause π).world.supervisor t = γ.world.supervisor t := by
  unfold afterUnwinding
  split <;> rfl

theorem supervisor_unwindProxy (hx : γ.proxy ≠ some t) (cause : Fault) :
    (γ.unwindProxy cause).world.supervisor t = γ.world.supervisor t := by
  unfold unwindProxy
  split
  · rfl
  next s hs =>
    have hts : t ≠ s := fun h ↦ hx (h ▸ hs)
    exact (supervisor_afterUnwinding ..).trans ((γ.world.works_stop s).others hts)

theorem supervisor_afterPoolClosed (hx : γ.proxy ≠ some t) (cause : Fault) (o : Option Fault) :
    (γ.afterPoolClosed cause o).world.supervisor t = γ.world.supervisor t := by
  cases o with
  | some φ => rfl
  | none => exact supervisor_unwindProxy hx cause

theorem supervisor_afterPing (hx : γ.proxy ≠ some t) (τ : Target) (p : Nat) (o : Option Fault) :
    (γ.afterPing τ p o).world.supervisor t = γ.world.supervisor t := by
  cases o with
  | some φ =>
    unfold afterPing
    dsimp only
    split
    · exact supervisor_afterPoolClosed (γ := γ.closePool.1) hx _ _
    · rfl
  | none => rfl

theorem supervisor_afterConnect (hx : γ.proxy ≠ some t) (τ : Target) (o : Option Fault) :
    (γ.afterConnect τ o).world.supervisor t = γ.world.supervisor t := by
  cases o with
  | some φ => exact supervisor_unwindProxy hx _
  | none =>
    unfold afterConnect
    dsimp only
    split
    · exact supervisor_afterPing (γ := { γ.emit .ping with
        pools := γ.pools ++ [Pool.fresh], database.pings := γ.database.pings.tail }) hx τ _ _
    · rfl

theorem supervisor_createPool (hx : γ.proxy ≠ some t) :
    γ.createPool.world.supervisor t = γ.world.supervisor t := by
  unfold createPool
  dsimp only
  split
  · exact supervisor_afterConnect hx _ _
  next timeout _ =>
    split
    · exact supervisor_afterConnect
        (γ := { γ.emit (.createPool (poolOptions γ.settings γ.target timeout)) with
          database.connects := γ.database.connects.tail }) hx _ _
    · rfl

theorem supervisor_afterStart {s : Nat} (hs : t ≠ s) (π : Starting) :
    (γ.afterStart s π).world.supervisor t = γ.world.supervisor t := by
  unfold afterStart
  split
  · rfl
  · exact supervisor_createPool (γ := { γ with proxy := some s }) fun h ↦ hs (Option.some_inj.mp h).symm
  · rfl

/-- An opening that begins adds a supervisor, or it reaches the one in use. -/
theorem supervisor_beginOpening (hx : γ.proxy ≠ some t)
    (hn : γ.proxy = none → t ≠ γ.world.supervisors.length) :
    γ.beginOpening.world.supervisor t = γ.world.supervisor t := by
  unfold beginOpening
  split
  next hp =>
    have hp : γ.proxy = none := by simpa using (Bool.and_eq_true_iff.mp hp).2
    split
    · rfl
    next κ _ =>
      have ha : (γ.world.addSupervisor κ).supervisor t = γ.world.supervisor t := by
        have ht := hn hp
        unfold World.supervisor World.addSupervisor
        by_cases hl : t < γ.world.supervisors.length
        · exact List.getD_append _ _ _ _ hl
        · rw [List.getD_eq_default _ _ (by simp; omega), List.getD_eq_default _ _ (by omega)]
      exact (supervisor_afterStart (hn hp) _).trans
        (((γ.world.addSupervisor κ).works_start γ.world.supervisors.length).others (hn hp) |>.trans ha)
  · exact supervisor_createPool hx

/-- Whether an opening starts or stops the supervisor `t`. -/
def OpenPhase.Engages (t : Nat) : OpenPhase → Prop
  | starting s _ | unwindingProxy s _ _ => s = t
  | _ => False

theorem OpenPhase.supervisor_resume {φ : OpenPhase} (hφ : ¬ φ.Engages t)
    (hx : (∀ s ψ cause, φ ≠ .unwindingProxy s ψ cause) → γ.proxy ≠ some t) :
    (φ.resume γ).world.supervisor t = γ.world.supervisor t := by
  cases φ with
  | starting s φ =>
    have hs : t ≠ s := fun h ↦ hφ h.symm
    exact (supervisor_afterStart hs _).trans ((φ.works_resume s γ.world).others hs)
  | connecting τ u o => exact supervisor_afterConnect (hx (by simp)) τ o
  | pinging τ p u o => exact supervisor_afterPing (hx (by simp)) τ p o
  | unwindingPool u o cause => exact supervisor_afterPoolClosed (hx (by simp)) cause o
  | unwindingProxy s φ cause =>
    have hs : t ≠ s := fun h ↦ hφ h.symm
    exact (supervisor_afterUnwinding ..).trans ((φ.works_resume s γ.world).others hs)

/-! ## Closings -/

theorem supervisor_afterStop (γ : Gate) (s t : Nat) (π : Stopping) :
    (γ.afterStop s π).1.world.supervisor t = γ.world.supervisor t := by
  unfold afterStop
  split <;> rfl

theorem supervisor_stopProxy (hx : γ.proxy ≠ some t) :
    γ.stopProxy.1.world.supervisor t = γ.world.supervisor t := by
  unfold stopProxy
  split
  · rfl
  next s hs =>
    have hts : t ≠ s := fun h ↦ hx (h ▸ hs)
    exact (supervisor_afterStop ..).trans ((γ.world.works_stop s).others hts)

theorem supervisor_afterClosingPool (hx : γ.proxy ≠ some t) (o : Option Fault) :
    (γ.afterClosingPool o).1.world.supervisor t = γ.world.supervisor t := by
  cases o with
  | some φ => rfl
  | none =>
    exact supervisor_stopProxy (γ := { γ with pool := none }.log .info .pool "DB pool closed") hx

theorem supervisor_release (hx : γ.proxy ≠ some t) :
    γ.release.1.world.supervisor t = γ.world.supervisor t := by
  unfold release
  split
  · exact supervisor_stopProxy hx
  · dsimp only
    split
    · exact supervisor_afterClosingPool (γ := γ.closePool.1) hx _
    · rfl

theorem supervisor_awaitOpening {n : Nat} (hx : γ.opened[n]? ≠ none → γ.proxy ≠ some t) :
    (γ.awaitOpening n).1.world.supervisor t = γ.world.supervisor t := by
  unfold awaitOpening
  split
  next r hr =>
    have hx := hx (by simp [hr])
    cases r with
    | ok p => exact supervisor_release hx
    | error φ =>
      unfold afterOpening
      dsimp only
      split
      · rfl
      · exact supervisor_release (γ := γ.log .warning .pool _) hx
  next => rfl

theorem supervisor_close (hx : γ.opening = none → γ.proxy ≠ some t) :
    γ.close.1.world.supervisor t = γ.world.supervisor t := by
  unfold close
  split
  · exact supervisor_awaitOpening fun h ↦ absurd (by simp [nextOpening]) h
  next ho => exact supervisor_release (hx (by simpa using ho))

theorem ClosePhase.supervisor_resume {φ : ClosePhase} (hφ : ∀ ψ, φ ≠ .stoppingProxy t ψ)
    (hx : (∀ s ψ, φ ≠ .stoppingProxy s ψ) → γ.proxy ≠ some t) :
    (φ.resume γ).1.world.supervisor t = γ.world.supervisor t := by
  cases φ with
  | awaitingOpening n => exact supervisor_awaitOpening fun _ ↦ hx (by simp)
  | awaitingPool u o => exact supervisor_afterClosingPool (hx (by simp)) o
  | stoppingProxy s φ =>
    have hs : t ≠ s := fun h ↦ hφ φ (h ▸ rfl)
    exact (supervisor_afterStop ..).trans ((φ.works_resume s γ.world).others hs)

end Sluice.Gate
