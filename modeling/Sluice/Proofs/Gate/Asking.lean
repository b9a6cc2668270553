import Sluice.Proofs.Gate.Custody
import Sluice.Proofs.Gate.Pools

/-!
# Where a pool is asked for

An opening asks for a pool in one place, once the proxy is there: when it begins, if a supervisor is
in use, and when the start of one has ended well (`askedOnBeginning?`, `OpenPhase.asked?`).  In all
else that a gate does no pool is asked for; an opening that is given up asks for none.

A supervisor that was started runs its process when the pool is asked for (`runs_of_start`).
-/

namespace Sluice.Gate

open Proxy

/-! ## The place -/

/-- Where a pool is asked for when a start of the supervisor `s` has come to a point. -/
def askedAfterStart? (γ : Gate) (s : Nat) : Starting → Option Gate
  | .done (.ok ()) => some { γ with proxy := some s }
  | _ => none

/-- Where an opening that begins asks for a pool, if it does so at once. -/
def askedOnBeginning? (γ : Gate) : Option Gate :=
  if γ.settings.proxyEnabled && γ.proxy.isNone then
    match γ.settings.proxy with
    | .error _ => none
    | .ok κ =>
      let s := γ.world.supervisors.length
      let (w, π) := (γ.world.addSupervisor κ).start s
      { γ with world := w }.askedAfterStart? s π
  else some γ

/-- Where an opening that goes on asks for a pool. -/
def OpenPhase.asked? (γ : Gate) : OpenPhase → Option Gate
  | starting s φ =>
    let (w, π) := φ.resume s γ.world
    { γ with world := w }.askedAfterStart? s π
  | _ => none

/-- From `γ` to `δ` a pool was asked for at `asked` alone, if anywhere. -/
structure AsksAt (γ : Gate) (asked : Option Gate) (δ : Gate) : Prop where
  nowhere : asked = none → δ.creations = γ.creations
  before {μ : Gate} : asked = some μ → μ.creations = γ.creations
  there {μ : Gate} : asked = some μ → μ.createPool.Aloof δ

variable {γ δ μ : Gate} {s : Nat}

theorem AsksAt.of_eq (h : δ.creations = γ.creations) : γ.AsksAt none δ :=
  ⟨fun _ ↦ h, by rintro μ ⟨⟩, by rintro μ ⟨⟩⟩

theorem AsksAt.trans_aloof {ε : Gate} {a : Option Gate} (h : γ.AsksAt a δ) (h' : δ.Aloof ε) :
    γ.AsksAt a ε :=
  ⟨fun ha ↦ h'.creations.trans (h.nowhere ha), h.before, fun ha ↦ (h.there ha).trans h'⟩

/-! ## What asks for no pool -/

theorem creations_closePool (γ : Gate) : γ.closePool.1.creations = γ.creations :=
  γ.withdraws_closePool.creations

theorem creations_afterUnwinding (γ : Gate) (s : Nat) (cause : Fault) (π : Stopping) :
    (γ.afterUnwinding s cause π).creations = γ.creations := by
  unfold afterUnwinding
  split <;> rfl

theorem creations_unwindProxy (γ : Gate) (cause : Fault) :
    (γ.unwindProxy cause).creations = γ.creations := by
  unfold unwindProxy
  split
  · rfl
  next s _ =>
    exact (creations_afterUnwinding ..).trans (creations_withWorld (γ.world.traffic_stop s))

theorem creations_afterPoolClosed (γ : Gate) (cause : Fault) (o : Option Fault) :
    (γ.afterPoolClosed cause o).creations = γ.creations := by
  cases o with
  | some φ => rfl
  | none => exact γ.creations_unwindProxy cause

theorem creations_afterPing (γ : Gate) (τ : Target) (p : Nat) (o : Option Fault) :
    (γ.afterPing τ p o).creations = γ.creations := by
  cases o with
  | some φ =>
    unfold afterPing
    dsimp only
    split
    · exact (creations_afterPoolClosed ..).trans γ.creations_closePool
    · exact γ.creations_closePool
  | none => exact creations_emit { γ with pool := some p } rfl

theorem creations_afterConnect (γ : Gate) (τ : Target) (o : Option Fault) :
    (γ.afterConnect τ o).creations = γ.creations := by
  cases o with
  | some φ => exact γ.creations_unwindProxy _
  | none =>
    have h : (γ.emit .ping).creations = γ.creations := γ.creations_emit rfl
    unfold afterConnect
    dsimp only
    split
    · exact (creations_afterPing ..).trans h
    · exact h

/-! ## Openings -/

theorem asksAt_afterStart (γ : Gate) (s : Nat) (π : Starting) :
    γ.AsksAt (γ.askedAfterStart? s π) (γ.afterStart s π) := by
  unfold askedAfterStart? afterStart
  split
  · exact ⟨by rintro ⟨⟩, by rintro μ ⟨⟩; rfl, by rintro μ ⟨⟩; exact .refl _⟩
  next h =>
    refine .of_eq ?_
    split
    · rfl
    · exact absurd rfl h
    · rfl

/-- What led up to an asking may have been work of a supervisor. -/
theorem AsksAt.withWorld {w : World} {a : Option Gate} (h : { γ with world := w }.AsksAt a δ)
    (ht : w.traffic = γ.world.traffic) : γ.AsksAt a δ :=
  ⟨fun ha ↦ (h.nowhere ha).trans (creations_withWorld ht),
    fun ha ↦ (h.before ha).trans (creations_withWorld ht), h.there⟩

theorem asksAt_beginOpening (γ : Gate) : γ.AsksAt γ.askedOnBeginning? γ.beginOpening := by
  unfold askedOnBeginning? beginOpening
  split
  · cases γ.settings.proxy with
    | error φ => exact .of_eq rfl
    | ok κ =>
      exact (asksAt_afterStart ..).withWorld
        ((World.traffic_start _ γ.world.supervisors.length).trans
          (γ.world.traffic_addSupervisor κ))
  · exact ⟨by rintro ⟨⟩, by rintro μ ⟨⟩; rfl, by rintro μ ⟨⟩; exact .refl _⟩

theorem OpenPhase.asksAt_resume (γ : Gate) (φ : OpenPhase) :
    γ.AsksAt (φ.asked? γ) (φ.resume γ) := by
  cases φ with
  | starting s φ => exact (asksAt_afterStart ..).withWorld (φ.traffic_resume s γ.world)
  | connecting τ t o => exact .of_eq (γ.creations_afterConnect τ o)
  | pinging τ p t o => exact .of_eq (γ.creations_afterPing τ p o)
  | unwindingPool t o cause => exact .of_eq (γ.creations_afterPoolClosed cause o)
  | unwindingProxy s φ cause =>
    exact .of_eq ((creations_afterUnwinding ..).trans
      (creations_withWorld (φ.traffic_resume s γ.world)))

/-- A start that is given up does not end well. -/
theorem askedAfterStart?_cancel (γ : Gate) (s : Nat) (w : World) (φ : StartPhase) :
    γ.askedAfterStart? s (φ.cancel s w).2 = none := by
  have hs (v : World) (cause : Fault) (π : Stopping) :
      γ.askedAfterStart? s (v.settle s cause π).2 = none := by
    unfold World.settle
    split <;> rfl
  cases φ with
  | clearing φ => rfl
  | fetching t => rfl
  | connecting p d α | pausing p d t | draining p n t => exact hs _ cancelled _
  | cleaning φ cause => exact hs _ cause _

theorem creations_cancelOpening (γ : Gate) : γ.cancelOpening.creations = γ.creations := by
  unfold cancelOpening
  split
  next φ _ =>
    cases φ with
    | starting s φ =>
      have h := asksAt_afterStart { γ with world := (φ.cancel s γ.world).1 } s
        (φ.cancel s γ.world).2
      exact (h.nowhere (askedAfterStart?_cancel ..)).trans
        (creations_withWorld (φ.traffic_cancel s γ.world))
    | connecting τ t o => rfl
    | pinging τ p t o => rfl
    | unwindingPool t o cause => rfl
    | unwindingProxy s φ cause =>
      exact (creations_afterUnwinding _ s cause (StopPhase.cancel s γ.world).2).trans
        (creations_withWorld (StopPhase.traffic_cancel s γ.world))
  next => rfl

theorem ClosePhase.creations_cancel (γ : Gate) (φ : ClosePhase) :
    (φ.cancel γ).1.creations = γ.creations := by
  obtain h | ⟨n, -, h⟩ := φ.withdraws_cancel γ
  · exact h.creations
  · exact h.creations.trans γ.creations_cancelOpening

/-! ## The supervisor -/

/-- The supervisor `s` is in use, runs its process, and no closing stops it. -/
def Runs (γ : Gate) (S : Nat → StopPhase → Prop) (s : Nat) : Prop :=
  γ.proxy = some s ∧ (γ.world.supervisor s).state = .running ∧ ∀ φ, ¬ S s φ

variable {b : Prop} {S : Nat → StopPhase → Prop}

theorem runs_of_start {π : Starting} (he : StartEnds s (γ.world, π)) (hS : ∀ φ, ¬ S s φ)
    (hμ : γ.askedAfterStart? s π = some μ) : μ.Runs S s := by
  unfold askedAfterStart? at hμ
  split at hμ
  · cases hμ
    obtain ⟨p, hp⟩ := he.ok rfl
    exact ⟨rfl, hp.2, hS⟩
  · cases hμ

/-- An opening that begins with no supervisor in use starts one, and then asks. -/
theorem IsKept.runs_of_beginning (h : γ.IsKept b S) (ho : γ.opening = none)
    (he : γ.settings.proxyEnabled = true) (hx : γ.proxy = none)
    (hμ : γ.askedOnBeginning? = some μ) : ∃ s, μ.Runs S s := by
  unfold askedOnBeginning? at hμ
  rw [if_pos (by simp [he, hx])] at hμ
  cases hκ : γ.settings.proxy with
  | error φ => simp [hκ] at hμ
  | ok κ =>
    simp only [hκ] at hμ
    have hk := (h.inOrder_addSupervisor ho hx κ).ends_start
    exact ⟨_, runs_of_start (γ := { γ with world := _ }) hk
      (fun φ hφ ↦ Nat.lt_irrefl _ (h.custody.known (.inl hφ))) hμ⟩

/-- One that finds a supervisor in use asks at once. -/
theorem askedOnBeginning?_of_proxy (hx : γ.proxy = some s) : γ.askedOnBeginning? = some γ := by
  simp [askedOnBeginning?, hx]

/-- An opening that goes on asks when it has started a supervisor. -/
theorem IsKept.runs_of_resume (h : γ.IsKept b S) {φ : OpenPhase} (ho : γ.opening = some φ)
    (hμ : φ.asked? γ = some μ) : ∃ s, μ.Runs S s := by
  cases φ with
  | starting s φ =>
    obtain ⟨-, hφ, hS⟩ := h.starting ho
    have hk := h.custody.order (h.custody.inHand (s := s) (by rw [inHand, ho]))
    exact ⟨s, runs_of_start (γ := { γ with world := _ }) (hk.ends_resume hφ) hS hμ⟩
  | _ => cases hμ

end Sluice.Gate
