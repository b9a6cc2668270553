import Sluice.Proofs.Gate.Closing
import Sluice.Proofs.Gate.Tending
import Sluice.Proofs.Proxy.Loss

/-!
# Closings that nobody gives up

As long as nobody else stops the supervisor, the stop of a closing holds on to its process, and the
closing does not fail, unless the opening that it waited for was given up (`Gate.GoesOn`).  Whenever
it goes on it comes closer to its end (`ClosePhase.goesOn_resume`).

Before a closing stops the proxy it tells the pool to close (`prefix_close`).
-/

namespace Sluice.Gate

open Proxy

/-- The number of kinds of waits that a closing may still come to. -/
def ClosePhase.rank : ClosePhase → Nat
  | awaitingOpening _ => 4
  | awaitingPool .. => 3
  | stoppingProxy _ φ => φ.rank

/-- Where a closing stands that began at `γ₀`: it waits for the opening that was pending there, for
a pool that closes well, or for a process that the supervisor holds. -/
def ClosePhase.Suits (γ₀ γ : Gate) : ClosePhase → Prop
  | awaitingOpening n => γ₀.opening ≠ none ∧ n = γ₀.nextOpening
  | awaitingPool _ f => f = none
  | stoppingProxy s φ => φ.Fits γ.world s

/-- What a closing that began at `γ₀` has come to: it fails only as the opening that was pending
there did when that was given up. -/
structure GoesOn (n : Nat) (γ₀ : Gate) (r : Gate × Closing) : Prop where
  suits {φ : ClosePhase} : r.2 = .waiting φ → φ.Suits γ₀ r.1
  rank {φ : ClosePhase} : r.2 = .waiting φ → φ.rank ≤ n
  error {φ : Fault} : r.2 = .done (.error φ) → φ.kind = .cancelled ∧ γ₀.opening ≠ none ∧
    r.1.opened[γ₀.nextOpening]? = some (.error φ)

section GoesOn

variable {n : Nat} {γ₀ γ δ : Gate} {s : Nat} {r : Gate × Closing}

theorem GoesOn.mono {m : Nat} (h : GoesOn n γ₀ r) (hm : n ≤ m) : GoesOn m γ₀ r :=
  { h with rank := fun hφ ↦ Nat.le_trans (h.rank hφ) hm }

theorem goesOn_done (γ₀ γ : Gate) : GoesOn n γ₀ (γ, .done (.ok ())) :=
  ⟨by rintro φ ⟨⟩, by rintro φ ⟨⟩, by rintro φ ⟨⟩⟩

theorem goesOn_waiting {φ : ClosePhase} (hs : φ.Suits γ₀ γ) (hn : φ.rank ≤ n) :
    GoesOn n γ₀ (γ, .waiting φ) :=
  ⟨by rintro ψ ⟨⟩; exact hs, by rintro ψ ⟨⟩; exact hn, by rintro ψ ⟨⟩⟩

theorem goesOn_afterStop {π : Stopping} (hπ : StopFits s (γ.world, π))
    (hn : ∀ φ, π = .waiting φ → φ.rank ≤ n) (he : ∀ φ, π ≠ .done (.error φ)) :
    GoesOn n γ₀ (γ.afterStop s π) := by
  unfold afterStop
  split
  next φ => exact goesOn_waiting (hπ.waiting rfl) (hn φ rfl)
  · exact goesOn_done γ₀ _
  next φ => exact absurd rfl (he φ)

variable (h : γ.IsOrdered)

include h

theorem goesOn_stopProxy : GoesOn 2 γ₀ γ.stopProxy := by
  unfold stopProxy
  split
  · exact goesOn_done γ₀ γ
  next s hs =>
    exact goesOn_afterStop (γ := { γ with world := (γ.world.stop s).1 }) (h s hs).stop
      (fun φ _ ↦ φ.rank_le) (γ.world.stop_ne_error s)

theorem goesOn_afterClosingPool : GoesOn 2 γ₀ (γ.afterClosingPool none) :=
  goesOn_stopProxy (γ := { γ with pool := none }.log .info .pool "DB pool closed")
    (h.of_eq rfl rfl rfl)

theorem goesOn_release (hf : ∀ o ∈ γ.database.closings, o.fault = none) : GoesOn 3 γ₀ γ.release := by
  have hc : γ.closePool.1.IsOrdered := h.of_eq rfl rfl rfl
  have hn := fault_closePool hf
  unfold release
  split
  · exact (goesOn_stopProxy h).mono (Nat.le_succ 2)
  · dsimp only
    split
    · rw [hn]
      exact (goesOn_afterClosingPool hc).mono (Nat.le_succ 2)
    · exact goesOn_waiting hn (Nat.le_refl 3)

theorem goesOn_afterOpening (hf : ∀ o ∈ γ.database.closings, o.fault = none)
    (hγ : γ₀.opening ≠ none) {ρ : Except Fault Nat} (hρ : γ.opened[γ₀.nextOpening]? = some ρ) :
    GoesOn 3 γ₀ (γ.afterOpening ρ) := by
  cases ρ with
  | ok p => exact goesOn_release h hf
  | error φ =>
    unfold afterOpening
    dsimp only
    split
    next hk => exact ⟨by rintro ψ ⟨⟩, by rintro ψ ⟨⟩, by rintro ψ ⟨⟩; exact ⟨hk, hγ, hρ⟩⟩
    · refine goesOn_release (γ := γ.log .warning .pool _) ?_ hf
      exact h.of_eq rfl rfl rfl

/-- A closing begins. -/
theorem goesOn_close (hf : ∀ o ∈ γ.database.closings, o.fault = none) : GoesOn 4 γ γ.close := by
  unfold close
  split
  next ho =>
    have ho : γ.opening ≠ none := Option.ne_none_iff_isSome.mpr ho
    unfold awaitOpening
    split
    next ρ hρ => exact (goesOn_afterOpening h hf ho hρ).mono (Nat.le_succ 3)
    next => exact goesOn_waiting ⟨ho, rfl⟩ (Nat.le_refl 4)
  next => exact (goesOn_release h hf).mono (Nat.le_succ 3)

/-- A closing goes on in time. -/
theorem ClosePhase.goesOn_resume (hf : ∀ o ∈ γ.database.closings, o.fault = none) {φ : ClosePhase}
    (hφ : φ.Suits γ₀ γ) (hs : ∀ s ψ, φ = .stoppingProxy s ψ → γ.world.InOrder s)
    (hr : φ.isReady γ = true) : GoesOn (φ.rank - 1) γ₀ (φ.resume γ) := by
  cases φ with
  | awaitingOpening m =>
    obtain ⟨hγ, rfl⟩ := hφ
    obtain ⟨ρ, hρ⟩ := Option.isSome_iff_exists.mp hr
    change GoesOn 3 γ₀ (γ.awaitOpening γ₀.nextOpening)
    unfold awaitOpening
    rw [hρ]
    exact goesOn_afterOpening h hf hγ hρ
  | awaitingPool t f =>
    cases hφ
    exact goesOn_afterClosingPool h
  | stoppingProxy s φ =>
    have ho := hs s φ rfl
    exact goesOn_afterStop (γ := { γ with world := (φ.resume s γ.world).1 }) (ho.resume hφ)
      (fun ψ hψ ↦ Nat.le_sub_one_of_lt (StopPhase.rank_resume hψ))
      (StopPhase.resume_ne_error ho (StopPhase.Fits.heeds hφ))

end GoesOn

/-! ## The pool comes first -/

theorem prefix_stop (w : World) (s : Nat) : w.events <+: (w.stop s).1.events := by
  unfold World.stop
  split
  · exact List.prefix_refl _
  · have hs : w.events <+: (w.say .info "Stopping proxy...").events := List.prefix_append ..
    dsimp only
    split <;> exact hs.trans (List.prefix_append ..)

theorem prefix_stopProxy (γ : Gate) : γ.world.events <+: γ.stopProxy.1.world.events := by
  unfold stopProxy
  split
  · exact List.prefix_refl _
  next s _ =>
    have hw : ({ γ with world := (γ.world.stop s).1 }.afterStop s (γ.world.stop s).2).1.world =
        (γ.world.stop s).1 := by
      unfold afterStop
      split <;> rfl
    dsimp only
    rw [hw]
    exact prefix_stop γ.world s

/-- A closing of a gate with a pool tells the pool to close, and only then does anything else. -/
theorem prefix_close {γ : Gate} {p : Nat} (hp : γ.pool = some p) (ho : γ.opening = none) :
    γ.world.events ++ [.closePool, .awaitPool] <+: γ.close.1.world.events := by
  have hc : γ.closePool.1.world.events = γ.world.events ++ [.closePool, .awaitPool] := by
    simp [closePool, emit, onWorld, World.emit]
  have hγ : γ.close = γ.release := by simp [close, ho]
  rw [hγ, ← hc]
  unfold release
  rw [hp]
  dsimp only
  split
  · cases γ.closePool.2.fault with
    | some φ => exact List.prefix_refl _
    | none =>
      have hl : γ.closePool.1.world.events <+: ({ γ.closePool.1 with pool := none }.log .info .pool
        "DB pool closed").world.events := List.prefix_append ..
      exact hl.trans (prefix_stopProxy _)
  · exact List.prefix_refl _

end Sluice.Gate
