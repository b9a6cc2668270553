import Sluice.Proofs.Gate.Completion
import Sluice.Proofs.Proxy.Pending

/-!
# Where openings and closings wait

Whatever waits for a moment can go on when it has come (`OpenPhase.isReady_of_due?` and the like).
While a process that is sent the signal which it cannot ignore ends, an opening or a closing waits
for a moment or for a process that will act, with one exception: a failed opening may wait for the
end of a process that its supervisor has let go of meanwhile, and nobody will see that end
(`Gate.IsStuck`).
-/

namespace Sluice.Gate

open Proxy

variable {b : Prop} {t : Time} {γ δ : Gate} {S : Nat → StopPhase → Prop}

/-! ## Moments that have come -/

theorem OpenPhase.isReady_of_due? {w : World} {φ : OpenPhase} (h : φ.due? = some t)
    (ht : t ≤ w.now) : φ.isReady w = true := by
  cases φ with
  | starting s φ => exact StartPhase.isReady_of_due? h ht
  | unwindingProxy s φ c => exact StopPhase.isReady_of_due? h ht
  | _ =>
    cases h
    simp [isReady, ht]

theorem reached_of_le {d : Option Time} (h : d = some t) {u : Time} (ht : t ≤ u) :
    Time.reached u d = true := by
  simp [h, Time.reached, ht]

theorem RunPhase.isReady_of_due? {φ : RunPhase} (h : φ.due? = some t) (ht : t ≤ γ.now) :
    φ.isReady γ = true := by
  cases φ with
  | joining n ρ => cases h
  | running p u d budget reply =>
    obtain h | h := Time.earlier_eq_some h
    · cases h
      simp [isReady, ht]
    · simp [isReady, reached_of_le h ht]

theorem ClosePhase.isReady_of_due? {φ : ClosePhase} (h : φ.due? = some t) (ht : t ≤ γ.now) :
    φ.isReady γ = true := by
  cases φ with
  | awaitingOpening n => cases h
  | awaitingPool u f =>
    cases h
    simp [isReady, ht]
  | stoppingProxy s φ => exact StopPhase.isReady_of_due? h ht

theorem ShutdownPhase.isReady_of_due? {φ : ShutdownPhase} (h : φ.due? = some t) (ht : t ≤ γ.now) :
    φ.isReady γ = true := by
  cases φ with
  | closing d grace φ =>
    obtain h | h := Time.earlier_eq_some h
    · simp [isReady, ClosePhase.isReady_of_due? h ht]
    · simp [isReady, reached_of_le h ht]
  | overdue grace φ => exact ClosePhase.isReady_of_due? (φ := φ) h ht
  | abandoned φ => exact ClosePhase.isReady_of_due? (φ := φ) h ht

/-! ## Openings -/

/-- A failed opening waits for the end of a process that its supervisor has let go of, and that was
not seen before. -/
def IsStuck (γ : Gate) : Prop := ∃ s p, γ.Unwinds s (.killed p) ∧
  (γ.world.supervisor s).child = none ∧ γ.world.hasSeen p = false

theorem not_isStuck_of_opening (h : γ.opening = none) : ¬ γ.IsStuck := by
  rintro ⟨s, p, ⟨c, hc⟩, -⟩
  rw [h] at hc
  cases hc

theorem isStuck_of_eq (ho : δ.opening = γ.opening) (hc : δ.world.children = γ.world.children)
    (hs : δ.world.supervisors = γ.world.supervisors) : δ.IsStuck ↔ γ.IsStuck := by
  simp only [IsStuck, Unwinds, ho, World.supervisor, World.hasSeen, World.child, hc, hs]

/-- Of what the supervisor has let go of no end will be seen. -/
theorem IsKept.isStuck_act (h : γ.IsKept b S) (q : Nat) :
    { γ with world := γ.world.act q }.IsStuck ↔ γ.IsStuck := by
  refine exists_congr fun s ↦ exists_congr fun p ↦ and_congr_right fun hu ↦ ?_
  change γ.Unwinds s (.killed p) at hu
  have ho := h.custody.order (h.custody.known (.inr hu))
  have hk := h.custody.knows (.inr hu)
  have hp : (γ.world.child p).owner = s := hk.owner
  rw [ho.child_act]
  refine and_congr_right fun hc ↦ ?_
  have hw : (γ.world.supervisor (γ.world.child p).owner).watches ≠ some p := by
    rw [hp, (ho.bare hc).2.1]
    rintro ⟨⟩
  rw [World.hasSeen_act hw]

/-- What has just come to its point is not stuck there. -/
theorem Carries.not_isStuck {φ : OpenPhase} (h : Carries γ φ δ) : ¬ δ.IsStuck := by
  rintro ⟨s, p, hu, hc, -⟩
  rw [(h.fits hu).child_eq] at hc
  cases hc

theorem IsStuck.isReady_eq_false (h : γ.IsStuck) {φ : OpenPhase} (ho : γ.opening = some φ) :
    φ.isReady γ.world = false := by
  obtain ⟨s, p, ⟨c, hc⟩, -, hp⟩ := h
  rw [ho] at hc
  cases hc
  exact hp

/-- An opening that waits and is not stuck goes on at a certain moment, or a process will act. -/
theorem IsKept.due_or_due (h : γ.IsKept b S) (hw : γ.world.IsFatal) (hs : ¬ γ.IsStuck) {φ : OpenPhase}
    (ho : γ.opening = some φ) (hr : φ.isReady γ.world = false) :
    φ.due? ≠ none ∨ γ.world.due? ≠ none := by
  cases φ with
  | starting s φ =>
    have hk := h.custody.order (h.custody.inHand (s := s) (by rw [inHand, ho]))
    exact StartPhase.due_or_due hw hk (h.starting ho).2.1 hr
  | unwindingProxy s φ c =>
    have hu : γ.Unwinds s φ := ⟨c, ho⟩
    have hk := h.custody.order (h.custody.known (.inr hu))
    obtain hc | hf := (h.custody.knows (.inr hu)).fits
    · cases φ with
      | grace p u => exact .inl (by simp [OpenPhase.due?, StopPhase.due?])
      | killed p => exact absurd ⟨s, p, hu, hc, hr⟩ hs
    · exact StopPhase.due_or_due hw hk hf hr
  | _ => exact .inl (by simp [OpenPhase.due?])

theorem OpenPhase.stage_pos (φ : OpenPhase) : 0 < φ.stage := by
  cases φ with
  | starting s φ => exact Nat.add_pos_left (Nat.succ_pos 4) _
  | unwindingProxy s φ c => exact φ.rank_pos
  | _ => exact Nat.succ_pos _

theorem ClosePhase.rank_pos (φ : ClosePhase) : 0 < φ.rank := by
  cases φ with
  | stoppingProxy s φ => exact φ.rank_pos
  | _ => exact Nat.succ_pos _

end Sluice.Gate
