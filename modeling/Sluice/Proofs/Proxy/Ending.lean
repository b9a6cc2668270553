import Sluice.Proofs.Proxy.Order

/-!
# How a start ends

A start that ends well leaves the supervisor with a process, and in the state of running it.  One
that fails or is given up leaves it with no process (`StartEnds`).
-/

namespace Sluice.Proxy

/-- What holds of a supervisor when a start of it has ended. -/
structure StartEnds (s : Nat) (r : World × Starting) : Prop where
  ok : r.2 = .done (.ok ()) → ∃ p, r.1.Holds s p .running
  error {φ : Fault} : r.2 = .done (.error φ) → (r.1.supervisor s).child = none

section

variable {s p : Nat} {w : World}

theorem StartEnds.of_waiting (w : World) (φ : StartPhase) : StartEnds s (w, .waiting φ) :=
  ⟨by rintro ⟨⟩, by rintro _ ⟨⟩⟩

theorem StartEnds.of_error (hc : (w.supervisor s).child = none) (φ : Fault) :
    StartEnds s (w, .done (.error φ)) := ⟨by rintro ⟨⟩, fun _ ↦ hc⟩

theorem StartEnds.of_ok (hp : w.Holds s p .running) : StartEnds s (w, .done (.ok ())) :=
  ⟨fun _ ↦ ⟨p, hp⟩, by rintro _ ⟨⟩⟩

theorem StopFits.ends_settle {r : World × Stopping} (h : StopFits s r) (cause : Fault) :
    StartEnds s (r.1.settle s cause r.2) := by
  obtain ⟨w, π⟩ := r
  unfold World.settle
  split
  next φ _ => exact .of_waiting w _
  next hd =>
    refine .of_error ?_ cause
    simpa [h.order.known] using h.done hd
  next hd => exact .of_error (h.done hd) _

namespace World.InOrder

theorem ends_fail (h : w.InOrder s) (cause : Fault) : StartEnds s (w.fail s cause) :=
  h.stop.ends_settle cause

theorem ends_afterAttempt (h : w.InOrder s) (hp : (w.supervisor s).child = some p)
    (deadline : Time) (b : Bool) : StartEnds s (w.afterAttempt s p deadline b) := by
  unfold World.afterAttempt
  split
  · exact .of_ok ((h.holds_setState hp .running).of_alike (alike_say ..))
  · exact .of_waiting w _

theorem ends_poll (h : w.InOrder s) (hp : (w.supervisor s).child = some p) (deadline : Time) :
    StartEnds s (w.poll s p deadline) := by
  unfold World.poll
  split
  · exact h.ends_fail _
  · split
    · split
      · exact .of_waiting w _
      · exact h.ends_fail _
    · have hc := alike_connect (s := s) w s
      dsimp only
      split
      · exact (h.of_akin hc.toAkin).ends_afterAttempt (hc.child.trans hp) deadline _
      · exact .of_waiting _ _

theorem ends_awaitReady (h : w.InOrder s) (hp : (w.supervisor s).child = some p) :
    StartEnds s (w.awaitReady s p) := by
  unfold World.awaitReady
  dsimp only
  split
  · exact h.ends_fail _
  · have ha := alike_say (s := s) w
    exact (h.of_akin (ha _ _).toAkin).ends_poll ((ha _ _).child.trans hp) _

theorem ends_launchProxy (h : w.InOrder s) (hc : (w.supervisor s).child = none)
    (path : File.Path) : StartEnds s (w.launchProxy s path) := by
  obtain ⟨-, v, φ, hv, he⟩ | ⟨-, v, hv, he⟩ := h.launchProxy_cases hc path
  · rw [he]
    exact .of_error (hv.child.trans hc) _
  · rw [he]
    exact hv.order.ends_awaitReady hv.holds.1

theorem ends_obtain (h : w.InOrder s) (hc : (w.supervisor s).child = none) :
    StartEnds s (w.obtain s) := by
  have ha := alike_fetch (s := s) w s
  unfold World.obtain
  split
  next v φ hv =>
    rw [hv] at ha
    exact .of_error (ha.child.trans hc) _
  next v path hv =>
    rw [hv] at ha
    exact (h.of_akin ha.toAkin).ends_launchProxy (ha.child.trans hc) path

theorem ends_provide (h : w.InOrder s) (hc : (w.supervisor s).child = none) :
    StartEnds s (w.provide s) := by
  unfold World.provide
  split
  · exact .of_error hc _
  · split
    · exact .of_waiting w _
    · exact h.ends_obtain hc

end World.InOrder

theorem StopFits.ends_cleared {r : World × Stopping} (h : StopFits s r) :
    StartEnds s (r.1.cleared s r.2) := by
  obtain ⟨w, π⟩ := r
  unfold World.cleared
  split
  next φ _ => exact .of_waiting w _
  next hd => exact h.order.ends_provide (h.done hd)
  next hd => exact .of_error (h.done hd) _

namespace World.InOrder

theorem ends_start (h : w.InOrder s) : StartEnds s (w.start s) := by
  unfold World.start
  split
  next hh =>
    have ha := alike_say (s := s) w .info "Proxy already running"
    cases hc : (w.supervisor s).child with
    | none => simp [isHealthy, hc] at hh
    | some p =>
      have hr : (w.supervisor s).state = .running := by
        simp only [isHealthy, Bool.and_eq_true, decide_eq_true_eq] at hh
        exact hh.1
      exact .of_ok (p := p) ⟨ha.child.trans hc, ha.state.trans hr⟩
  · exact h.stop.ends_cleared

theorem ends_resume {φ : StartPhase} (h : w.InOrder s) (hφ : φ.Fits w s) :
    StartEnds s (φ.resume s w) := by
  cases φ with
  | clearing φ => exact (h.resume hφ).ends_cleared
  | fetching t => exact h.ends_obtain hφ
  | connecting p deadline α => exact h.ends_afterAttempt hφ.1 deadline _
  | pausing p deadline t => exact h.ends_poll hφ.1 deadline
  | draining p n t => exact h.ends_fail _
  | cleaning φ cause => exact (h.resume hφ).ends_settle cause

theorem ends_cancel {φ : StartPhase} (h : w.InOrder s) (hφ : φ.Fits w s) :
    StartEnds s (φ.cancel s w) := by
  cases φ with
  | clearing φ => exact h.cancel.ends_cleared
  | fetching t =>
    have ha := (alike_interrupted (s := s) w).trans (alike_fetch w.interrupted s)
    exact .of_error (ha.child.trans hφ) _
  | connecting p deadline α | pausing p deadline t | draining p n t => exact h.ends_fail _
  | cleaning φ cause => exact h.cancel.ends_settle cause

end World.InOrder

end

end Sluice.Proxy
