import Sluice.Proofs.Proxy.Custody

/-!
# Stops that nobody gives up

A stop that nobody gives up lets go of a process only when its end has been seen (`World.LetsGo`).
So none of several stops of one supervisor fails: when one of them has let go of the process, the
others have seen its end as well (`StopPhase.Heeds`).
-/

namespace Sluice.Proxy

/-- From `w` to `v` the supervisor let go of no process but one whose end it had seen. -/
structure World.LetsGo (s : Nat) (w v : World) : Prop where
  seen {p : Nat} : (w.supervisor s).child = some p → (v.supervisor s).child = none →
    w.hasSeen p = true
  state : (v.supervisor s).child = none →
    (v.supervisor s).state ≠ .running ∨ v.supervisor s = w.supervisor s

/-- A stop that has lost its process has seen the end of it. -/
def StopPhase.Heeds (w : World) (s : Nat) (φ : StopPhase) : Prop :=
  (w.supervisor s).child = none →
    w.hasSeen φ.child = true ∧ (w.supervisor s).state ≠ .running

section

variable {s t : Nat} {w v : World} {φ : StopPhase}

theorem StopPhase.Fits.heeds (hφ : φ.Fits w s) : φ.Heeds w s := fun hc ↦ by
  rw [hφ.child_eq] at hc
  cases hc

/-- A supervisor that is being stopped runs nothing. -/
theorem StopPhase.Heeds.state_ne (hφ : φ.Heeds w s) (hk : φ.Knows w s) :
    (w.supervisor s).state ≠ .running := by
  obtain hc | hf := hk.fits
  · exact (hφ hc).2
  · have hs : (w.supervisor s).state = .stopping := by
      cases φ with
      | grace p t => exact hf.2
      | killed p => exact hf.1.2
    simp [hs]

/-! ## What a stop lets go of -/

theorem World.state_release (h : w.InOrder s) : ((w.release s).supervisor s).state = .stopped := by
  simp [World.release, h.known]

/-- The process whose end was seen is let go. -/
theorem World.letsGo_release (h : w.InOrder s)
    (hp : ∀ p, (v.supervisor s).child = some p → v.hasSeen p = true) :
    World.LetsGo s v (w.release s) :=
  ⟨fun hc _ ↦ hp _ hc, fun _ ↦ .inl (by simp [World.state_release h])⟩

/-- The process is still held. -/
theorem World.letsGo_of_child {p : Nat} (hp : (v.supervisor s).child = some p) :
    World.LetsGo s w v := by
  have hv : (v.supervisor s).child ≠ none := by rw [hp]; simp
  exact ⟨fun _ hc ↦ absurd hc hv, fun hc ↦ absurd hc hv⟩

theorem World.letsGo_stop (h : w.InOrder s) : World.LetsGo s w (w.stop s).1 := by
  unfold World.stop
  split
  next hc => exact ⟨fun hp ↦ by (rw [hc] at hp; cases hp), fun _ ↦ .inr rfl⟩
  next p hc =>
    have hs := h.of_akin (alike_say w .info "Stopping proxy...").toAkin
    have hv := hs.holds_setState hc .stopping
    replace hs := hs.setState .stopping
    have hseen (q : Nat) : ((w.say .info "Stopping proxy...").onSupervisor s
      ({ · with state := .stopping })).hasSeen q = w.hasSeen q := rfl
    dsimp only
    split
    next hq =>
      rw [hs.signal hv.1, Option.any_some, hseen] at hq
      refine World.letsGo_release hs fun q hq' ↦ ?_
      rw [hc] at hq'
      cases hq'
      exact hq
    next => exact World.letsGo_of_child (hv.of_alike (alike_terminate _ p)).1

/-- A stop that begins does not fail. -/
theorem World.stop_ne_error (w : World) (s : Nat) (ψ : Fault) :
    (w.stop s).2 ≠ .done (.error ψ) := by
  unfold World.stop
  split
  · simp
  · dsimp only
    split <;> simp

theorem StopPhase.letsGo_resume (h : w.InOrder s) (hk : φ.Knows w s) (hr : φ.isReady w = true) :
    World.LetsGo s w (φ.resume s w).1 := by
  have hchild {q : Nat} (hq : (w.supervisor s).child = some q) : q = φ.child := by
    obtain hc | hf := hk.fits
    · rw [hc] at hq
      cases hq
    · exact (Option.some_inj.mp (hf.child_eq.symm.trans hq)).symm
  cases φ with
  | killed p => exact World.letsGo_release h fun q hq ↦ hchild hq ▸ hr
  | grace p t =>
    have ha : w.Alike s ((w.say .warning "Force killing proxy...").kill p) :=
      (World.alike_say ..).trans (World.alike_kill ..)
    simp only [resume]
    split
    next hp => exact World.letsGo_release h fun q hq ↦ hchild hq ▸ hp
    next hp =>
      cases hc : (w.supervisor s).child with
      | none =>
        have hb := (h.of_akin ha.toAkin).bare (ha.child.trans hc)
        rw [hb.1]
        exact World.letsGo_release (h.of_akin ha.toAkin) fun q hq ↦ by rw [hc] at hq; cases hq
      | some q =>
        rw [(h.of_akin ha.toAkin).signal (ha.child.trans hc)]
        obtain rfl : q = p := hchild hc
        dsimp only
        rw [ha.hasSeen hc, if_neg hp]
        exact World.letsGo_of_child (ha.child.trans hc)

/-- A stop that goes on does not fail, unless it lost its process without seeing the end. -/
theorem StopPhase.resume_ne_error (h : w.InOrder s) (hφ : φ.Heeds w s) (ψ : Fault) :
    (φ.resume s w).2 ≠ .done (.error ψ) := by
  cases φ with
  | killed p => simp [resume]
  | grace p t =>
    have ha : w.Alike s ((w.say .warning "Force killing proxy...").kill p) :=
      (World.alike_say ..).trans (World.alike_kill ..)
    simp only [resume]
    split
    · simp
    next hp =>
      cases hc : (w.supervisor s).child with
      | none => exact absurd (hφ hc).1 hp
      | some q =>
        rw [(h.of_akin ha.toAkin).signal (ha.child.trans hc)]
        dsimp only
        split <;> simp

/-! ## What keeps stops heedful -/

theorem StopPhase.Heeds.of_letsGo (hφ : φ.Heeds w s) (hk : φ.Knows w s) (hw : w.Works s v)
    (hl : World.LetsGo s w v) : φ.Heeds v s := by
  intro hc
  have hseen : v.hasSeen φ.child = w.hasSeen φ.child := by
    rw [World.hasSeen, (hw.signalled hk.launched).seen, World.hasSeen]
  have hcw : w.hasSeen φ.child = true := by
    obtain hn | hf := hk.fits
    · exact (hφ hn).1
    · exact hl.seen hf.child_eq hc
  refine ⟨hseen.trans hcw, ?_⟩
  obtain hs | hs := hl.state hc
  · exact hs
  · rw [hs]
    exact hφ.state_ne hk

theorem StopPhase.Heeds.of_works (hφ : φ.Heeds w t) (hk : φ.Knows w t) (hw : w.Works s v)
    (ht : t ≠ s) : φ.Heeds v t := by
  unfold StopPhase.Heeds
  rw [hw.others ht, World.hasSeen, (hw.signalled hk.launched).seen]
  exact hφ

theorem StopPhase.Heeds.of_eq (hφ : φ.Heeds w s) (hc : v.children = w.children)
    (hs : v.supervisors = w.supervisors) : φ.Heeds v s := by
  unfold StopPhase.Heeds at hφ ⊢
  simp only [World.supervisor, World.hasSeen, World.child] at hφ ⊢
  rwa [hc, hs]

theorem StopPhase.Heeds.act (hφ : φ.Heeds w s) (h : w.InOrder s) (q : Nat) :
    φ.Heeds (w.act q) s := by
  intro hc
  rw [h.child_act] at hc
  obtain ⟨h1, h2⟩ := hφ hc
  refine ⟨World.hasSeen_act_of_hasSeen h1 q, ?_⟩
  obtain ha | ⟨hq, -⟩ := h.act_cases q
  · rwa [ha.state]
  · rw [hc] at hq
    cases hq

end

end Sluice.Proxy
