import Sluice.Proofs.Proxy.Custody

/-!
# Work that nobody gives up

A supervisor whose work nobody gives up lets go of a process only once it has ended
(`World.Tends`): a stop that goes on in time has seen the end, and a start that fails is over when
such a stop is.
-/

namespace Sluice.Proxy

open Child

namespace World

/-- The supervisor that launched a process holds it. -/
def IsHeld (w : World) (p : Nat) : Prop := (w.supervisor (w.child p).owner).child = some p

/-- Whatever is not held in `v` has ended, or it was not held in `w` either. -/
def Minds (w v : World) : Prop := ∀ p < v.children.length, ¬ v.IsHeld p →
  (v.child p).isAlive = false ∨ p < w.children.length ∧ ¬ w.IsHeld p

/-- From `w` to `v` supervisors were at work, and let go of no process that had not ended. -/
structure Tends (w v : World) : Prop where
  children : w.children.length ≤ v.children.length
  signalled {p : Nat} : p < w.children.length → (w.child p).Signalled (v.child p)
  doomed {p : Nat} : w.children.length ≤ p → p < v.children.length → (v.child p).IsDoomed
  isMortal : w.IsMortal → v.IsMortal
  minds : w.Minds v

variable {s p : Nat} {w v u : World}

theorem Minds.refl (w : World) : w.Minds w := fun _ hp hn ↦ .inr ⟨hp, hn⟩

/-- What has ended by `v` stays so. -/
theorem Minds.trans (h : w.Minds v) (h' : v.Minds u)
    (hd : ∀ p < v.children.length, (v.child p).isAlive = false → (u.child p).isAlive = false) :
    w.Minds u := by
  intro p hp hn
  obtain he | ⟨hv, hn⟩ := h' p hp hn
  · exact .inl he
  · exact (h p hv hn).imp_left (hd p hv)

/-- Where processes and supervisors are the same, none was let go of. -/
theorem minds_of_eq (hc : v.children = w.children) (hs : v.supervisors = w.supervisors) :
    w.Minds v := by
  have hχ (p : Nat) : v.child p = w.child p := by rw [World.child, hc, World.child]
  intro p hp hn
  refine .inr ⟨hc ▸ hp, ?_⟩
  rwa [IsHeld, hχ, World.supervisor, hs] at hn

/-- Work that tends lets go only of what has ended. -/
theorem Minds.trans_tends (h : w.Minds v) (h' : v.Tends u) : w.Minds u :=
  h.trans h'.minds fun _ hp hd ↦ (h'.signalled hp).isAlive.trans hd

namespace Tends

/-- What is tended over two parts is tended over both. -/
theorem trans (h : w.Tends v) (h' : v.Tends u) : w.Tends u where
  children := Nat.le_trans h.children h'.children
  signalled hp := (h.signalled hp).trans (h'.signalled (Nat.lt_of_lt_of_le hp h.children))
  doomed {p} hp hp' := by
    by_cases hv : p < v.children.length
    · exact (h'.signalled hv).doomed (h.doomed hp hv)
    · exact h'.doomed (Nat.le_of_not_lt hv) hp'
  isMortal hm := h'.isMortal (h.isMortal hm)
  minds := h.minds.trans_tends h'

/-- Where nothing has changed, nothing was let go of. -/
theorem of_eq (hb : v.behaviours = w.behaviours) (hc : v.children = w.children)
    (hs : v.supervisors = w.supervisors) : w.Tends v where
  children := Nat.le_of_eq (by rw [hc])
  signalled {p} _ := by
    have hp : v.child p = w.child p := by rw [child, hc, child]
    exact hp ▸ .refl _
  doomed hp hp' := by rw [hc] at hp'; omega
  isMortal hm := by rwa [IsMortal, hb, hc]
  minds := minds_of_eq hc hs

theorem refl (w : World) : w.Tends w := of_eq rfl rfl rfl

/-- Whatever the supervisor at work lets go of has ended, and what it launches it holds. -/
theorem of_works (hw : w.Works s v)
    (hheld : ∀ p < w.children.length, (w.child p).owner = s → (w.supervisor s).child = some p →
      (v.supervisor s).child = some p ∨ (w.child p).isAlive = false)
    (hnew : ∀ p < v.children.length, w.children.length ≤ p → (v.supervisor s).child = some p) :
    w.Tends v where
  children := hw.children
  signalled := hw.signalled
  doomed hp hp' := (hw.launched hp hp').2
  isMortal := hw.isMortal
  minds p hp hn := by
    by_cases hl : p < w.children.length
    · have hχ := hw.signalled hl
      rw [IsHeld, hχ.owner] at hn
      by_cases ho : (w.child p).owner = s
      · rw [ho] at hn
        by_cases hc : (w.supervisor s).child = some p
        · exact .inl (hχ.isAlive.trans ((hheld p hl ho hc).resolve_left hn))
        · exact .inr ⟨hl, by rwa [IsHeld, ho]⟩
      · rw [hw.others ho] at hn
        exact .inr ⟨hl, hn⟩
    · have hl := Nat.le_of_not_lt hl
      rw [IsHeld, (hw.launched hl hp).1] at hn
      exact absurd (hnew p hp hl) hn

/-- The supervisor at work holds what it held. -/
theorem of_child (hw : w.Works s v) (hl : v.children.length = w.children.length)
    (hc : (v.supervisor s).child = (w.supervisor s).child) : w.Tends v :=
  of_works hw (fun _ _ _ hp ↦ .inl (hc.trans hp)) fun p hp hp' ↦ by omega

end Tends

/-! ## Stopping -/

theorem tends_emit (w : World) (ε : Event) : w.Tends (w.emit ε) := .of_eq rfl rfl rfl

theorem tends_say (w : World) (ι : Level) (x : String) : w.Tends (w.say ι x) := w.tends_emit _

/-- The state of a supervisor does not matter to its hold. -/
theorem tends_setState (w : World) (s : Nat) (σ : State) :
    w.Tends (w.onSupervisor s ({ · with state := σ })) := by
  refine .of_child (.onSupervisor w s _) rfl ?_
  rw [supervisor_onSupervisor]
  split <;> rfl

/-- To ask a process to end lets go of none. -/
theorem tends_terminate (w : World) (p : Nat) : w.Tends (w.terminate p) :=
  .of_child (w.works_terminate 0 p) (w.length_terminate p) (alike_terminate w p).child

/-- To kill a process lets go of none. -/
theorem tends_kill (w : World) (p : Nat) : w.Tends (w.kill p) :=
  .of_child (w.works_kill 0 p) (w.length_kill p) (alike_kill w p).child

/-- A process that has ended is let go. -/
theorem tends_release (w : World) (s : Nat)
    (hd : ∀ p, (w.supervisor s).child = some p → (w.child p).isAlive = false) :
    w.Tends (w.release s) :=
  .of_works (w.works_release s) (fun p _ _ hp ↦ .inr (hd p hp)) fun p hp hp' ↦ by
    have hl : (w.release s).children.length = w.children.length := rfl
    omega

/-- A stop that begins lets go only of a process that is over. -/
theorem InOrder.tends_stop (h : w.InOrder s) : w.Tends (w.stop s).1 := by
  unfold World.stop
  split
  · exact .refl w
  next p hc =>
    have ht := (w.tends_say .info "Stopping proxy...").trans (tends_setState _ s .stopping)
    have hs := h.of_akin (alike_say w .info "Stopping proxy...").toAkin
    have hv := hs.holds_setState hc .stopping
    replace hs := hs.setState .stopping
    dsimp only
    generalize (w.say .info "Stopping proxy...").onSupervisor s ({ · with state := .stopping }) = v
      at ht hs hv
    split
    next hq =>
      rw [hs.signal hv.1, Option.any_some, hs.hasSeen hv.1] at hq
      refine ht.trans (v.tends_release s fun q hq' ↦ ?_)
      rw [hv.1] at hq'
      cases hq'
      simpa using hq
    next => exact ht.trans (v.tends_terminate p)

end World

variable {s p : Nat} {w : World}

/-- A stop goes on in time, whether it has lost its process or not. -/
theorem StopPhase.tends_resume {φ : StopPhase} (h : w.InOrder s) (hφ : φ.Knows w s)
    (hr : φ.isReady w = true) : w.Tends (φ.resume s w).1 := by
  -- whatever the supervisor holds is what the stop is about, and it has ended once that was seen
  have hend {v : World} (ha : w.Alike s v) (hs : v.hasSeen φ.child = true) (q : Nat)
      (hq : (v.supervisor s).child = some q) : (v.child q).isAlive = false := by
    have hf := hφ.fits.resolve_left (by rw [← ha.child, hq]; simp)
    have hqφ := hf.child_eq.symm.trans (ha.child.symm.trans hq)
    cases hqφ
    simpa [(h.of_akin ha.toAkin).hasSeen hq] using hs
  cases φ with
  | killed p => exact w.tends_release s (hend (.refl w) hr)
  | grace p t =>
    have ht := (w.tends_say .warning "Force killing proxy...").trans (World.tends_kill _ p)
    have ha : w.Alike s ((w.say .warning "Force killing proxy...").kill p) :=
      (World.alike_say ..).trans (World.alike_kill ..)
    simp only [resume]
    split
    next hs => exact w.tends_release s (hend (.refl w) hs)
    · split
      next q hq =>
        split
        next hs =>
          refine ht.trans (World.tends_release _ s fun q' hq' ↦ ?_)
          have hsig := (h.of_akin ha.toAkin).signal hq'
          rw [hq] at hsig
          cases hsig
          simpa [(h.of_akin ha.toAkin).hasSeen hq'] using hs
        next => exact ht
      next hq =>
        refine ht.trans (World.tends_release _ s fun q' hq' ↦ ?_)
        rw [(h.of_akin ha.toAkin).signal hq'] at hq
        cases hq

/-! ## Starting -/

namespace World

/-- The end of a failed start lets go of no process. -/
theorem tends_settle (w : World) (s : Nat) (cause : Fault) (π : Stopping) :
    w.Tends (w.settle s cause π).1 := by
  unfold settle
  split
  · exact .refl w
  · exact w.tends_setState s .failed
  · exact .refl w

/-- A connection that has come to its end lets go of no process. -/
theorem tends_afterAttempt (w : World) (s p : Nat) (deadline : Time) (b : Bool) :
    w.Tends (w.afterAttempt s p deadline b).1 := by
  unfold World.afterAttempt
  split
  · exact (w.tends_setState s .running).trans (tends_say ..)
  · exact .refl w

namespace InOrder

/-- A start that fails lets go only of a process that is over. -/
theorem tends_fail (h : w.InOrder s) (cause : Fault) : w.Tends (w.fail s cause).1 :=
  h.tends_stop.trans (tends_settle ..)

/-- A look at a process lets go of none that is not over. -/
theorem tends_poll (h : w.InOrder s) (p : Nat) (deadline : Time) :
    w.Tends (w.poll s p deadline).1 := by
  unfold World.poll
  split
  · exact h.tends_fail _
  · split
    · split
      · exact .refl w
      · exact h.tends_fail _
    · have hc : w.Tends (w.connect s).1 := w.tends_emit _
      dsimp only
      split
      · exact hc.trans (tends_afterAttempt ..)
      · exact hc

/-- To wait for a process lets go of none that is not over. -/
theorem tends_awaitReady (h : w.InOrder s) (p : Nat) : w.Tends (w.awaitReady s p).1 := by
  unfold World.awaitReady
  dsimp only
  split
  · exact h.tends_fail _
  · exact (w.tends_say ..).trans ((h.of_akin (alike_say ..).toAkin).tends_poll p _)

/-- A process that is launched is held. -/
theorem tends_launchProxy (h : w.InOrder s) (hc : (w.supervisor s).child = none)
    (path : File.Path) : w.Tends (w.launchProxy s path).1 := by
  unfold World.launchProxy
  dsimp only
  have ht := w.tends_say .info ("Starting proxy: " ++ path.text ++ " " ++
    " ".intercalate (w.supervisor s).config.arguments)
  have ha := alike_say (s := s) w .info ("Starting proxy: " ++ path.text ++ " " ++
    " ".intercalate (w.supervisor s).config.arguments)
  replace h := h.of_akin ha.toAkin
  replace hc := ha.child.trans hc
  generalize w.say .info _ = x at h hc ht ⊢
  have hs := Akin.onSupervisor (s := s) x s
    (f := ({ · with state := .starting, lastError := .text "" })) (by simp)
  have hx : x.Tends (x.onSupervisor s ({ · with state := .starting, lastError := .text "" })) :=
    .of_child (.onSupervisor x s _) rfl hs.child
  generalize x.onSupervisor s _ = u at hs hx ⊢
  replace ht := ht.trans hx
  have hl := u.works_launch s (path.text :: (w.supervisor s).config.arguments)
  obtain ⟨v, hv, ⟨φ, hr⟩ | ⟨β, hr⟩⟩ := u.launch_cases s
    (path.text :: (w.supervisor s).config.arguments)
  all_goals
    have ho := h.of_akin (hs.trans hv.toAkin)
    have hc := (hs.trans hv.toAkin).child.trans hc
    rw [hr] at hl ⊢
    dsimp only at hl ⊢
  · have hu : u.Tends v := .of_child hl hv.children hv.child
    split
    · have hf := Akin.onSupervisor (s := s) v s
        (f := ({ · with state := .failed, lastError := .text φ.message })) (by simp)
      exact (ht.trans hu).trans (.of_child (.onSupervisor v s _) rfl hf.child)
    · exact ht.trans hu
  · -- the supervisor, which held nothing, holds the process that it has launched
    have hχ := ho.adopt hc (χ := Child.launch β s v.now) rfl rfl rfl
    have hu : u.Tends ((v.withChild (Child.launch β s v.now)).adopt s v.children.length) := by
      refine .of_works (hl.trans (works_adopt ..)) (fun p _ _ hp ↦ ?_) fun p hp hp' ↦ ?_
      · rw [← hv.child, hc] at hp
        cases hp
      · have hp : p < v.children.length + 1 := by simpa [World.adopt, World.withChild] using hp
        obtain rfl : p = v.children.length := by rw [← hv.children] at hp'; omega
        rw [World.adopt, supervisor_onSupervisor, if_pos ⟨rfl, ho.known⟩]
    exact (ht.trans hu).trans (hχ.tends_awaitReady _)

/-- To look for the program lets go of no process. -/
theorem tends_obtain (h : w.InOrder s) (hc : (w.supervisor s).child = none) :
    w.Tends (w.obtain s).1 := by
  have ha := alike_fetch (s := s) w s
  have ht : w.Tends (w.fetch s).1 := .of_eq rfl rfl rfl
  unfold World.obtain
  split
  next v φ hv => rwa [hv] at ht
  next v path hv =>
    rw [hv] at ha ht
    exact ht.trans ((h.of_akin ha.toAkin).tends_launchProxy (ha.child.trans hc) path)

/-- To wait for the program lets go of no process. -/
theorem tends_provide (h : w.InOrder s) (hc : (w.supervisor s).child = none) :
    w.Tends (w.provide s).1 := by
  unfold World.provide
  split
  · exact .refl w
  · split
    · exact .refl w
    · exact h.tends_obtain hc

end InOrder

end World

/-- A supervisor lets go of an earlier process when that is over. -/
theorem StopFits.tends_cleared {r : World × Stopping} (h : StopFits s r) :
    r.1.Tends (r.1.cleared s r.2).1 := by
  obtain ⟨w, π⟩ := r
  unfold World.cleared
  split
  · exact .refl w
  next hd => exact h.order.tends_provide (h.done hd)
  · exact .refl w

/-- A start goes on in time. -/
theorem StartPhase.tends_resume {φ : StartPhase} (h : w.InOrder s) (hφ : φ.Fits w s)
    (hr : φ.isReady s w = true) : w.Tends (φ.resume s w).1 := by
  cases φ with
  | clearing φ =>
    exact (StopPhase.tends_resume h (StopPhase.Fits.knows hφ h) hr).trans
      (h.resume hφ).tends_cleared
  | fetching t => exact h.tends_obtain hφ
  | connecting p deadline α => exact World.tends_afterAttempt ..
  | pausing p deadline t => exact h.tends_poll p deadline
  | draining p n t => exact h.tends_fail _
  | cleaning φ cause =>
    exact (StopPhase.tends_resume h (StopPhase.Fits.knows hφ h) hr).trans (World.tends_settle ..)

/-- A supervisor that is made holds nothing, and the others hold what they held. -/
theorem World.tends_addSupervisor (w : World) (κ : Config) : w.Tends (w.addSupervisor κ) where
  children := Nat.le_refl _
  signalled _ := .refl _
  doomed hp hp' := absurd hp' (Nat.not_lt.mpr hp)
  isMortal := id
  minds p hp hn := by
    refine .inr ⟨hp, fun hw ↦ hn ?_⟩
    have hl : (w.child p).owner < w.supervisors.length := by
      by_contra hl
      have hd : w.supervisor (w.child p).owner = default :=
        List.getD_eq_default _ _ (Nat.le_of_not_lt hl)
      rw [IsHeld, hd] at hw
      cases hw
    have hs : (w.addSupervisor κ).supervisor (w.child p).owner = w.supervisor (w.child p).owner :=
      List.getD_append _ _ _ _ hl
    change ((w.addSupervisor κ).supervisor (w.child p).owner).child = some p
    rwa [hs]

/-- A start begins. -/
theorem World.InOrder.tends_start (h : w.InOrder s) : w.Tends (w.start s).1 := by
  unfold World.start
  split
  · exact w.tends_say ..
  · exact h.tends_stop.trans h.stop.tends_cleared

/-! ## Acts of processes -/

/-- An act lets go of nothing. -/
theorem World.minds_act (w : World) (q : Nat) (h : ∀ s < w.supervisors.length, w.InOrder s)
    (ho : ∀ p < w.children.length, (w.child p).owner < w.supervisors.length) :
    w.Minds (w.act q) := by
  intro p hp hn
  have hl := (w.length_act q).2
  rw [hl] at hp
  refine .inr ⟨hp, ?_⟩
  rwa [IsHeld, (w.alike_act_absent q).owner, (h _ (ho p hp)).child_act] at hn

/-- Whatever processes do, none is let go of that has not ended. -/
theorem World.Minds.act {w v : World} (h : w.Minds v) (q : Nat)
    (hv : ∀ s < v.supervisors.length, v.InOrder s)
    (ho : ∀ p < v.children.length, (v.child p).owner < v.supervisors.length) :
    w.Minds (v.act q) :=
  h.trans (v.minds_act q hv ho) fun p _ ↦ (v.alike_act_absent q).ended p

end Sluice.Proxy
