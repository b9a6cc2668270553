import Sluice.Proofs.Gate.Custody
import Sluice.Proofs.Gate.Pools
import Sluice.Proofs.Proxy.Loss

/-!
# Gates at which no closing is given up

While no closing is given up and pools close without a fault, stops do not fail, and a supervisor
stays in use without a pool and without an opening only while it is being stopped
(`Gate.IsSteady`).  Openings and closings keep this up.
-/

namespace Sluice.Gate

open Proxy

/-- No stop that is under way will fail, and no pool that is closed. -/
structure IsHeedful (γ : Gate) (S : Nat → StopPhase → Prop) : Prop where
  heeds {s : Nat} {φ : StopPhase} : S s φ ∨ γ.Unwinds s φ → φ.Heeds γ.world s
  answers {o : Outcome} : o ∈ γ.database.closings → o.fault = none
  pending {t : Time} {o : Option Fault} {cause : Fault} :
    γ.opening = some (.unwindingPool t o cause) → o = none

/-- Besides, a supervisor in use serves a pool or an opening, or it is being stopped. -/
structure IsSteady (γ : Gate) (S : Nat → StopPhase → Prop) : Prop extends IsHeedful γ S where
  stopping {s : Nat} : γ.pool = none → γ.opening = none → γ.proxy = some s → ∃ φ, S s φ

variable {γ δ : Gate} {s : Nat} {v : World} {S : Nat → StopPhase → Prop}

/-- Neither processes and supervisors nor the opening have changed. -/
theorem IsHeedful.of_eq (h : γ.IsHeedful S) (hc : δ.world.children = γ.world.children)
    (hs : δ.world.supervisors = γ.world.supervisors) (ho : δ.opening = γ.opening)
    (ha : ∀ o ∈ δ.database.closings, o ∈ γ.database.closings) : δ.IsHeedful S where
  heeds hφ := (h.heeds (hφ.imp_right fun ⟨c, hc⟩ ↦ ⟨c, ho ▸ hc⟩)).of_eq hc hs
  answers hm := h.answers (ha _ hm)
  pending hφ := h.pending (ho ▸ hφ)

/-- Whether a gate is steady is told by its processes, its supervisors, what it holds and which
pools fail to close. -/
theorem IsSteady.of_eq (h : γ.IsSteady S) (hc : δ.world.children = γ.world.children)
    (hs : δ.world.supervisors = γ.world.supervisors) (hx : δ.proxy = γ.proxy)
    (ho : δ.opening = γ.opening) (hp : δ.pool = γ.pool)
    (ha : ∀ o ∈ δ.database.closings, o ∈ γ.database.closings) : δ.IsSteady S where
  toIsHeedful := h.toIsHeedful.of_eq hc hs ho ha
  stopping hq hn ht := h.stopping (hp ▸ hq) (ho ▸ hn) (hx ▸ ht)

/-! ## Openings -/

/-- An opening works, and no stop that is under way beside it will fail. -/
structure IsMinded (γ : Gate) (S : Nat → StopPhase → Prop) : Prop where
  custody : γ.world.Custody False γ.proxy S
  heeds {s : Nat} {φ : StopPhase} : S s φ → φ.Heeds γ.world s
  answers {o : Outcome} : o ∈ γ.database.closings → o.fault = none

section Opening

/-- Whether an opening works undisturbed is told by the processes, the supervisors, the proxy at
hand and the pools that fail to close. -/
theorem IsMinded.of_eq (h : γ.IsMinded S) (hc : δ.world.children = γ.world.children)
    (hs : δ.world.supervisors = γ.world.supervisors) (hx : δ.proxy = γ.proxy)
    (ha : ∀ o ∈ δ.database.closings, o ∈ γ.database.closings) : δ.IsMinded S :=
  ⟨hx ▸ h.custody.of_eq hc hs, fun hφ ↦ (h.heeds hφ).of_eq hc hs, fun hm ↦ h.answers (ha _ hm)⟩

/-- The supervisor in use stops its process. -/
theorem IsMinded.withWorld (h : γ.IsMinded S) (hw : γ.world.Works s v) (ho : v.InOrder s)
    (hs : World.StillStops s γ.world v) (hl : World.LetsGo s γ.world v) :
    { γ with world := v }.IsMinded S where
  custody := h.custody.of_stillStops hw ho hs
  heeds {t φ} hφ := by
    by_cases hts : t = s
    · subst hts
      exact (h.heeds hφ).of_letsGo (h.custody.knows hφ) hw hl
    · exact (h.heeds hφ).of_works (h.custody.knows hφ) hw hts
  answers := h.answers

/-- An opening that has let go of the proxy works on. -/
theorem IsMinded.drop (h : γ.IsMinded S) : { γ with proxy := none }.IsMinded S :=
  ⟨h.custody.drop False.elim, h.heeds, h.answers⟩

/-- An opening that has told the pool to close works on. -/
theorem IsMinded.closePool (h : γ.IsMinded S) : γ.closePool.1.IsMinded S :=
  h.of_eq rfl rfl rfl fun _ ↦ List.mem_of_mem_tail

/-- An opening that has ended leaves a pool in use, or no supervisor. -/
theorem isSteady_conclude (h : γ.IsMinded S) (r : Except Fault Nat)
    (hx : γ.pool = none → γ.proxy = none) : (γ.conclude r).IsSteady S where
  heeds hφ := h.heeds (hφ.resolve_right fun ⟨_, hc⟩ ↦ by cases hc)
  answers := h.answers
  pending hφ := by cases hφ
  stopping hp _ ht := by
    rw [show (γ.conclude r).proxy = γ.proxy from rfl, hx hp] at ht
    cases ht

/-- An opening that waits leaves the gate steady, whatever it waits for. -/
theorem isSteady_await (h : γ.IsMinded S) {φ : OpenPhase}
    (hu : ∀ s ψ cause, φ = .unwindingProxy s ψ cause → ψ.Fits γ.world s)
    (hp : ∀ t o cause, φ = .unwindingPool t o cause → o = none) : (γ.await φ).IsSteady S where
  heeds := by
    rintro s ψ (hψ | ⟨c, hc⟩)
    · exact h.heeds hψ
    · exact (hu s ψ c (Option.some_inj.mp hc)).heeds
  answers := h.answers
  pending hφ := hp _ _ _ (Option.some_inj.mp hφ)
  stopping _ ho := by cases ho

/-- An opening that is undone leaves the gate steady unless its proxy fails to stop. -/
theorem isSteady_afterUnwinding (h : γ.IsMinded S) {π : Stopping} (hπ : StopFits s (γ.world, π))
    (he : ∀ ψ, π ≠ .done (.error ψ)) (cause : Fault) :
    (γ.afterUnwinding s cause π).IsSteady S := by
  unfold afterUnwinding
  split
  next φ =>
    refine isSteady_await h ?_ (by simp)
    rintro t ψ c ⟨⟩
    exact hπ.waiting rfl
  · exact isSteady_conclude h.drop _ fun _ ↦ rfl
  next φ => exact absurd rfl (he φ)

/-- To undo an opening leaves the gate steady, from the proxy on. -/
theorem isSteady_unwindProxy (h : γ.IsMinded S) (cause : Fault) :
    (γ.unwindProxy cause).IsSteady S := by
  unfold unwindProxy
  split
  next hx => exact isSteady_conclude h _ fun _ ↦ hx
  next s hx =>
    have ho := h.custody.order (h.custody.inHand hx)
    have hv := h.withWorld (γ.world.works_stop s) ho.stop.order (World.stillStops_stop ho)
      (World.letsGo_stop ho)
    exact isSteady_afterUnwinding (γ := { γ with world := (γ.world.stop s).1 }) hv ho.stop
      (γ.world.stop_ne_error s) cause

/-- The gate is steady, whatever the first ping has come to. -/
theorem isSteady_afterPing (h : γ.IsMinded S) (τ : Target) (p : Nat) (o : Option Fault) :
    (γ.afterPing τ p o).IsSteady S := by
  cases o with
  | some φ =>
    have ho := fault_closePool fun _ ↦ h.answers
    unfold afterPing
    dsimp only
    rw [ho]
    split
    · exact isSteady_unwindProxy h.closePool _
    · refine isSteady_await h.closePool (by simp) ?_
      rintro t o c ⟨⟩
      rfl
  | none =>
    refine isSteady_conclude ?_ _ (by rintro ⟨⟩)
    exact h.of_eq rfl rfl rfl fun _ ↦ id

/-- The gate is steady, whatever the first connection has come to. -/
theorem isSteady_afterConnect (h : γ.IsMinded S) (τ : Target) (o : Option Fault) :
    (γ.afterConnect τ o).IsSteady S := by
  cases o with
  | some φ => exact isSteady_unwindProxy h _
  | none =>
    have hδ : { γ.emit .ping with
        pools := γ.pools ++ [Pool.fresh], database.pings := γ.database.pings.tail }.IsMinded S :=
      h.of_eq rfl rfl rfl fun _ ↦ id
    unfold afterConnect
    dsimp only
    split
    · exact isSteady_afterPing hδ ..
    · exact isSteady_await hδ (by simp) (by simp)

/-- To make a pool leaves the gate steady. -/
theorem isSteady_createPool (h : γ.IsMinded S) : γ.createPool.IsSteady S := by
  unfold createPool
  dsimp only
  split
  · exact isSteady_afterConnect h ..
  next timeout _ =>
    have hδ : { γ.emit (.createPool (poolOptions γ.settings γ.target timeout)) with
        database.connects := γ.database.connects.tail }.IsMinded S :=
      h.of_eq rfl rfl rfl fun _ ↦ id
    split
    · exact isSteady_afterConnect hδ ..
    · exact isSteady_await hδ (by simp) (by simp)

/-- The start of a supervisor has come to a point; nobody else knows it. -/
theorem isSteady_afterStart (h : γ.IsMinded S) (hs : s < γ.world.supervisors.length)
    (hx : γ.proxy = none) (π : Starting) : (γ.afterStart s π).IsSteady S := by
  unfold afterStart
  split
  · exact isSteady_await h (by simp) (by simp)
  · refine isSteady_createPool ⟨?_, h.heeds, h.answers⟩
    exact { h.custody with inHand := by rintro t ⟨⟩; exact hs, held := False.elim, unseen := False.elim }
  · exact isSteady_conclude h _ fun _ ↦ hx

/-- A supervisor is started that nobody else knows. -/
theorem IsMinded.start (h : γ.IsMinded S) (hS : ∀ φ, ¬ S s φ) (hw : γ.world.Works s v)
    (ho : v.InOrder s) : { γ with world := v }.IsMinded S where
  custody := h.custody.of_works hw ho (fun hb ↦ hb.elim) fun φ hφ ↦ absurd hφ (hS φ)
  heeds {t φ} hφ := by
    refine (h.heeds hφ).of_works (h.custody.knows hφ) hw ?_
    rintro rfl
    exact hS φ hφ
  answers := h.answers

/-- A gate at which nothing fails and no start is pending is one at which an opening works
undisturbed. -/
theorem IsKept.isMinded {b : Prop} (h : γ.IsKept b S) (hh : γ.IsHeedful S)
    (hs : ∀ s φ, γ.opening ≠ some (.starting s φ)) : γ.IsMinded S where
  custody := { h.custody_proxy hs with held := False.elim, unseen := False.elim }
  heeds hφ := hh.heeds (.inl hφ)
  answers := hh.answers

/-- An opening that has begun leaves no supervisor in use but for a pool, for itself or for a stop
that is under way. -/
theorem IsHeedful.beginOpening (hs : γ.IsHeedful S) (h : γ.IsKept False S)
    (ho : γ.opening = none) : γ.beginOpening.IsSteady S := by
  have hm := h.isMinded hs (by simp [ho])
  unfold Gate.beginOpening
  split
  next hx =>
    have hx : γ.proxy = none := by simpa using (Bool.and_eq_true_iff.mp hx).2
    cases γ.settings.proxy with
    | error φ => exact isSteady_conclude hm _ fun _ ↦ hx
    | ok κ =>
      set n := γ.world.supervisors.length with hn
      have ha : { γ with world := γ.world.addSupervisor κ }.IsMinded S := by
        refine ⟨?_, fun {t φ} hφ ↦ ?_, hm.answers⟩
        · have := (hx ▸ hm.custody).addSupervisor κ False.elim
          exact { this with
            inHand := by rw [hx]; rintro t ⟨⟩
            held := False.elim
            unseen := False.elim }
        · have hσ : (γ.world.addSupervisor κ).supervisor t = γ.world.supervisor t :=
            List.getD_append _ _ _ _ (hm.custody.known hφ)
          have := hm.heeds hφ
          rwa [StopPhase.Heeds, ← hσ] at this
      have hl : n < (γ.world.addSupervisor κ).supervisors.length := by
        simp [World.addSupervisor, hn]
      have hSn (φ : StopPhase) : ¬ S n φ := fun hφ ↦ Nat.lt_irrefl n (hm.custody.known hφ)
      have hfresh : ((γ.world.addSupervisor κ).supervisor n).child = none := by
        simp [World.addSupervisor, World.supervisor, hn]
      have hf := (ha.custody.order hl).start (.of_child hfresh)
      exact isSteady_afterStart (ha.start hSn (World.works_start _ n) hf.order) hf.order.known hx _
  · exact isSteady_createPool hm

/-- An opening that goes on leaves the gate steady. -/
theorem IsHeedful.resumeOpening (hs : γ.IsHeedful S) (h : γ.IsKept False S) {φ : OpenPhase}
    (ho : γ.opening = some φ) (hr : φ.isReady γ.world = true) : (φ.resume γ).IsSteady S := by
  cases φ with
  | starting s φ =>
    obtain ⟨hx, hφ, hS⟩ := h.starting ho
    have hk := h.custody.order (h.custody.inHand (s := s) (by rw [inHand, ho]))
    have hm : γ.IsMinded S :=
      { custody := { h.custody.mono fun _ _ ↦ Or.inl with
          inHand := by rw [hx]; rintro t ⟨⟩
          held := False.elim
          unseen := False.elim }
        heeds := fun hφ ↦ hs.heeds (.inl hφ)
        answers := hs.answers }
    have hf := hk.resumeStart hφ
    exact isSteady_afterStart (hm.start hS (φ.works_resume s γ.world) hf.order) hf.order.known hx _
  | connecting τ t o => exact isSteady_afterConnect (h.isMinded hs (by simp [ho])) ..
  | pinging τ p t o => exact isSteady_afterPing (h.isMinded hs (by simp [ho])) ..
  | unwindingPool t o cause =>
    rw [hs.pending ho]
    exact isSteady_unwindProxy (h.isMinded hs (by simp [ho])) cause
  | unwindingProxy s φ cause =>
    have hu : S s φ ∨ γ.Unwinds s φ := .inr ⟨cause, ho⟩
    have hk := h.custody.order (h.custody.known hu)
    have hφ := h.custody.knows hu
    have hm := (h.isMinded hs (by simp [ho])).withWorld (φ.works_resume s γ.world)
      (hk.resume_of_knows hφ).order (StopPhase.stillStops_resume hk hφ)
      (StopPhase.letsGo_resume hk hφ hr)
    exact isSteady_afterUnwinding (γ := { γ with world := (φ.resume s γ.world).1 }) hm
      (hk.resume_of_knows hφ) (StopPhase.resume_ne_error hk (hs.heeds hu)) cause

end Opening

/-! ## Closings -/

section Closing

/-- A closing has come to a point, and the gate is steady. -/
def Steadies (S : Nat → StopPhase → Prop) {α : Type} (r : Gate × Progress ClosePhase α) : Prop :=
  r.1.IsSteady (Adds S r.2)

/-- A closing that is over, or waits for no stop, leaves a steady gate so. -/
theorem IsSteady.steadies (h : γ.IsSteady S) {α : Type} {π : Progress ClosePhase α}
    (hπ : ∀ s φ, π ≠ .waiting (.stoppingProxy s φ)) : Steadies S (γ, π) :=
  { h with
    heeds := fun hφ ↦ h.heeds (hφ.imp_left (·.resolve_right (hπ _ _)))
    stopping := fun hp ho hx ↦ by
      obtain ⟨φ, hφ⟩ := h.stopping hp ho hx
      exact ⟨φ, .inl hφ⟩ }

/-- A closing has stopped the supervisor `s`, or stops it; another one in use is stopped too. -/
theorem IsHeedful.steadies_afterStop (h : γ.IsHeedful S) {π : Stopping}
    (hπ : StopFits s (γ.world, π)) (he : ∀ ψ, π ≠ .done (.error ψ))
    (hx : ∀ t, t ≠ s → γ.pool = none → γ.opening = none → γ.proxy = some t → ∃ φ, S t φ) :
    Steadies S (γ.afterStop s π) := by
  unfold afterStop
  split
  next φ =>
    refine { h with heeds := ?_, stopping := fun {t} hp ho ht ↦ ?_ }
    · rintro t ψ ((hψ | hψ) | hψ)
      · exact h.heeds (.inl hψ)
      · cases hψ
        exact (hπ.waiting rfl).heeds
      · exact h.heeds (.inr hψ)
    · by_cases hts : t = s
      · exact ⟨φ, .inr (by rw [hts])⟩
      · obtain ⟨ψ, hψ⟩ := hx t hts hp ho ht
        exact ⟨ψ, .inl hψ⟩
  next =>
    have hδ : { γ with proxy := none }.IsSteady S := { h with stopping := by rintro t - - ⟨⟩ }
    exact hδ.steadies (by simp)
  next φ => exact absurd rfl (he φ)

/-- A stop begins or goes on, of a supervisor that is not being started. -/
theorem IsHeedful.withWorld (h : γ.IsHeedful S) (hk : γ.IsKept False S) (hw : γ.world.Works s v)
    (hl : World.LetsGo s γ.world v) : { γ with world := v }.IsHeedful S where
  heeds {t φ} hφ := by
    have hφk := hk.custody.knows hφ
    by_cases hts : t = s
    · subst hts
      exact (h.heeds hφ).of_letsGo hφk hw hl
    · exact (h.heeds hφ).of_works hφk hw hts
  answers := h.answers
  pending := h.pending

/-- To stop the proxy steadies the gate. -/
theorem IsHeedful.steadies_stopProxy (h : γ.IsHeedful S) (hk : γ.IsKept False S) :
    Steadies S γ.stopProxy := by
  unfold stopProxy
  split
  next hx =>
    refine IsSteady.steadies { h with stopping := fun _ _ ht ↦ ?_ } (by simp)
    rw [hx] at ht
    cases ht
  next s hx =>
    have ho := hk.custody.order (hk.custody.inHand (hk.inHand_of_proxy hx))
    have hv := h.withWorld hk (γ.world.works_stop s) (World.letsGo_stop ho)
    refine hv.steadies_afterStop ho.stop (γ.world.stop_ne_error s) fun t hts _ _ ht ↦ ?_
    exact absurd (Option.some_inj.mp (ht.symm.trans hx)) hts

/-- The gate gets steady, whatever the closing of the pool has come to. -/
theorem IsSteady.steadies_afterClosingPool (h : γ.IsSteady S) (hk : γ.IsKept False S)
    (o : Option Fault) : Steadies S (γ.afterClosingPool o) := by
  cases o with
  | some φ => exact h.steadies (by simp)
  | none =>
    refine IsHeedful.steadies_stopProxy ?_ ?_
    · exact h.toIsHeedful.of_eq rfl rfl rfl fun _ ↦ id
    · exact hk.of_eq rfl rfl rfl rfl (by rintro _ ⟨⟩)

/-- To let go of pool and proxy steadies the gate. -/
theorem IsSteady.steadies_release (h : γ.IsSteady S) (hk : γ.IsKept False S) :
    Steadies S γ.release := by
  have hδ : γ.closePool.1.IsSteady S := h.of_eq rfl rfl rfl rfl rfl fun _ ↦ List.mem_of_mem_tail
  have hkδ : γ.closePool.1.IsKept False S := hk.of_eq rfl rfl rfl rfl fun _ ↦ id
  unfold release
  split
  · exact h.toIsHeedful.steadies_stopProxy hk
  · dsimp only
    split
    · exact hδ.steadies_afterClosingPool hkδ _
    · exact hδ.steadies (by simp)

/-- The gate gets steady once an opening has ended that a closing waited for. -/
theorem IsSteady.steadies_afterOpening (h : γ.IsSteady S) (hk : γ.IsKept False S)
    (r : Except Fault Nat) : Steadies S (γ.afterOpening r) := by
  cases r with
  | ok p => exact h.steadies_release hk
  | error φ =>
    unfold afterOpening
    dsimp only
    split
    · exact h.steadies (by simp)
    · refine IsSteady.steadies_release ?_ ?_
      · exact h.of_eq rfl rfl rfl rfl rfl fun _ ↦ id
      · exact hk.of_eq rfl rfl rfl rfl fun _ ↦ id

/-- A closing that waits for an opening leaves the gate steady. -/
theorem IsSteady.steadies_awaitOpening (h : γ.IsSteady S) (hk : γ.IsKept False S) (n : Nat) :
    Steadies S (γ.awaitOpening n) := by
  unfold awaitOpening
  split
  · exact h.steadies_afterOpening hk _
  · exact h.steadies (by simp)

/-- To close a steady gate leaves it steady. -/
theorem IsSteady.steadies_close (h : γ.IsSteady S) (hk : γ.IsKept False S) :
    Steadies S γ.close := by
  unfold Gate.close
  split
  · exact h.steadies_awaitOpening hk _
  · exact h.steadies_release hk

/-- A closing goes on in time. -/
theorem IsSteady.steadies_resume {φ : ClosePhase}
    (h : γ.IsSteady (Adds S (α := Unit) (.waiting φ)))
    (hk : γ.IsKept False (Adds S (α := Unit) (.waiting φ))) (hr : φ.isReady γ = true) :
    Steadies S (φ.resume γ) := by
  have hh : γ.IsHeedful S := { h with heeds := fun hφ ↦ h.heeds (hφ.imp_left .inl) }
  have hkS : γ.IsKept False S := hk.mono fun _ _ ↦ Or.inl
  have hS (hφ : ∀ s ψ, φ ≠ .stoppingProxy s ψ) : γ.IsSteady S :=
    { hh with
      stopping := fun hp ho hx ↦ by
        obtain ⟨ψ, hψ⟩ := h.stopping hp ho hx
        exact ⟨ψ, hψ.resolve_right fun he ↦ by cases he; exact hφ _ _ rfl⟩ }
  cases φ with
  | awaitingOpening n => exact (hS (by simp)).steadies_awaitOpening hkS n
  | awaitingPool t o => exact (hS (by simp)).steadies_afterClosingPool hkS o
  | stoppingProxy s φ =>
    have hφ : Adds S (α := Unit) (.waiting (.stoppingProxy s φ)) s φ ∨ γ.Unwinds s φ :=
      .inl (.inr rfl)
    have hks := hk.custody.knows hφ
    have ho := hk.custody.order (hk.custody.known hφ)
    have hv := hh.withWorld hkS (φ.works_resume s γ.world) (StopPhase.letsGo_resume ho hks hr)
    refine hv.steadies_afterStop (ho.resume_of_knows hks)
      (StopPhase.resume_ne_error ho (h.heeds hφ)) fun t hts hp hn ht ↦ ?_
    obtain ⟨ψ, hψ⟩ := h.stopping hp hn ht
    exact ⟨ψ, hψ.resolve_right fun he ↦ by cases he; exact hts rfl⟩

end Closing

/-- Nothing that is under way at a gate fails because a process acts. -/
theorem IsHeedful.act (h : γ.IsHeedful S) (hk : γ.IsKept False S) (q : Nat) :
    { γ with world := γ.world.act q }.IsHeedful S :=
  { h with heeds := fun hφ ↦ (h.heeds hφ).act (hk.custody.order (hk.custody.known hφ)) q }

/-- A gate stays steady whatever a process does. -/
theorem IsSteady.act (h : γ.IsSteady S) (hk : γ.IsKept False S) (q : Nat) :
    { γ with world := γ.world.act q }.IsSteady S :=
  { h.toIsHeedful.act hk q with stopping := h.stopping }

end Sluice.Gate
