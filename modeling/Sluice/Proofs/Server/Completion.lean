import Sluice.Proofs.Gate.Completion
import Sluice.Proofs.Server.Plain

/-!
# A closing that nobody disturbs

While nobody comes and nobody gives the closing up, it does not fail, unless the opening that it
waited for had been given up; and no process is let go of that has not ended (`Desk.Closes`).
-/

namespace Sluice.Server

open Proxy Gate

namespace Desk

/-- What leaves a job alone: nobody comes or gives it up, and pools close without a fault. -/
def LeavesAlone (i : Nat) : Occurrence → Prop
  | .take _ => False
  | .giveUp j => j ≠ i
  | .shift _ β => ∀ o ∈ β.closings, o.fault = none
  | _ => True

/-- What holds of a closing that began at `γ₀` and has led to `γ`. -/
def HasCome (γ₀ γ : Gate) : Closing → Prop
  | .waiting φ => Stands True γ₀ γ φ ∧ φ.Suits γ₀ γ
  | .done (.ok _) => γ.opening = none ∧ γ.pool = none ∧ γ.proxy = none ∧ γ₀.Told γ
  | .done (.error f) => γ.opening = none ∧ f.kind = .cancelled ∧ γ₀.opening ≠ none ∧
      γ.opened[γ₀.nextOpening]? = some (.error f)

/-- The job of a number is a closing that began at `γ₀`, and nobody else closes. -/
structure Closes (b : Prop) (γ₀ : Gate) (i : Nat) (δ : Desk) : Prop where
  service : δ.InService b
  alone : δ.Alone i
  concerned : γ₀.atHand + γ₀.ahead ≤ 1
  faultless : ∀ o ∈ δ.gate.database.closings, o.fault = none
  minds : γ₀.world.Minds δ.gate.world
  job : ∃ π : Closing, δ.job? i = some (part .closing (fun _ ↦ .nothing) π) ∧ HasCome γ₀ δ.gate π

/-- What happens beside a closing at `δ` spares what that relies on: pools close without a fault,
processes are let go of only when they have ended, openings keep their results, and a stop holds on
to its process while no opening is pending. -/
structure Spares (w : World) (δ ε : Desk) : Prop where
  faultless : ∀ o ∈ ε.gate.database.closings, o.fault = none
  minds : w.Minds ε.gate.world
  opened : δ.gate.opened <+: ε.gate.opened
  fits : δ.gate.opening = none → ∀ (s : Nat) (φ : StopPhase), φ.Fits δ.gate.world s →
    δ.gate.world.InOrder s → φ.Fits ε.gate.world s

variable {b : Prop} {γ₀ γ : Gate} {i n : Nat} {δ ε : Desk} {o : Occurrence}

theorem hasCome {r : Gate × Closing} (hc : Comes True γ₀ r) (hg : GoesOn n γ₀ r) :
    HasCome γ₀ r.1 r.2 := by
  obtain ⟨γ, φ | f | u⟩ := r
  · exact ⟨hc.waiting rfl, hg.suits rfl⟩
  · exact ⟨hc.idle rfl, hg.error rfl⟩
  · obtain ⟨hp, hx, ht⟩ := hc.done rfl
    exact ⟨hc.idle rfl, hp, hx, ht trivial⟩

theorem InService.isOrdered (h : δ.InService b) : δ.gate.IsOrdered := fun _ hs ↦
  h.gate.custody.order (h.gate.custody.inHand (h.gate.inHand_of_proxy hs))

namespace Closes

theorem isSimple (h : Closes b γ₀ i δ) : δ.IsSimple where
  service := h.service.weaken
  plain {π φ} hπ hφ := by
    obtain ⟨j, hj⟩ := List.mem_iff_getElem?.mp hπ
    by_cases hji : j = i
    · obtain ⟨π', hπ', -⟩ := h.job
      obtain rfl : part .closing (fun _ ↦ .nothing) π' = π :=
        Option.some_inj.mp (hπ'.symm.trans (hji ▸ hj))
      exact eq_of_closesAt_closing hφ
    · exact absurd hφ (h.alone j π φ hji hj)

theorem isPlain (h : Closes b γ₀ i δ) (ho : LeavesAlone i o) : δ.IsPlain o := by
  cases o with
  | take d => exact ho.elim
  | giveUp j => exact fun π φ hj ↦ h.alone j π φ ho hj
  | _ => trivial

/-- Whatever closing is under way is the one, and where it stands is known. -/
theorem stands (h : Closes b γ₀ i δ) {j : Nat} {φ : ClosePhase}
    (hj : δ.job? j = some (.waiting (.closing φ))) :
    j = i ∧ Stands True γ₀ δ.gate φ ∧ φ.Suits γ₀ δ.gate := by
  have hji : j = i := by
    by_contra hji
    exact h.alone j _ φ hji hj (closesAt_waiting.mpr rfl)
  subst hji
  obtain ⟨π, hπ, hc⟩ := h.job
  rw [hπ] at hj
  cases π <;> cases hj
  exact ⟨rfl, hc⟩

theorem spares (h : Closes b γ₀ i δ) (ho : LeavesAlone i o) (hi : o ≠ .resume i) :
    Spares γ₀.world δ (δ.occur o) := by
  have hm := h.isSimple.moves (h.isPlain ho)
  generalize δ.occur o = ε at hm
  cases hm with
  | idle => exact ⟨h.faultless, h.minds, List.prefix_rfl, fun _ _ _ hφ _ ↦ hφ⟩
  | asks _ hj hψ hr =>
    have ha := hr.aloof
    exact
      { faultless := fun o ho ↦ h.faultless o (ha.answers ▸ ho)
        minds := h.minds.trans_tends ha.tends
        opened := ha.opened ▸ List.prefix_rfl
        fits := fun _ _ _ hφ _ ↦ hφ.of_alike (.of_eq ha.children ha.supervisors) }
  | @closing j φ hj hφ =>
    have hji : j ≠ i := by
      rintro rfl
      exact hi rfl
    exact absurd (closesAt_waiting.mpr rfl) (h.alone j _ φ hji hj)
  | pool κ => exact ho.elim
  | close => exact ho.elim
  | @proceed φ hφ hr =>
    have hc := h.service.gate.carries_resume hφ hr
    exact
      { faultless := fun o ho ↦ h.faultless o (hc.answers ho)
        minds := h.minds.trans_tends hc.tends
        opened := (φ.advances_resume δ.gate).prefix_opened
        fits := fun hn ↦ by rw [hφ] at hn; cases hn }
  | act p =>
    have hk := h.service.gate.custody
    exact
      { faultless := h.faultless
        minds := h.minds.act p (fun _ ↦ hk.order) fun _ ↦ hk.owner
        opened := List.prefix_rfl
        fits := fun _ _ _ hφ hs ↦ hφ.act hs p }
  | shift w β =>
    exact ⟨ho, h.minds, List.prefix_rfl, fun _ _ _ hφ _ ↦ hφ.of_alike (.of_eq rfl rfl)⟩

/-- What the closing has come to stays true beside it. -/
theorem hasCome_of_aside (h : Closes b γ₀ i δ) (ha : Aside i δ ε) (he : Spares γ₀.world δ ε)
    {π : Closing} (hπ : δ.job? i = some (part .closing (fun _ ↦ .nothing) π))
    (hc : HasCome γ₀ δ.gate π) : HasCome γ₀ ε.gate π := by
  obtain φ | f | u := π
  · obtain ⟨hst, hsu⟩ := hc
    refine ⟨hst.mono ha.subsides fun _ ↦ ha.balances h.alone, ?_⟩
    cases φ with
    | awaitingOpening m => exact hsu
    | awaitingPool t f => exact hsu
    | stoppingProxy s φ =>
      have hk := h.service.gate.custody
      have hS : δ.Stopping s φ := ⟨_, List.mem_of_getElem? hπ, closesAt_waiting.mpr rfl⟩
      exact he.fits (hst.idle (by simp)) s φ hsu (hk.order (hk.known (.inl hS)))
  · obtain ⟨hn, hkind, hγ, hf⟩ := hc
    obtain ⟨rs, hrs⟩ := he.opened
    refine ⟨ha.subsides.opening hn, hkind, hγ, ?_⟩
    rw [← hrs, List.getElem?_append_left (List.getElem?_eq_some_iff.mp hf).1]
    exact hf
  · obtain ⟨hn, hp, hx, ht⟩ := hc
    have hb := ha.balances h.alone
    exact ⟨ha.subsides.opening hn, ha.subsides.pool hn hp, ha.subsides.proxy hn hx,
      ht.of_eq (hb.closings hn) (hb.pools hn)⟩

/-- Whatever happens beside the closing. -/
theorem beside (h : Closes b γ₀ i δ) (ho : LeavesAlone i o) (hi : o ≠ .resume i) :
    Closes b γ₀ i (δ.occur o) := by
  have ht (d : Demand) : o ≠ .take d := by
    rintro rfl
    exact ho
  have hgi : o ≠ .giveUp i := by
    rintro rfl
    exact ho rfl
  have ha : Aside i δ (δ.occur o) := h.service.aside ht hgi hi
  have he := h.spares ho hi
  obtain ⟨π, hπ, hc⟩ := h.job
  exact
    { service := h.service.occur fun _ d hd ↦ absurd hd (ht d)
      alone := ha.alone h.alone
      concerned := h.concerned
      faultless := he.faultless
      minds := he.minds
      job := ⟨π, ha.job.trans hπ, h.hasCome_of_aside ha he hπ hc⟩ }

theorem goesOn (h : Closes b γ₀ i δ) {j : Nat} {φ : ClosePhase}
    (hj : δ.job? j = some (.waiting (.closing φ))) (hφ : φ.isReady δ.gate = true) :
    GoesOn (φ.rank - 1) γ₀ (φ.resume δ.gate) := by
  refine φ.goesOn_resume h.service.isOrdered h.faultless (h.stands hj).2.2 (fun s ψ hψ ↦ ?_) hφ
  have hS : δ.Stopping s ψ :=
    ⟨_, List.mem_of_getElem? hj, closesAt_waiting.mpr (congrArg some hψ)⟩
  exact h.service.gate.custody.order (h.service.gate.custody.known (.inl hS))

/-- The closing goes on. -/
theorem resume (h : Closes b γ₀ i δ) : Closes b γ₀ i (δ.occur (.resume i)) := by
  have hs : (δ.occur (.resume i)).InService b := h.service.occur fun _ d hd ↦ by cases hd
  obtain ⟨π, hπ, hc⟩ := h.job
  have hm := h.isSimple.moves (o := .resume i) trivial
  generalize δ.occur (.resume i) = ε at hs hm
  cases hm with
  | idle => exact h
  | asks ho hj hψ hr =>
    obtain ho | ho := ho <;> cases ho
    rw [hπ] at hj
    cases π <;> cases hj
    cases hψ
  | @closing _ φ hj hφ =>
    obtain ⟨-, hst, -⟩ := h.stands hj
    have ha := h.service.isKept_adds hj rfl
    have ht := ha.tends_resume hφ
    have hw := φ.withdraws_resume δ.gate
    refine ⟨hs, fun j π ψ hji hj ↦ ?_, h.concerned, ?_, ?_, _, job?_put_self hj _,
      hasCome (hst.comes_resume h.concerned) (h.goesOn hj hφ)⟩
    · exact h.alone j π ψ hji (by rwa [job?_put_of_ne (Ne.symm hji)] at hj)
    · exact fun o ho ↦ h.faultless o (hw.answers ho)
    · exact h.minds.trans_tends ht

theorem occur (h : Closes b γ₀ i δ) (ho : LeavesAlone i o) : Closes b γ₀ i (δ.occur o) := by
  by_cases hi : o = .resume i
  · exact hi ▸ h.resume
  · exact h.beside ho hi

theorem occurs (h : Closes b γ₀ i δ) {os : List Occurrence} (hos : ∀ o ∈ os, LeavesAlone i o) :
    Closes b γ₀ i (δ.occurs os) := by
  induction os generalizing δ with
  | nil => exact h
  | cons o os ih =>
    exact ih (h.occur (hos o List.mem_cons_self)) fun o ho ↦ hos o (List.mem_cons_of_mem _ ho)

end Closes

/-- A closing begins while no other is under way. -/
theorem InService.closes (h : δ.InService b) (ha : ∀ π ∈ δ.jobs, ∀ φ, ¬ ClosesAt π φ)
    (hf : ∀ o ∈ δ.gate.database.closings, o.fault = none) :
    Closes b δ.gate δ.jobs.length (δ.take .close).1 where
  service := h.takeClose
  alone j π φ hj hπ := by
    obtain hπ | ⟨hl, -⟩ := job?_append_cases hπ
    · exact ha π (List.mem_of_getElem? hπ) φ
    · exact absurd hl hj
  concerned := h.gate.atHand_add_ahead_le
  faultless o ho := hf o (δ.gate.withdraws_close.answers ho)
  minds := h.gate.tends_close.minds
  job := by
    refine ⟨δ.gate.close.2, ?_, hasCome h.gate.comes_close (goesOn_close h.isOrdered hf)⟩
    change (δ.jobs ++ [part .closing (fun _ ↦ .nothing) δ.gate.close.2])[δ.jobs.length]? = _
    simp

end Desk

end Sluice.Server
