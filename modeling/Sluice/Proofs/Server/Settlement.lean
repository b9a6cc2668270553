import Sluice.Proofs.Server.Progress

/-!
# What a closing leaves behind

The gate is closed while no other closing is under way, and nobody comes until that has ended.
Wherever the gate stands, the closing ends, with no pool, no supervisor and no opening left, each
pool that was concerned told to close once, and every process ended that was held or was launched
meanwhile (`settles_of_close`); to close once more does nothing.

There is one exception.  A caller who comes while the proxy is being stopped has an opening begun
with that proxy; if it fails, it stops the same process, and if the first stop is given up then
nobody sees the end that the second one waits for.  A closing that waits for such an opening waits
for good (`not_ends_of_close`).
-/

namespace Sluice.Server

open Proxy Gate

/-- A closing that comes does nothing to a pending opening. -/
theorem isStuck_close (γ : Gate) : γ.close.1.IsStuck ↔ γ.IsStuck := by
  cases ho : γ.opening with
  | none =>
    have hc := γ.withdraws_close.opening.trans ho
    exact iff_of_false (not_isStuck_of_opening hc) (not_isStuck_of_opening ho)
  | some φ =>
    have hc : γ.close = (γ, .waiting (.awaitingOpening γ.nextOpening)) := by
      simp [Gate.close, ho, awaitOpening, nextOpening]
    rw [hc]

/-- What a closing that began at `γ` leaves behind at `ε`. -/
structure LeavesClosed (γ ε : Gate) : Prop where
  opening : ε.opening = none
  pool : ε.pool = none
  proxy : ε.proxy = none
  told : γ.Told ε
  isSpent : ε.IsSpent
  /-- Only what was let go of before the closing may still have to end. -/
  ended {p : Nat} : p < ε.world.children.length →
    (p < γ.world.children.length → γ.world.IsHeld p) → (ε.world.child p).isAlive = false
  again : ε.close = (ε, .done (.ok ()))

/-- The closing of a number, which began at `γ`, has not failed at `δ`: if it has ended then all is
closed, unless the opening that was pending at `γ` had been given up. -/
def HasClosed (γ : Gate) (i : Nat) (δ : Desk) : Prop :=
  ∀ ρ, δ.result? i = some ρ → (ρ = .ok .nothing ∧ LeavesClosed γ δ.gate) ∨
    ∃ φ, ρ = .error φ ∧ φ.kind = .cancelled ∧ γ.opening ≠ none ∧
      δ.gate.opened[γ.nextOpening]? = some (.error φ)

namespace Desk.Closes

variable {γ : Gate} {i : Nat} {δ : Desk}

theorem leavesClosed (h : Closes True γ i δ) (ho : δ.gate.opening = none)
    (hp : δ.gate.pool = none) (hx : δ.gate.proxy = none) (ht : γ.Told δ.gate) :
    LeavesClosed γ δ.gate where
  opening := ho
  pool := hp
  proxy := hx
  told := ht
  isSpent := h.service.gate.isSpent trivial ho hx
  ended := h.service.gate.isAlive_of_minds trivial h.minds ho hx
  again := by simp [Gate.close, Gate.release, Gate.stopProxy, ho, hp, hx]

theorem hasClosed (h : Closes True γ i δ) : HasClosed γ i δ := by
  intro ρ hρ
  obtain ⟨π, hπ, hc⟩ := h.job
  rw [result?, hπ] at hρ
  obtain φ | f | u := π
  · cases hρ
  · obtain ⟨-, hk, hγ, he⟩ := hc
    cases hρ
    exact .inr ⟨f, rfl, hk, hγ, he⟩
  · obtain ⟨ho, hp, hx, ht⟩ := hc
    cases hρ
    exact .inl ⟨rfl, h.leavesClosed ho hp hx ht⟩

end Desk.Closes

/-- How the closing of a number, which began at `γ`, goes on from `δ`. -/
structure Settles (γ : Gate) (i : Nat) (δ : Desk) : Prop where
  /-- Left to itself it ends, unless the opening that was pending is stuck; -/
  ends_iff : (∃ n, (δ.workUntil (·.isOver i) n).isOver i = true) ↔ ¬ γ.IsStuck
  /-- and then all is closed. -/
  hasClosed (n : Nat) : HasClosed γ i (δ.workUntil (·.isOver i) n)
  /-- A gate with a pool tells it to close before it does anything else. -/
  poolFirst {p : Nat} : γ.pool = some p →
    γ.world.events ++ [.closePool, .awaitPool] <+: γ.close.1.world.events

/-- However a gate was used before, and wherever it stands: a closing that is not given up ends, and
leaves all closed, if no other closing is under way, nobody comes meanwhile, pools close without a
fault and every process ends that is sent the signal which it cannot ignore. -/
theorem settles_of_close {γ : Gate} (hγ : IsNew γ) {os : List Occurrence}
    (hos : (Desk.mk γ []).Abides Desk.IsTimely os) {os' : List Occurrence} :
    let δ := (Desk.mk γ []).occurs os
    let ε := (δ.take .close).1.occurs os'
    (∀ π ∈ δ.jobs, ∀ φ, ¬ ClosesAt π φ) → (∀ o ∈ δ.gate.database.closings, o.fault = none) →
      (∀ o ∈ os', Desk.LeavesAlone δ.jobs.length o) → ε.gate.world.IsFatal →
        Settles δ.gate δ.jobs.length ε := by
  intro δ ε ha hf hos' hw
  have hδ : δ.InService True :=
    hos.induction (fun _ _ h ho ↦ h.occur fun _ ↦ ho) hγ.inService
  have hbegun := hδ.closes ha hf
  have h := hbegun.occurs hos'
  -- whether the opening is stuck is settled where the closing begins
  have hs : ε.gate.IsStuck ↔ δ.gate.IsStuck := by
    exact (hbegun.isStuck_occurs hos').trans (isStuck_close δ.gate)
  refine ⟨(h.exists_isOver_iff hw).trans (not_congr hs), fun n ↦ ?_, fun {p} hp ↦ ?_⟩
  · obtain ⟨os'', hos'', he⟩ := h.exists_occurs_workUntil (·.isOver δ.jobs.length) n
    exact he ▸ (h.occurs hos'').hasClosed
  · exact prefix_close hp (hδ.gate.settled hp)

/-- While a pool is being made the gate is closed; the proxy ignores the request to end, and is
killed. -/
theorem settles_of_close_pending :
    ∃ σ, Settings.load proxySettings = .ok σ ∧
      let γ := { newGate σ [{ listens := some 0, onTerminate := none }] with
        database := { connects := [{ delay := Time.second }] } }
      let δ := (Desk.mk γ []).occurs [.take (.pool .connect)]
      let ε := (δ.take .close).1
      δ.gate.opening.isSome = true ∧ Settles δ.gate δ.jobs.length ε ∧
        (ε.workUntil (·.isOver 1) 20).isOver 1 = true ∧
        (ε.workUntil (·.isOver 1) 20).gate.world.children.map Child.isAlive = [false] := by
  refine ⟨_, rfl, rfl, ?_, by decide +kernel, by decide +kernel⟩
  have htimely (γ : Gate) : (Desk.mk γ []).Abides Desk.IsTimely [.take (.pool .connect)] :=
    ⟨Desk.IsCalm.isTimely fun _ _ ↦ rfl, trivial⟩
  refine @settles_of_close _ ⟨rfl, rfl, rfl, rfl, rfl⟩ _ (htimely _) [] ?_ ?_ ?_ ?_
  · rintro π hπ φ ⟨ψ, hw, hψ⟩
    obtain rfl : π = .waiting (.connecting 0) := List.mem_singleton.mp hπ
    cases hw
    cases hψ
  · rintro o ⟨⟩
  · rintro o ⟨⟩
  · refine ⟨⟨fun χ hχ ↦ ?_, by rintro β ⟨⟩⟩, fun {p} hp ↦ ?_⟩
    · obtain rfl : χ = _ := List.mem_singleton.mp hχ
      exact ⟨rfl, rfl⟩
    · obtain rfl : p = 0 := Nat.lt_one_iff.mp hp
      exact Child.isDoomed_launch _ _ _

theorem isOver_workUntil_eq_false {γ : Gate} (hγ : IsNew γ) {os : List Occurrence}
    (hos : (Desk.mk γ []).Abides Desk.IsTimely os) :
    let δ := (Desk.mk γ []).occurs os
    (∀ π ∈ δ.jobs, ∀ φ, ¬ ClosesAt π φ) → (∀ o ∈ δ.gate.database.closings, o.fault = none) →
      δ.gate.IsStuck →
        ∀ n, ((δ.take .close).1.workUntil (·.isOver δ.jobs.length) n).isOver δ.jobs.length = false := by
  intro δ ha hf hs n
  have hδ : δ.InService True :=
    hos.induction (fun _ _ h ho ↦ h.occur fun _ ↦ ho) hγ.inService
  have h := hδ.closes ha hf
  obtain ⟨os', hos', he⟩ := h.exists_occurs_workUntil (·.isOver δ.jobs.length) n
  rw [he]
  refine (h.occurs hos').isOver_eq_false ((h.isStuck_occurs hos').mpr ?_)
  exact (isStuck_close δ.gate).mpr hs

/-- A caller comes while the proxy is being stopped, and the pool that it wants cannot be made.
Both stops have sent the signal that cannot be ignored when the closing is given up; whoever closes
the gate then waits for good. -/
theorem not_ends_of_close :
    ∃ σ, Settings.load proxySettings = .ok σ ∧
      let γ := newGate σ [{ listens := some 0, onTerminate := none }]
      let refused : Outcome := { fault := some (.saying (.database .operational) "refused") }
      let os : List Occurrence :=
        [.take (.pool .connect), .take .close, .shift γ.world { connects := [refused] },
          .take (.pool .connect), .shift { γ.world with now := 6 * Time.second } {}, .resume 1,
          .proceed, .giveUp 1]
      let δ := (Desk.mk γ []).occurs os
      let ε := (δ.take .close).1
      IsNew γ ∧ (Desk.mk γ []).Abides Desk.IsCalm os ∧ (∀ π ∈ δ.jobs, ∀ φ, ¬ ClosesAt π φ) ∧
        ε.gate.world.IsFatal ∧ ∀ n, (ε.workUntil (·.isOver 3) n).isOver 3 = false := by
  have hcalm {δ : Desk} {o : Occurrence} (h : ∀ d, o ≠ .take d) : δ.IsCalm o :=
    fun d hd ↦ absurd hd (h d)
  refine ⟨_, rfl, isNew_newGate _ _, ?calm, ?alone, ?fatal,
    isOver_workUntil_eq_false (isNew_newGate _ _)
      (.mono (fun _ _ h ↦ Desk.IsCalm.isTimely h) ?calm) ?alone ?_ ?_⟩
  case calm =>
    refine ⟨fun _ _ ↦ rfl, fun _ _ ↦ rfl, hcalm ?_, fun _ _ ↦ rfl, hcalm ?_, hcalm ?_, hcalm ?_,
      hcalm ?_, trivial⟩
    all_goals rintro d ⟨⟩
  case alone =>
    rintro π hπ φ ⟨ψ, rfl, hψ⟩
    have hw : Progress.waiting ψ ∈ [.done _, .done _, .waiting (.connecting 1)] := hπ
    rcases List.mem_cons.mp hw with hd | hw
    · cases hd
    rcases List.mem_cons.mp hw with hd | hw
    · cases hd
    cases List.mem_singleton.mp hw
    cases hψ
  case fatal =>
    refine ⟨⟨fun χ hχ ↦ ?_, fun β hβ ↦ ?_⟩, fun {p} hp ↦ ?_⟩
    · obtain rfl : χ = _ := List.mem_singleton.mp hχ
      exact ⟨rfl, rfl⟩
    · obtain rfl : β = _ := List.mem_singleton.mp hβ
      exact ⟨rfl, rfl⟩
    · obtain rfl : p = 0 := Nat.lt_one_iff.mp hp
      exact fun _ _ _ ↦ List.cons_ne_nil _ _
  · rintro o ⟨⟩
  · exact ⟨0, 0, ⟨_, rfl⟩, rfl, rfl⟩

end Sluice.Server
