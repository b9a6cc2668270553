import Sluice.Proofs.Gate.Asking
import Sluice.Proofs.Gate.Steady
import Sluice.Proofs.Server.Plain

/-!
# When a pool is asked for

With the proxy in use, a pool is asked for while the supervisor runs the proxy if the opening that
asks has started it; but an opening that finds a supervisor in use asks at once, whatever that one
is doing.  It finds one only while a closing stops it (`AsksOnceReady`), so that a caller who comes
in the middle of a closing has a pool made through a proxy that is on its way out.
-/

namespace Sluice.Server

open Proxy Gate

namespace Desk

/-- Where an occurrence asks for a pool, if it does. -/
def asked? (δ : Desk) : Occurrence → Option Gate
  | .take (.pool _) =>
    if δ.gate.pool.isNone && δ.gate.opening.isNone then δ.gate.askedOnBeginning? else none
  | .proceed =>
    match δ.gate.opening with
    | some φ => if φ.isReady δ.gate.world then φ.asked? δ.gate else none
    | none => none
  | _ => none

variable {b : Prop} {δ : Desk} {i : Nat}

/-! ## No pool is asked for anywhere else -/

theorem asksAt_getPool (γ : Gate) : γ.AsksAt
    (if γ.pool.isNone && γ.opening.isNone then γ.askedOnBeginning? else none) γ.getPool.1 := by
  cases hp : γ.pool with
  | some p => simpa [getPool_of_pool hp] using AsksAt.of_eq rfl
  | none =>
    cases ho : γ.opening with
    | some φ => simpa [getPool_of_pending hp ho] using AsksAt.of_eq rfl
    | none => simpa [getPool_of_idle hp ho] using γ.asksAt_beginOpening

theorem asked?_of_isVain {o : Occurrence} (ho : δ.IsVain o) : δ.asked? o = none := by
  cases o with
  | take d => exact ho.elim
  | proceed =>
    cases hφ : δ.gate.opening with
    | none => simp [asked?, hφ]
    | some φ => simp [asked?, hφ, ho φ hφ]
  | _ => rfl

theorem InService.creations_cancel (h : δ.InService b) {ψ : JobPhase}
    (hi : δ.job? i = some (.waiting ψ)) :
    (ψ.cancel δ.gate).1.creations = δ.gate.creations := by
  cases hψ : ψ.closing? with
  | none => exact (asks_cancel hψ (h.jobs (List.mem_of_getElem? hi))).aloof.creations
  | some φ =>
    have hw := wraps_cancel (γ := δ.gate) hψ
    exact hw.withdraws.creations.trans (φ.creations_cancel δ.gate)

theorem InService.creations_resume (h : δ.InService b) {ψ : JobPhase}
    (hi : δ.job? i = some (.waiting ψ)) (hr : ψ.isReady δ.gate = true) :
    (ψ.resume δ.gate).1.creations = δ.gate.creations := by
  cases hψ : ψ.closing? with
  | none => exact (asks_resume hψ (h.jobs (List.mem_of_getElem? hi))).aloof.creations
  | some φ =>
    obtain ⟨r, ⟨-, rfl⟩ | rfl, hw⟩ := wraps_resume hψ hr
    · exact hw.withdraws.creations.trans (φ.withdraws_resume δ.gate).creations
    · exact hw.withdraws.creations.trans (φ.creations_cancel δ.gate)

theorem InService.asksAt (h : δ.InService b) (o : Occurrence) :
    δ.gate.AsksAt (δ.asked? o) (δ.occur o).gate := by
  have hm := δ.happens o
  generalize δ.occur o = ε at hm
  cases hm with
  | idle ho => exact asked?_of_isVain ho ▸ .of_eq rfl
  | take d =>
    cases d with
    | pool κ =>
      change δ.gate.AsksAt _ (begin δ.gate κ.order).1
      rw [Caller.begin_order]
      exact (asksAt_getPool δ.gate).trans_aloof (asks_receive ..).aloof
    | close =>
      have hw := wraps_closing δ.gate.close
      exact .of_eq (hw.withdraws.creations.trans δ.gate.withdraws_close.creations)
    | shutdown grace =>
      obtain ⟨r, rfl | ⟨ρ, rfl⟩, hw⟩ := wraps_shutdown δ.gate grace
      · exact .of_eq (hw.withdraws.creations.trans δ.gate.withdraws_close.creations)
      · exact .of_eq hw.withdraws.creations
  | giveUp hi => exact .of_eq (h.creations_cancel hi)
  | resume hi hψ => exact .of_eq (h.creations_resume hi hψ)
  | act p => exact .of_eq (creations_withWorld (δ.gate.world.traffic_act p))
  | @proceed φ ho hφ => simpa [asked?, ho, hφ] using φ.asksAt_resume δ.gate
  | shift w β => exact .of_eq rfl

/-! ## Steady desks -/

/-- Pools will close without a fault. -/
def IsFaultless : Occurrence → Prop
  | .shift _ β => ∀ o ∈ β.closings, o.fault = none
  | _ => True

/-- All closings are plain ones, and the gate is steady. -/
structure IsSteady (δ : Desk) : Prop where
  simple : δ.IsSimple
  gate : δ.gate.IsSteady δ.Stopping

/-- The stops that a gate tells of are told otherwise. -/
theorem isSteady_congr {γ : Gate} {S T : Nat → StopPhase → Prop} (h : γ.IsSteady S)
    (hST : ∀ s φ, S s φ ↔ T s φ) : γ.IsSteady T := by
  obtain rfl : S = T := by
    funext s φ
    exact propext (hST s φ)
  exact h

theorem isSteady_of_aloof {γ ε : Gate} {S : Nat → StopPhase → Prop} (h : γ.IsSteady S)
    (ha : γ.Aloof ε) : ε.IsSteady S :=
  h.of_eq ha.children ha.supervisors ha.proxy ha.opening ha.pool fun _ ho ↦ ha.answers ▸ ho

namespace IsSteady

theorem getPool (h : δ.IsSteady) : δ.gate.getPool.1.IsSteady δ.Stopping := by
  cases hp : δ.gate.pool with
  | some p => simpa [getPool_of_pool hp] using h.gate
  | none =>
    cases ho : δ.gate.opening with
    | some φ => simpa [getPool_of_pending hp ho] using h.gate
    | none => simpa [getPool_of_idle hp ho] using h.gate.beginOpening h.simple.service.gate ho

theorem occur (h : δ.IsSteady) {o : Occurrence} (ho : δ.IsPlain o) (hf : IsFaultless o) :
    (δ.occur o).IsSteady := by
  refine ⟨h.simple.occur ho, ?_⟩
  have hk := h.simple.service.gate
  have hm := h.simple.moves ho
  generalize δ.occur o = ε at hm
  cases hm with
  | idle => exact h.gate
  | @asks _ i ψ r _ hi hψ hr =>
    refine isSteady_congr (isSteady_of_aloof h.gate hr.aloof) fun s φ ↦ ?_
    rw [stopping_put hi, stopping_iff hi]
    exact or_congr_right (iff_of_false (not_closesAt hψ _) (hr.closesAt _))
  | @closing i φ hi hφ =>
    have hs : δ.gate.IsSteady (Adds (α := Unit) (δ.StoppingBut i) (.waiting φ)) := by
      refine isSteady_congr h.gate fun s χ ↦ (stopping_iff hi).trans (or_congr_right ?_)
      rw [closesAt_waiting]
      simp [JobPhase.closing?]
    have ha := h.simple.service.isKept_adds hi rfl
    refine isSteady_congr (hs.steadies_resume ha hφ) fun s χ ↦ ?_
    rw [stopping_put hi]
    exact or_congr_right closesAt_closing.symm
  | pool κ hr =>
    refine isSteady_congr (isSteady_of_aloof h.getPool hr.aloof) fun s φ ↦ ?_
    rw [stopping_append]
    exact (or_iff_left (hr.closesAt _)).symm
  | close =>
    refine isSteady_congr (h.gate.steadies_close hk) fun s φ ↦ ?_
    rw [stopping_append]
    exact or_congr_right closesAt_closing.symm
  | proceed hφ hr => exact h.gate.resumeOpening hk hφ hr
  | act p => exact h.gate.act hk p
  | shift w β =>
    have hg := h.gate
    exact
      { heeds := fun hφ ↦ (hg.heeds hφ).of_eq rfl rfl
        answers := hf _
        pending := hg.pending
        stopping := hg.stopping }

end IsSteady

/-! ## Where it is asked for -/

/-- A pool is asked for where a supervisor has been started, or one is in use without a pool and
without an opening. -/
theorem InService.asked_cases (h : δ.InService b) (he : δ.gate.settings.proxyEnabled = true)
    {o : Occurrence} {μ : Gate} (hμ : δ.asked? o = some μ) :
    (∃ s, μ.Runs δ.Stopping s) ∨
      μ = δ.gate ∧ δ.gate.pool = none ∧ δ.gate.opening = none ∧ ∃ s, δ.gate.proxy = some s := by
  cases o with
  | take d =>
    cases d with
    | pool κ =>
      simp only [asked?] at hμ
      split at hμ
      next hn =>
        obtain ⟨hp, ho⟩ : δ.gate.pool = none ∧ δ.gate.opening = none := by simpa using hn
        cases hx : δ.gate.proxy with
        | none => exact .inl (h.gate.runs_of_beginning ho he hx hμ)
        | some s =>
          rw [askedOnBeginning?_of_proxy hx] at hμ
          cases hμ
          exact .inr ⟨rfl, hp, ho, s, rfl⟩
      · cases hμ
    | close => cases hμ
    | shutdown grace => cases hμ
  | proceed =>
    simp only [asked?] at hμ
    split at hμ
    next φ ho =>
      split at hμ
      · exact .inl (h.gate.runs_of_resume ho hμ)
      · cases hμ
    · cases hμ
  | giveUp j => cases hμ
  | resume j => cases hμ
  | act p => cases hμ
  | shift w β => cases hμ

end Desk

theorem IsNew.isSteady {γ : Gate} (h : IsNew γ) (hβ : ∀ o ∈ γ.database.closings, o.fault = none) :
    (Desk.mk γ []).IsSteady where
  simple := h.isSimple
  gate :=
    { heeds := by
        rintro s φ (⟨π, ⟨⟩, -⟩ | ⟨c, hc⟩)
        rw [h.opening] at hc
        cases hc
      answers := hβ _
      pending := fun hφ ↦ by rw [h.opening] at hφ; cases hφ
      stopping := fun _ _ hs ↦ by rw [h.proxy] at hs; cases hs }

/-! ## When the supervisor runs the proxy -/

/-- How an occurrence at a desk with the proxy in use comes to ask for a pool. -/
structure AsksOnceReady (δ : Desk) (o : Occurrence) (plain : Prop) : Prop where
  /-- A pool is asked for at one place at most, -/
  asksAt : δ.gate.AsksAt (δ.asked? o) (δ.occur o).gate
  /-- a supervisor is in use there, -/
  proxy {μ : Gate} : δ.asked? o = some μ → ∃ s, μ.proxy = some s
  /-- which runs the proxy if it was started for that, -/
  started {μ : Gate} : δ.asked? o = some μ → δ.gate.proxy = none → ∃ s, μ.Runs δ.Stopping s
  /-- and otherwise does so just if no closing stops it. -/
  running_iff {μ : Gate} {s : Nat} : plain → δ.asked? o = some μ → μ.proxy = some s →
    ((μ.world.supervisor s).state = .running ↔ ∀ φ, ¬ δ.Stopping s φ)

/-- With the proxy in use, a pool is asked for while the supervisor runs the proxy, unless a closing
stops it at that moment.  That goes as long as no closing is given up and pools close without a
fault. -/
theorem asksOnceReady_of_occurs {γ : Gate} (hγ : IsNew γ) (he : γ.settings.proxyEnabled = true)
    (os : List Occurrence) (o : Occurrence) :
    AsksOnceReady ((Desk.mk γ []).occurs os) o
      ((∀ o ∈ γ.database.closings, o.fault = none) ∧
        (Desk.mk γ []).Abides (fun δ o ↦ δ.IsPlain o ∧ Desk.IsFaultless o) os) := by
  set δ := (Desk.mk γ []).occurs os with hδ
  obtain ⟨h, hσ⟩ : δ.InService False ∧ δ.gate.settings.proxyEnabled = true :=
    Desk.occurs_induction (I := fun δ ↦ δ.InService False ∧ δ.gate.settings.proxyEnabled = true)
      (fun δ o ⟨h, hσ⟩ ↦ ⟨h.occur False.elim, (h.settings_occur o).symm ▸ hσ⟩) ⟨hγ.inService, he⟩ os
  refine ⟨h.asksAt o, fun hμ ↦ ?_, fun hμ hx ↦ ?_, fun {μ s} hp hμ hs ↦ ?_⟩
  · obtain ⟨s, hs, -⟩ | ⟨rfl, -, -, hs⟩ := h.asked_cases hσ hμ
    · exact ⟨s, hs⟩
    · exact hs
  · obtain hs | ⟨-, -, -, s, hs⟩ := h.asked_cases hσ hμ
    · exact hs
    · rw [hx] at hs
      cases hs
  · obtain ⟨hβ, hos⟩ := hp
    have hsteady : δ.IsSteady := hos.induction (fun _ _ h ho ↦ h.occur ho.1 ho.2) (hγ.isSteady hβ)
    obtain ⟨t, ht, hr, hS⟩ | ⟨rfl, hq, ho, -⟩ := h.asked_cases hσ hμ
    · obtain rfl := Option.some_inj.mp (ht.symm.trans hs)
      exact iff_of_true hr hS
    · obtain ⟨φ, hφ⟩ := hsteady.gate.stopping hq ho hs
      refine iff_of_false ?_ fun hn ↦ hn φ hφ
      exact (hsteady.gate.heeds (.inl hφ)).state_ne (h.gate.custody.knows (.inl hφ))

/-- Whoever comes first has the proxy started, and a pool made once it runs. -/
theorem asksOnceReady_of_occurs_first :
    ∃ σ, Settings.load proxySettings = .ok σ ∧
      let γ := newGate σ [{ listens := some 0 }]
      let δ : Desk := ⟨γ, []⟩
      γ.settings.proxyEnabled = true ∧
        AsksOnceReady δ (.take (.pool .connect))
          ((∀ o ∈ γ.database.closings, o.fault = none) ∧
            δ.Abides (fun δ o ↦ δ.IsPlain o ∧ Desk.IsFaultless o) []) ∧
        (δ.asked? (.take (.pool .connect))).map (fun μ ↦ (μ.world.supervisor 0).state) =
          some .running := by
  refine ⟨_, rfl, rfl, ?_, rfl⟩
  exact asksOnceReady_of_occurs (isNew_newGate _ _) rfl [] _

/-- The gate is closed, and somebody comes while the proxy is being stopped: a pool is asked for at
once. -/
theorem not_running_of_asked :
    ∃ σ, Settings.load proxySettings = .ok σ ∧
      let γ := newGate σ [{ listens := some 0 }]
      let os : List Occurrence := [.take (.pool .connect), .take .close]
      let δ := (Desk.mk γ []).occurs os
      IsNew γ ∧ γ.settings.proxyEnabled = true ∧
        (Desk.mk γ []).Abides (fun δ o ↦ δ.IsPlain o ∧ Desk.IsFaultless o) os ∧
        δ.asked? (.take (.pool .connect)) = some δ.gate ∧ δ.gate.proxy = some 0 ∧
        (δ.gate.world.supervisor 0).state = .stopping ∧ δ.gate.creations.length = 1 ∧
        (δ.occur (.take (.pool .connect))).gate.creations.length = 2 := by
  refine ⟨_, rfl, isNew_newGate _ _, rfl, ⟨⟨trivial, trivial⟩, ⟨trivial, trivial⟩, trivial⟩,
    rfl, rfl, rfl, rfl, rfl⟩

end Sluice.Server
