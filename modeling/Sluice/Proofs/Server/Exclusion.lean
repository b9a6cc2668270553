import Sluice.Proofs.Gate.Reach
import Sluice.Proofs.Server.Plain

/-!
# Who works on a supervisor

The opening starts a supervisor, and stops it if it fails; every closing may stop one.  A start is
never disturbed.  Nor is a stop, as long as closings come one after the other and no opening begins
during one (`exclusive_of_occurs`): what keeps this up is that an opening and a closing stand side
by side only while the closing waits for the opening (`Desk.IsExclusive`).

Closings that come while one is under way stop the same supervisor once more
(`not_exclusive_of_closings`).
-/

namespace Sluice.Server

open Proxy Gate

/-- Who may start or stop a supervisor. -/
inductive Worker where
  | opening
  | job (i : Nat)
  deriving DecidableEq, Repr

namespace Desk

/-- A start or a stop of the supervisor `s` that a worker began has not ended. -/
def WorksOn (δ : Desk) (s : Nat) : Worker → Prop
  | .opening => ∃ φ, δ.gate.opening = some φ ∧ φ.Engages s
  | .job i => ∃ π φ, δ.job? i = some π ∧ ClosesAt π (.stoppingProxy s φ)

/-- Who begins or goes on. -/
def mover? (δ : Desk) : Occurrence → Option Worker
  | .take (.pool _) | .proceed => some .opening
  | .take _ => some (.job δ.jobs.length)
  | .giveUp i | .resume i => some (.job i)
  | .act _ | .shift .. => none

/-- In an occurrence the supervisor `s` may be called to start or to stop. -/
inductive Calls (δ : Desk) (s : Nat) : Occurrence → Prop
  /-- An opening begins: it starts a new supervisor, or stops the one in use if it fails. -/
  | begins (κ : Caller) (hp : δ.gate.pool = none) (ho : δ.gate.opening = none)
      (hs : δ.gate.proxy = some s ∨
        δ.gate.proxy = none ∧ s = δ.gate.world.supervisors.length) : Calls δ s (.take (.pool κ))
  /-- An opening goes on: it may fail and stop the supervisor that it has started, or the one in
  use. -/
  | proceeds {φ : OpenPhase} (ho : δ.gate.opening = some φ)
      (hr : φ.isReady δ.gate.world = true)
      (hs : (∃ ψ, φ = .starting s ψ) ∨
        δ.gate.proxy = some s ∧ ∀ t ψ cause, φ ≠ .unwindingProxy t ψ cause) : Calls δ s .proceed
  | closes (ho : δ.gate.opening = none) (hx : δ.gate.proxy = some s) : Calls δ s (.take .close)
  /-- A closing goes on that does not stop a supervisor already. -/
  | goesOn {i : Nat} {φ : ClosePhase} (hi : δ.job? i = some (.waiting (.closing φ)))
      (hr : φ.isReady δ.gate = true) (hx : δ.gate.proxy = some s)
      (hn : ∀ t ψ, φ ≠ .stoppingProxy t ψ) : Calls δ s (.resume i)

variable {δ : Desk} {s : Nat} {k : Worker} {o : Occurrence}

/-! ## Nobody else touches a supervisor -/

/-- Who neither calls a supervisor nor works on it leaves it as it is. -/
theorem IsSimple.supervisor_occur (h : δ.IsSimple) (ho : δ.IsPlain o) (hc : ¬ δ.Calls s o)
    (hk : ∀ k, δ.mover? o = some k → ¬ δ.WorksOn s k) (ha : ∀ p, o ≠ .act p) :
    (δ.occur o).gate.world.supervisor s = δ.gate.world.supervisor s := by
  have hm := h.moves ho
  have hsame {γ ε : Gate} (h : γ.Aloof ε) :
      ε.world.supervisor s = γ.world.supervisor s := by
    rw [World.supervisor, h.supervisors, World.supervisor]
  generalize δ.occur o = ε at hm ⊢
  cases hm with
  | idle => rfl
  | asks _ hi hn hr => exact hsame hr.aloof
  | @closing i φ hi hφ =>
    refine ClosePhase.supervisor_resume (fun ψ hψ ↦ ?_) fun hn hx ↦ hc (.goesOn hi hφ hx hn)
    exact hk _ rfl ⟨_, ψ, hi, closesAt_waiting.mpr (congrArg some hψ)⟩
  | @pool κ r hr =>
    refine (hsame hr.aloof).trans ?_
    cases hp : δ.gate.pool with
    | some p => rw [getPool_of_pool hp]
    | none =>
      cases hq : δ.gate.opening with
      | some φ => rw [getPool_of_pending hp hq]
      | none =>
        rw [getPool_of_idle hp hq]
        exact supervisor_beginOpening (fun hx ↦ hc (.begins κ hp hq (.inl hx))) fun hx hs ↦
          hc (.begins κ hp hq (.inr ⟨hx, hs⟩))
  | close => exact supervisor_close fun hq hx ↦ hc (.closes hq hx)
  | @proceed φ hφ hr =>
    refine OpenPhase.supervisor_resume (fun he ↦ hk _ rfl ⟨φ, hφ, he⟩) fun hn hx ↦ ?_
    exact hc (.proceeds hφ hr (.inr ⟨hx, hn⟩))
  | act p => exact absurd rfl (ha p)
  | shift w β => rfl

/-! ## A start is not disturbed -/

/-- Nobody works beside a start, and nobody else calls. -/
theorem IsSimple.undisturbed (h : δ.IsSimple) {φ : StartPhase}
    (hφ : δ.gate.opening = some (.starting s φ)) :
    (∀ k, δ.WorksOn s k → k = .opening) ∧ (δ.Calls s o → o = .proceed) := by
  obtain ⟨hx, -, hS⟩ := h.service.gate.starting hφ
  refine ⟨fun k hk ↦ ?_, fun hc ↦ ?_⟩
  · cases k with
    | opening => rfl
    | job i =>
      obtain ⟨π, ψ, hi, hψ⟩ := hk
      exact absurd ⟨π, List.mem_of_getElem? hi, hψ⟩ (hS ψ)
  · cases hc with
    | begins κ hp ho => rw [ho] at hφ; cases hφ
    | proceeds => rfl
    | closes ho => rw [ho] at hφ; cases hφ
    | goesOn hi hr hs => rw [hx] at hs; cases hs

/-! ## Orderly service -/

/-- No closing is under way. -/
def ClosesNothing (δ : Desk) : Prop := ∀ π ∈ δ.jobs, ∀ φ, ¬ ClosesAt π φ

/-- A closing comes, or an opening begins, only while no closing is under way. -/
def IsOrderly (δ : Desk) : Occurrence → Prop
  | .take (.pool _) => δ.gate.pool = none → δ.gate.opening = none → δ.ClosesNothing
  | .take _ => δ.ClosesNothing
  | _ => True

/-- One closing at most is under way, and it waits for the opening that is pending. -/
structure IsExclusive (δ : Desk) : Prop where
  simple : δ.IsSimple
  sole {i j : Nat} {π ψ : Working} {φ χ : ClosePhase} : δ.job? i = some π → ClosesAt π φ →
    δ.job? j = some ψ → ClosesAt ψ χ → i = j
  pending {i : Nat} {π : Working} {φ : ClosePhase} : δ.gate.opening ≠ none → δ.job? i = some π →
    ClosesAt π φ → φ = .awaitingOpening δ.gate.nextOpening

/-- The pending opening has not ended. -/
theorem not_isReady_awaitingOpening (γ : Gate) :
    ClosePhase.isReady γ (.awaitingOpening γ.nextOpening) ≠ true := by
  simp [ClosePhase.isReady, nextOpening]

theorem IsExclusive.occur (h : δ.IsExclusive) (ho : δ.IsPlain o) (hq : δ.IsOrderly o) :
    (δ.occur o).IsExclusive := by
  have hs := h.simple.occur ho
  have hm := h.simple.moves ho
  generalize δ.occur o = ε at hm hs
  -- where a closing goes on, or comes, there was one before, or none at all
  have hcases {j : Nat} {π : Working} {φ : ClosePhase} (hj : ε.job? j = some π)
      (hφ : ClosesAt π φ) : (∃ ψ χ, δ.job? j = some ψ ∧ ClosesAt ψ χ) ∨
        o = .take .close ∧ j = δ.jobs.length ∧ δ.ClosesNothing := by
    obtain hj | ⟨-, ⟨rfl, hl, -⟩ | ⟨χ, -, hχ, -⟩⟩ := hm.closing_cases hj hφ
    · exact .inl ⟨π, φ, hj, hφ⟩
    · exact .inr ⟨rfl, hl, hq⟩
    · exact .inl ⟨_, χ, hχ, closesAt_waiting.mpr rfl⟩
  refine ⟨hs, fun {i j π ψ φ χ} hi hφ hj hχ ↦ ?_, fun {i π φ} hε hi hφ ↦ ?_⟩
  · obtain ⟨π', φ', hi', hφ'⟩ | ⟨-, hi', hn⟩ := hcases hi hφ
    · obtain ⟨ψ', χ', hj', hχ'⟩ | ⟨-, -, hn⟩ := hcases hj hχ
      · exact h.sole hi' hφ' hj' hχ'
      · exact absurd hφ' (hn π' (List.mem_of_getElem? hi') φ')
    · obtain ⟨ψ', χ', hj', hχ'⟩ | ⟨-, hj', -⟩ := hcases hj hχ
      · exact absurd hχ' (hn ψ' (List.mem_of_getElem? hj') χ')
      · exact hi'.trans hj'.symm
  · obtain ⟨hδ, he⟩ | ⟨κ, rfl, hp, hn⟩ := hm.opening_cases hε
    · have hl : ε.gate.nextOpening = δ.gate.nextOpening := congrArg List.length he
      rw [hl]
      obtain hj | ⟨-, ⟨rfl, -, hc⟩ | ⟨χ, -, hχ, hr, -⟩⟩ := hm.closing_cases hi hφ
      · exact h.pending hδ hj hφ
      · -- a closing that comes while an opening is pending awaits it
        have hsome : δ.gate.opening.isSome = true := Option.ne_none_iff_isSome.mp hδ
        have hw : δ.gate.close = (δ.gate, .waiting (.awaitingOpening δ.gate.nextOpening)) := by
          simp [Gate.close, hsome, awaitOpening, nextOpening]
        rw [hw] at hc
        have hφ := congrArg Prod.snd hc
        cases hφ
        rfl
      · -- a closing that awaits it does not go on
        have hχ := h.pending hδ hχ (closesAt_waiting.mpr rfl)
        exact absurd (hχ ▸ hr) (not_isReady_awaitingOpening δ.gate)
    · -- an opening begins only if no closing is under way
      obtain hj | ⟨-, ⟨⟨⟩, -⟩ | ⟨χ, ⟨⟩, -⟩⟩ := hm.closing_cases hi hφ
      exact absurd hφ (hq hp hn π (List.mem_of_getElem? hj) φ)

/-- Whoever calls a supervisor finds nobody else at work on it. -/
theorem IsExclusive.mover (h : δ.IsExclusive) (hq : δ.IsOrderly o) (hc : δ.Calls s o)
    (hk : δ.WorksOn s k) : δ.mover? o = some k := by
  cases k with
  | opening =>
    obtain ⟨φ, hφ, he⟩ := hk
    cases hc with
    | begins κ hp ho => rw [ho] at hφ; cases hφ
    | proceeds => rfl
    | closes ho => rw [ho] at hφ; cases hφ
    | goesOn hi hr =>
      have hψ := h.pending (by simp [hφ]) hi (closesAt_waiting.mpr rfl)
      exact absurd (hψ ▸ hr) (not_isReady_awaitingOpening δ.gate)
  | job i =>
    obtain ⟨π, φ, hi, hφ⟩ := hk
    have hm := List.mem_of_getElem? hi
    cases hc with
    | begins κ hp ho => exact absurd hφ (hq hp ho π hm _)
    | proceeds ho => cases h.pending (by simp [ho]) hi hφ
    | closes => exact absurd hφ (hq π hm _)
    | @goesOn j χ hj =>
      obtain rfl := h.sole hi hφ hj (closesAt_waiting.mpr rfl)
      rfl

end Desk

theorem IsNew.isExclusive {γ : Gate} (h : IsNew γ) : (Desk.mk γ []).IsExclusive where
  simple := h.isSimple
  sole := by rintro i j π ψ φ χ ⟨⟩
  pending := by rintro i π φ - ⟨⟩

/-! ## Exclusive use -/

/-- How an occurrence treats the supervisor `s`. -/
structure Excludes (δ : Desk) (o : Occurrence) (s : Nat) (orderly : Prop) : Prop where
  /-- It changes only by an act of a process, by a call, or by who works on it; -/
  kept : ¬ δ.Calls s o → (∀ k, δ.mover? o = some k → ¬ δ.WorksOn s k) → (∀ p, o ≠ .act p) →
    (δ.occur o).gate.world.supervisor s = δ.gate.world.supervisor s
  /-- while it starts, nobody else works on it or calls it; -/
  starting {φ : StartPhase} : δ.gate.opening = some (.starting s φ) →
    (∀ k, δ.WorksOn s k → k = .opening) ∧ (δ.Calls s o → o = .proceed)
  /-- and whoever calls it finds nobody else at work on it, if all is orderly. -/
  alone {k : Worker} : orderly → δ.Calls s o → δ.WorksOn s k → δ.mover? o = some k

/-- No supervisor is called to start or to stop while somebody else starts or stops it, as long as
closings come, and openings begin, only while no closing is under way. -/
theorem exclusive_of_occurs {γ : Gate} (hγ : IsNew γ) {os : List Occurrence}
    (hos : (Desk.mk γ []).Abides Desk.IsPlain os) {o : Occurrence}
    (ho : ((Desk.mk γ []).occurs os).IsPlain o) (s : Nat) :
    Excludes ((Desk.mk γ []).occurs os) o s
      ((Desk.mk γ []).Abides Desk.IsOrderly os ∧ ((Desk.mk γ []).occurs os).IsOrderly o) := by
  have h : ((Desk.mk γ []).occurs os).IsSimple :=
    hos.induction (fun _ _ h ho ↦ h.occur ho) hγ.isSimple
  refine ⟨h.supervisor_occur ho, h.undisturbed, fun ⟨hq, hqo⟩ hc hk ↦ ?_⟩
  have hx : ((Desk.mk γ []).occurs os).IsExclusive :=
    (hos.and hq).induction (fun _ _ h ho ↦ h.occur ho.1 ho.2) hγ.isExclusive
  exact hx.mover hqo hc hk

/-- A closing comes once a pool is there, and stops the proxy. -/
theorem exclusive_of_occurs_close :
    ∃ σ, Settings.load proxySettings = .ok σ ∧
      let γ := newGate σ [{ listens := some 0 }]
      let os : List Occurrence := [.take (.pool .connect)]
      let δ := (Desk.mk γ []).occurs os
      (Desk.mk γ []).Abides Desk.IsPlain os ∧ δ.IsPlain (.take .close) ∧
        δ.Calls 0 (.take .close) ∧
        Excludes δ (.take .close) 0 ((Desk.mk γ []).Abides Desk.IsOrderly os ∧
          δ.IsOrderly (.take .close)) ∧
        (δ.occur (.take .close)).WorksOn 0 (.job 1) := by
  refine ⟨_, rfl, ⟨trivial, trivial⟩, trivial, .closes rfl rfl, ?_, ?_⟩
  · refine exclusive_of_occurs (isNew_newGate _ _) ?_ ?_ 0
    · exact ⟨trivial, trivial⟩
    · trivial
  · exact ⟨_, _, rfl, _, rfl, rfl⟩

/-- The gate is closed once more while the proxy is being stopped: it is told to stop again. -/
theorem not_exclusive_of_closings :
    ∃ σ, Settings.load proxySettings = .ok σ ∧
      let γ := newGate σ [{ listens := some 0 }]
      let os : List Occurrence := [.take (.pool .connect), .take .close]
      let δ := (Desk.mk γ []).occurs os
      let ε := δ.occur (.take .close)
      IsNew γ ∧ (Desk.mk γ []).Abides Desk.IsPlain os ∧ δ.IsPlain (.take .close) ∧
        δ.WorksOn 0 (.job 1) ∧ δ.mover? (.take .close) = some (.job 2) ∧
        ε.gate.world = (δ.gate.world.stop 0).1 ∧ ε.WorksOn 0 (.job 1) ∧ ε.WorksOn 0 (.job 2) := by
  refine ⟨_, rfl, isNew_newGate _ _, ⟨trivial, trivial, trivial⟩, trivial, ?_, rfl, rfl, ?_, ?_⟩
  all_goals exact ⟨_, _, rfl, _, rfl, rfl⟩

end Sluice.Server
