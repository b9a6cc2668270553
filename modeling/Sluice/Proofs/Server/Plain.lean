import Sluice.Proofs.Server.Mediation
import Sluice.Proofs.Server.Service

/-!
# Plain service

Callers come and give up, and the gate is closed any number of times; nobody gives a closing up, and
nobody sets a limit to it (`Desk.IsPlain`).  Then a closing goes on when it is ready and in no other
way (`Desk.IsSimple`).
-/

namespace Sluice.Server

open Proxy Gate

namespace Desk

/-- Callers come and give up, and the gate is closed; no closing is given up. -/
def IsPlain (δ : Desk) : Occurrence → Prop
  | .take (.shutdown _) => False
  | .giveUp i => ∀ π φ, δ.job? i = some π → ¬ ClosesAt π φ
  | _ => True

/-- All closings are plain ones. -/
structure IsSimple (δ : Desk) : Prop where
  service : δ.InService False
  plain {π : Working} {φ : ClosePhase} : π ∈ δ.jobs → ClosesAt π φ → π = .waiting (.closing φ)

variable {b : Prop} {δ : Desk} {i : Nat}

/-- The stops under way once a job has come to another point. -/
theorem stopping_put {π : Working} (hi : δ.job? i = some π) (r : Gate × Working) (s : Nat)
    (φ : StopPhase) : (δ.put i r).Stopping s φ ↔
      δ.StoppingBut i s φ ∨ ClosesAt r.2 (.stoppingProxy s φ) := by
  rw [stopping_iff (job?_put_self hi r)]
  refine or_congr_left ?_
  constructor <;> rintro ⟨j, ψ, hj, hψ, hφ⟩ <;> refine ⟨j, ψ, hj, ?_, hφ⟩
  · rwa [job?_put_of_ne (Ne.symm hj)] at hψ
  · rwa [job?_put_of_ne (Ne.symm hj)]

theorem stopping_append (γ : Gate) (π : Working) (s : Nat) (φ : StopPhase) :
    Stopping ⟨γ, δ.jobs ++ [π]⟩ s φ ↔ δ.Stopping s φ ∨ ClosesAt π (.stoppingProxy s φ) := by
  simp only [Stopping, List.mem_append, List.mem_singleton]
  constructor
  · rintro ⟨ψ, hψ | rfl, hφ⟩
    · exact .inl ⟨ψ, hψ, hφ⟩
    · exact .inr hφ
  · rintro (⟨ψ, hψ, hφ⟩ | hφ)
    · exact ⟨ψ, .inl hψ, hφ⟩
    · exact ⟨π, .inr rfl, hφ⟩

theorem closesAt_closing {π : Closing} {φ : ClosePhase} :
    ClosesAt (part .closing (fun _ ↦ Answer.nothing) π) φ ↔ π = .waiting φ := by
  cases π with
  | waiting χ => simp [part, closesAt_waiting, JobPhase.closing?]
  | done ρ => simp [part, not_closesAt_done]

theorem not_closesAt {ψ : JobPhase} (h : ψ.closing? = none) (φ : ClosePhase) :
    ¬ ClosesAt (.waiting ψ) φ := by
  rw [closesAt_waiting, h]
  rintro ⟨⟩

theorem eq_of_closesAt_closing {π : Closing} {φ : ClosePhase}
    (h : ClosesAt (part .closing (fun _ ↦ Answer.nothing) π) φ) :
    part .closing (fun _ ↦ Answer.nothing) π = .waiting (.closing φ) := by
  rw [closesAt_closing.mp h]
  rfl

/-! ## What plain occurrences come to -/

/-- What may become of a desk with plain closings. -/
inductive Moves (δ : Desk) : Occurrence → Desk → Prop
  | idle {o : Occurrence} (h : ∀ d, o ≠ .take d) : Moves δ o δ
  /-- A caller goes on or gives up. -/
  | asks {o : Occurrence} {i : Nat} {ψ : JobPhase} {r : Gate × Working}
      (ho : o = .giveUp i ∨ o = .resume i) (hi : δ.job? i = some (.waiting ψ))
      (hψ : ψ.closing? = none) (hr : Asks δ.gate r) : Moves δ o (δ.put i r)
  /-- A closing goes on. -/
  | closing {i : Nat} {φ : ClosePhase} (hi : δ.job? i = some (.waiting (.closing φ)))
      (hφ : φ.isReady δ.gate = true) :
      Moves δ (.resume i) (δ.put i (ofGate .closing (fun _ ↦ .nothing) (φ.resume δ.gate)))
  | pool (κ : Caller) {r : Gate × Working} (hr : Asks δ.gate.getPool.1 r) :
      Moves δ (.take (.pool κ)) ⟨r.1, δ.jobs ++ [r.2]⟩
  | close : Moves δ (.take .close) ⟨δ.gate.close.1,
      δ.jobs ++ [part .closing (fun _ ↦ .nothing) δ.gate.close.2]⟩
  | proceed {φ : OpenPhase} (ho : δ.gate.opening = some φ)
      (hφ : φ.isReady δ.gate.world = true) : Moves δ .proceed ⟨φ.resume δ.gate, δ.jobs⟩
  | act (p : Nat) :
      Moves δ (.act p) ⟨{ δ.gate with world := δ.gate.world.act p }, δ.jobs⟩
  | shift (w : World) (β : Database) : Moves δ (.shift w β) (δ.occur (.shift w β))

theorem IsSimple.moves (h : δ.IsSimple) {o : Occurrence} (ho : δ.IsPlain o) :
    Moves δ o (δ.occur o) := by
  have hm := δ.happens o
  generalize δ.occur o = ε at hm
  cases hm with
  | idle hidle => exact .idle fun d hd ↦ by rw [hd] at hidle; exact hidle
  | take d =>
    cases d with
    | pool κ =>
      change Moves δ _ ⟨(begin δ.gate κ.order).1, δ.jobs ++ [(begin δ.gate κ.order).2]⟩
      rw [Caller.begin_order]
      exact .pool κ (asks_receive ..)
    | close => exact .close
    | shutdown grace => exact ho.elim
  | @giveUp i ψ hψ =>
    have hn : ψ.closing? = none :=
      Option.eq_none_iff_forall_not_mem.mpr fun φ hφ ↦ ho _ φ hψ (closesAt_waiting.mpr hφ)
    exact .asks (.inl rfl) hψ hn (asks_cancel hn (h.service.jobs (List.mem_of_getElem? hψ)))
  | @resume i ψ hψ hr =>
    have hm := List.mem_of_getElem? hψ
    cases hc : ψ.closing? with
    | none => exact .asks (.inr rfl) hψ hc (asks_resume hc (h.service.jobs hm))
    | some φ =>
      cases h.plain hm (closesAt_waiting.mpr hc)
      exact .closing hψ hr
  | act p => exact .act p
  | proceed hφ hr => exact .proceed hφ hr
  | shift w β => exact .shift w β

/-- A closing that is under way was so before, it begins, or it goes on. -/
theorem Moves.closing_cases {o : Occurrence} {ε : Desk} (hm : Moves δ o ε) {j : Nat} {π : Working}
    {φ : ClosePhase} (hj : ε.job? j = some π) (hφ : ClosesAt π φ) :
    δ.job? j = some π ∨ π = .waiting (.closing φ) ∧
      ((o = .take .close ∧ j = δ.jobs.length ∧ δ.gate.close = (ε.gate, .waiting φ)) ∨
        ∃ χ, o = .resume j ∧ δ.job? j = some (.waiting (.closing χ)) ∧ χ.isReady δ.gate = true ∧
          χ.resume δ.gate = (ε.gate, .waiting φ)) := by
  cases hm with
  | idle => exact .inl hj
  | @asks _ i ψ r ho hi hn hr =>
    obtain ⟨-, hj⟩ | ⟨-, rfl⟩ := job?_put_cases hj
    · exact .inl hj
    · exact absurd hφ (hr.closesAt _)
  | @closing i χ hi hr =>
    obtain ⟨-, hj⟩ | ⟨rfl, rfl⟩ := job?_put_cases hj
    · exact .inl hj
    · have hw := closesAt_closing.mp hφ
      exact .inr ⟨eq_of_closesAt_closing hφ, .inr ⟨χ, rfl, hi, hr, Prod.ext rfl hw⟩⟩
  | pool κ hr =>
    obtain hj | ⟨-, rfl⟩ := job?_append_cases hj
    · exact .inl hj
    · exact absurd hφ (hr.closesAt _)
  | close =>
    obtain hj | ⟨rfl, rfl⟩ := job?_append_cases hj
    · exact .inl hj
    · have hw := closesAt_closing.mp hφ
      exact .inr ⟨eq_of_closesAt_closing hφ, .inl ⟨rfl, rfl, Prod.ext rfl hw⟩⟩
  | proceed => exact .inl hj
  | act => exact .inl hj
  | shift => exact .inl hj

/-- An opening that is pending was so before, or it begins. -/
theorem Moves.opening_cases {o : Occurrence} {ε : Desk} (hm : Moves δ o ε)
    (hε : ε.gate.opening ≠ none) :
    (δ.gate.opening ≠ none ∧ ε.gate.opened = δ.gate.opened) ∨
      ∃ κ, o = .take (.pool κ) ∧ δ.gate.pool = none ∧ δ.gate.opening = none := by
  cases hm with
  | idle => exact .inl ⟨hε, rfl⟩
  | asks ho hi hn hr => exact .inl ⟨hr.aloof.opening ▸ hε, hr.aloof.opened⟩
  | @closing i χ hi hr =>
    have hw := χ.withdraws_resume δ.gate
    exact .inl ⟨hw.opening ▸ hε, hw.opened⟩
  | @pool κ r hr =>
    change r.1.opening ≠ none at hε
    rw [hr.aloof.opening] at hε
    cases hp : δ.gate.pool with
    | some p =>
      rw [getPool_of_pool hp] at hε hr
      exact .inl ⟨hε, hr.aloof.opened⟩
    | none =>
      cases ho : δ.gate.opening with
      | some φ =>
        rw [getPool_of_pending hp ho] at hε hr
        exact .inl ⟨by simp, hr.aloof.opened⟩
      | none => exact .inr ⟨κ, rfl, rfl, rfl⟩
  | close =>
    have hw := δ.gate.withdraws_close
    exact .inl ⟨hw.opening ▸ hε, hw.opened⟩
  | @proceed φ ho hr =>
    obtain ⟨-, he, -⟩ | ⟨hn, -⟩ := φ.advances_resume δ.gate
    · exact .inl ⟨by simp [ho], he⟩
    · exact absurd hn hε
  | act => exact .inl ⟨hε, rfl⟩
  | shift => exact .inl ⟨hε, rfl⟩

theorem IsSimple.occur (h : δ.IsSimple) {o : Occurrence} (ho : δ.IsPlain o) :
    (δ.occur o).IsSimple where
  service := h.service.occur False.elim
  plain {π φ} hπ hφ := by
    obtain ⟨j, hj⟩ := List.mem_iff_getElem?.mp hπ
    obtain hj | ⟨rfl, -⟩ := (h.moves ho).closing_cases hj hφ
    · exact h.plain (List.mem_of_getElem? hj) hφ
    · rfl

/-! ## Settings stay as they are -/

theorem isPermitted_of_isServed {ψ : JobPhase} (h : IsServed (.waiting ψ)) :
    ψ.IsPermitted fun _ ↦ True := by
  cases ψ with
  | running φ =>
    cases φ with
    | joining n ρ => exact fun _ _ ↦ trivial
    | running p t d budget reply => trivial
  | calling φ | conversing ν φ | visiting ν φ => exact h.elim
  | _ => trivial

theorem InService.settings_occur (h : δ.InService b) (o : Occurrence) :
    (δ.occur o).gate.settings = δ.gate.settings := by
  have hserved {ψ : JobPhase} {j : Nat} (hj : δ.job? j = some (.waiting ψ)) :=
    isPermitted_of_isServed (h.jobs (List.mem_of_getElem? hj))
  have hm := δ.happens o
  generalize δ.occur o = ε at hm
  cases hm with
  | idle => rfl
  | take d =>
    have hd : d.order.IsPermitted (fun _ ↦ True) δ.gate.settings :=
      ⟨fun _ _ _ _ ↦ trivial, fun _ _ _ _ _ ↦ trivial⟩
    exact (abides_begin hd).sends.settings
  | giveUp hj => exact (JobPhase.abides_cancel (hserved hj) δ.gate).sends.settings
  | resume hj => exact (JobPhase.abides_resume (hserved hj) δ.gate).sends.settings
  | act p => rfl
  | @proceed φ => exact (φ.quiet_resume δ.gate).settings
  | shift w β => rfl

end Desk

theorem IsNew.isSimple {γ : Gate} (h : IsNew γ) : (Desk.mk γ []).IsSimple :=
  ⟨h.inService, by rintro π φ ⟨⟩⟩

end Sluice.Server
