import Mathlib.Data.List.Induction
import Sluice.Proofs.Gate.Expiry
import Sluice.Proofs.Server.Progress
import Sluice.Proofs.Server.Shutdown

/-!
# A grace period that is over

A shutdown is to be over at the latest when its grace period is: then it says that not all was
closed in time, and every process has ended or been killed.  While time passes no further than to
the next moment at which something is due, this is so at that very moment, however the gate was used
before and whoever comes meanwhile, unless a process outlives the grace period (`forced_of_expiry`).
-/

namespace Sluice.Server

open Proxy Gate

variable {b P Q : Prop} {d : Time} {i : Nat} {δ ε : Desk} {o : Occurrence} {γ : Gate}

/-! ## Work takes no time -/

theorem JobPhase.now_resume {ψ : JobPhase} (h : IsServed (.waiting ψ)) :
    (ψ.resume γ).1.now = γ.now := by
  cases ψ with
  | connecting n => rfl
  | running φ => exact (φ.aloof_resume γ).now
  | closing φ => exact φ.now_resume γ
  | shuttingDown φ => exact φ.now_resume γ
  | _ => exact h.elim

theorem JobPhase.now_cancel {ψ : JobPhase} (h : IsServed (.waiting ψ)) :
    (ψ.cancel γ).1.now = γ.now := by
  cases ψ with
  | connecting n => rfl
  | running φ => exact (φ.aloof_cancel γ).now
  | closing φ => exact φ.now_cancel γ
  | shuttingDown φ => exact φ.now_cancel γ
  | _ => exact h.elim

theorem now_begin (γ : Gate) (d : Demand) : (begin γ d.order).1.now = γ.now := by
  cases d with
  | pool κ =>
    change (begin γ κ.order).1.now = _
    rw [Caller.begin_order]
    exact (asks_receive _ _ κ).aloof.now.trans γ.now_getPool
  | close => exact γ.now_close
  | shutdown grace => exact γ.now_shutdown grace

namespace Desk

theorem InService.now_occur (h : δ.InService b) (ho : ∀ w β, o ≠ .shift w β) :
    (δ.occur o).now = δ.now := by
  have hm := δ.happens o
  generalize δ.occur o = ε at hm
  cases hm with
  | idle => rfl
  | take d => exact now_begin δ.gate d
  | giveUp hj => exact JobPhase.now_cancel (h.jobs (List.mem_of_getElem? hj))
  | resume hj => exact JobPhase.now_resume (h.jobs (List.mem_of_getElem? hj))
  | act p => exact (δ.gate.world.stays_act p).now
  | @proceed φ => exact φ.now_resume δ.gate
  | shift w β => exact absurd rfl (ho w β)

/-- A job stands where it stood unless it is given up or goes on. -/
theorem InService.job?_occur (h : δ.InService b) {π : Working} (hi : δ.job? i = some π)
    (hg : o ≠ .giveUp i) (hr : o ≠ .resume i) : (δ.occur o).job? i = some π := by
  by_cases ht : ∃ d, o = .take d
  · obtain ⟨d, rfl⟩ := ht
    exact job?_append hi _ _
  · exact (h.aside (fun d hd ↦ ht ⟨d, hd⟩) hg hr).job.trans hi

/-! ## Grace periods that are over -/

/-- Time passes no further than to the next moment at which something is due. -/
def IsPrompt (δ : Desk) (o : Occurrence) : Prop :=
  ∀ w β t, o = .shift w β → δ.due? = some t → w.now ≤ t

/-- The shutdown of a number, which may last until `d`, has come to the end of its grace period
while its closing cannot go on. -/
def Expires (δ : Desk) (i : Nat) (d : Time) (ψ : ClosePhase) : Prop :=
  (∃ grace, δ.job? i = some (.waiting (.shuttingDown (.closing (some d) grace ψ)))) ∧
    d ≤ δ.now ∧ ψ.isReady δ.gate = false

/-- The shutdown of a number has returned that not all was closed in time, and every process is
over. -/
def IsForced (δ : Desk) (i : Nat) : Prop :=
  δ.result? i = some (.ok (.truth false)) ∧ δ.gate.IsSpent

/-- In what happened, a process outlived the grace period of a shutdown. -/
def Outlived (δ : Desk) (i : Nat) (d : Time) (os : List Occurrence) : Prop :=
  ∃ os₁ os₂ ψ, os = os₁ ++ .resume i :: os₂ ∧ (δ.occurs os₁).Expires i d ψ ∧
    (δ.occurs os₁).gate.Outlives ψ

/-- At the end of its grace period a shutdown is forced, unless a process outlives it. -/
theorem InService.isForced_resume_iff (h : δ.InService True) {grace : Value} {ψ : ClosePhase}
    (hi : δ.job? i = some (.waiting (.shuttingDown (.closing (some d) grace ψ))))
    (hr : ψ.isReady δ.gate = false) :
    Gate.IsForced ((ShutdownPhase.closing (some d) grace ψ).resume δ.gate) ↔
      ¬ δ.gate.Outlives ψ := by
  refine (h.isKept_adds hi rfl).isForced_resume_iff (fun n hn ↦ ?_) hr (some d) grace
  exact h.awaits (List.mem_of_getElem? hi) (closesAt_waiting.mpr (hn ▸ rfl))

theorem InService.isForced_iff (h : δ.InService True) {ψ : ClosePhase} (he : δ.Expires i d ψ) :
    (δ.occur (.resume i)).IsForced i ↔ ¬ δ.gate.Outlives ψ := by
  obtain ⟨⟨grace, hi⟩, hd, hr⟩ := he
  have hready : (ShutdownPhase.closing (some d) grace ψ).isReady δ.gate = true := by
    have ht : Time.reached δ.gate.now (some d) = true := reached_of_le rfl hd
    simp [ShutdownPhase.isReady, ht]
  have hres : δ.occur (.resume i) = δ.put i (ofGate .shuttingDown .truth
      ((ShutdownPhase.closing (some d) grace ψ).resume δ.gate)) := occur_resume_of_waiting hi hready
  rw [← h.isForced_resume_iff hi hr, hres, IsForced, result?, job?_put_self hi]
  generalize (ShutdownPhase.closing (some d) grace ψ).resume δ.gate = r
  obtain ⟨γ, φ | f | c⟩ := r
  · simp [Gate.IsForced, ofGate, part]
  · simp [Gate.IsForced, ofGate, part, Except.map]
  · simp [Gate.IsForced, ofGate, part, Except.map, Desk.put]

end Desk

/-! ## Where a shutdown stands -/

/-- Where a shutdown stands that may last until `d`; `P` tells whether a process has outlived that.
-/
def LastsUntil (d : Time) (P : Prop) (now : Time) : ShuttingDown → Prop
  | .waiting (.closing e _ _) => e = some d ∧ now ≤ d
  | .waiting (.overdue ..) => P
  | .waiting (.abandoned _) => False
  | .done _ => True

theorem lastsUntil_settle (grace : Value) (ε : Ending) (t : Time) :
    LastsUntil d P t (γ.settle grace ε).2 := by
  unfold settle
  split <;> trivial

theorem lastsUntil_duringShutdown {t : Time} (ht : t ≤ d) (grace : Value) (π : Closing) :
    LastsUntil d P t (γ.duringShutdown (some d) grace π).2 := by
  unfold duringShutdown
  split
  · exact ⟨rfl, ht⟩
  · exact lastsUntil_settle ..
  · split
    · trivial
    · exact lastsUntil_settle ..

theorem lastsUntil_afterExpiry (hP : P) (grace : Value) (π : Closing) (t : Time) :
    LastsUntil d P t (γ.afterExpiry grace π).2 := by
  unfold afterExpiry
  split
  · exact hP
  · exact lastsUntil_settle ..
  · split <;> exact lastsUntil_settle ..

theorem LastsUntil.mono {t : Time} {π : ShuttingDown} (h : LastsUntil d P t π) (hP : P → Q) :
    LastsUntil d Q t π := by
  unfold LastsUntil at h ⊢
  split at h
  · exact h
  · exact hP h
  · exact h
  · trivial

namespace Desk

/-- The job of a number is a shutdown that may last until `d`. -/
structure Pends (i : Nat) (d : Time) (P : Prop) (δ : Desk) : Prop where
  service : δ.InService True
  job : ∃ π, δ.job? i = some (part .shuttingDown .truth π) ∧ LastsUntil d P δ.now π

/-- A shutdown begins. -/
theorem InService.pends (h : δ.InService True) {grace : Value} (hg : Lasts grace) {g : Time}
    (hl : lengthOf grace = some g) :
    (δ.take (.shutdown grace)).1.Pends δ.jobs.length (δ.now + g) P where
  service := h.takeShutdown grace
  job := by
    refine ⟨(δ.gate.shutdown grace).2, ?_, ?_⟩
    · change (δ.jobs ++ [_])[δ.jobs.length]? = _
      rw [List.getElem?_concat_length]
    · have ht : (δ.take (.shutdown grace)).1.now ≤ δ.now + g := by
        change (δ.gate.shutdown grace).1.now ≤ _
        rw [δ.gate.now_shutdown]
        exact Int.le_add_of_nonneg_right (lengthOf_nonneg hg.2 hl)
      unfold shutdown
      simp only [hg.1, hg.2, hl]
      exact lastsUntil_duringShutdown ht grace _

/-- While a closing waits within its grace period, something is due at the end of that at the
latest. -/
theorem exists_due?_closing {grace : Value} {ψ : ClosePhase}
    (hi : δ.job? i = some (.waiting (.shuttingDown (.closing (some d) grace ψ)))) :
    ∃ t, δ.due? = some t ∧ t ≤ d := by
  cases hψ : ψ.due? with
  | none => exact exists_due?_of_job hi (by simp [JobPhase.due?, ShutdownPhase.due?, hψ, Time.earlier])
  | some u =>
    have hm : (JobPhase.shuttingDown (.closing (some d) grace ψ)).due? = some (min u d) := by
      simp [JobPhase.due?, ShutdownPhase.due?, hψ, Time.earlier]
    obtain ⟨t, ht, hle⟩ := exists_due?_of_job hi hm
    exact ⟨t, ht, Int.le_trans hle (Int.min_le_right u d)⟩

/-- A shutdown goes on: its closing may within the grace period, and is given up at the end of it.
-/
theorem InService.lastsUntil_resume (h : δ.InService True) {φ : ShutdownPhase}
    (hi : δ.job? i = some (.waiting (.shuttingDown φ))) (hr : φ.isReady δ.gate = true)
    (hlast : LastsUntil d P δ.now (.waiting φ)) (hPQ : P → Q)
    (hQ : ∀ ψ, δ.Expires i d ψ → δ.gate.Outlives ψ → Q) :
    LastsUntil d Q δ.now (φ.resume δ.gate).2 := by
  cases φ with
  | closing e grace ψ =>
    obtain ⟨rfl, ht⟩ := hlast
    cases hψ : ψ.isReady δ.gate with
    | true =>
      simp only [ShutdownPhase.resume, hψ, if_true]
      exact lastsUntil_duringShutdown ht grace _
    | false =>
      have hd : ψ.isReady δ.gate = true ∨ d ≤ δ.gate.now := by
        simpa [ShutdownPhase.isReady, Time.reached] using hr
      replace hd : d ≤ δ.now := hd.resolve_left (by simp [hψ])
      by_cases hout : δ.gate.Outlives ψ
      · have hq := hQ ψ ⟨⟨grace, hi⟩, hd, hψ⟩ hout
        simp only [ShutdownPhase.resume, hψ]
        exact lastsUntil_afterExpiry hq grace _ _
      · rw [((h.isForced_resume_iff hi hψ).mpr hout).1]
        trivial
  | overdue grace ψ => exact lastsUntil_afterExpiry (hPQ hlast) grace _ _
  | abandoned ψ => exact hlast.elim

theorem Pends.resume (h : δ.Pends i d P) (hPQ : P → Q)
    (hQ : ∀ ψ, δ.Expires i d ψ → δ.gate.Outlives ψ → Q) : (δ.occur (.resume i)).Pends i d Q := by
  obtain ⟨π, hπ, hlast⟩ := h.job
  refine ⟨h.service.occur (by rintro - d ⟨⟩), ?_⟩
  rw [h.service.now_occur (by simp)]
  cases hr : δ.isReady i with
  | false =>
    have hδ : δ.occur (.resume i) = δ := by simp [Desk.occur, hr]
    rw [hδ]
    exact ⟨π, hπ, hlast.mono hPQ⟩
  | true =>
    obtain ⟨ψ, hψ, hready, hocc⟩ := occur_resume hr
    cases π with
    | done r => cases Option.some.inj (hψ.symm.trans hπ)
    | waiting φ =>
      cases Option.some.inj (hψ.symm.trans hπ)
      refine ⟨(φ.resume δ.gate).2, ?_, h.service.lastsUntil_resume hπ hready hlast hPQ hQ⟩
      rw [hocc, job?_put_self hπ]
      rfl

/-- What happens while a shutdown waits, if nobody gives it up. -/
theorem Pends.occur (h : δ.Pends i d P) (hc : δ.IsTimely o) (hp : δ.IsPrompt o) (hg : o ≠ .giveUp i)
    (hPQ : P → Q) (hQ : ∀ ψ, o = .resume i → δ.Expires i d ψ → δ.gate.Outlives ψ → Q) :
    (δ.occur o).Pends i d Q := by
  by_cases hr : o = .resume i
  · subst hr
    exact h.resume hPQ fun ψ ↦ hQ ψ rfl
  · obtain ⟨π, hπ, hlast⟩ := h.job
    refine ⟨h.service.occur fun _ ↦ hc, π, h.service.job?_occur hπ hg hr, ?_⟩
    by_cases hw : ∃ w β, o = .shift w β
    · -- the end of the grace period is due while the closing waits
      obtain ⟨w, β, rfl⟩ := hw
      cases π with
      | done r => trivial
      | waiting φ =>
        cases φ with
        | closing e grace χ =>
          obtain ⟨rfl, -⟩ := hlast
          obtain ⟨u, hu, hud⟩ := exists_due?_closing hπ
          exact ⟨rfl, Int.le_trans (hp w β u rfl hu) hud⟩
        | overdue grace χ => exact hPQ hlast
        | abandoned χ => exact hlast
    · rw [h.service.now_occur fun w β hs ↦ hw ⟨w, β, hs⟩]
      exact hlast.mono hPQ

/-! ## The end of the grace period -/

/-- Whoever comes finds no closing that can go on, time passes from one moment at which something is
due to the next, and the job of a number is not given up. -/
def IsAwaited (i : Nat) (δ : Desk) (o : Occurrence) : Prop :=
  δ.IsTimely o ∧ δ.IsPrompt o ∧ o ≠ .giveUp i

theorem Pends.occurs (h : δ.Pends i d False) {os : List Occurrence}
    (hos : δ.Abides (IsAwaited i) os) : (δ.occurs os).Pends i d (δ.Outlived i d os) := by
  induction os using List.reverseRecOn with
  | nil => exact ⟨h.service, h.job.imp fun _ hπ ↦ ⟨hπ.1, hπ.2.mono False.elim⟩⟩
  | append_singleton os o ih =>
    obtain ⟨hos, hc, hp, hg⟩ := abides_concat_iff.mp hos
    rw [occurs_concat]
    refine (ih hos).occur hc hp hg ?_ fun ψ ho he hout ↦ ?_
    · rintro ⟨os₁, os₂, ψ, rfl, he, hout⟩
      exact ⟨os₁, os₂ ++ [o], ψ, by simp, he, hout⟩
    · exact ⟨os, [], ψ, by rw [ho], he, hout⟩

/-- A shutdown that waits within its grace period has not passed the end of that. -/
theorem Pends.now_le (h : δ.Pends i d P) {ψ : ClosePhase} (he : δ.Expires i d ψ) : δ.now ≤ d := by
  obtain ⟨⟨grace, hi⟩, -⟩ := he
  obtain ⟨φ | r, hπ, hlast⟩ := h.job
  · cases Option.some.inj (hi.symm.trans hπ)
    exact hlast.2
  · cases Option.some.inj (hi.symm.trans hπ)

/-- One that is not over has not passed it either, unless a process has outlived it. -/
theorem Pends.now_le_or (h : δ.Pends i d P) (hi : δ.isOver i = false) : δ.now ≤ d ∨ P := by
  obtain ⟨φ | r, hπ, hlast⟩ := h.job
  · cases φ with
    | closing e grace χ => exact .inl hlast.2
    | overdue grace χ => exact .inr hlast
    | abandoned χ => exact hlast.elim
  · cases (isOver_of_done hπ).symm.trans hi

end Desk

/-- A gate is asked to shut down within a grace period of `g`, however it was used before, and
whatever happens until the shutdown returns.  If the closing cannot go on at the end of that period
then the shutdown returns at the same moment that not all was closed, and every process has ended or
been killed, if and only if no process outlives the period.  Past that moment the shutdown is
pending only where a process has outlived it. -/
theorem forced_of_expiry {γ : Gate} (hγ : IsNew γ) {os : List Occurrence}
    (hos : (Desk.mk γ []).Abides Desk.IsTimely os) {grace : Value} (hg : Lasts grace) {g : Time}
    (hl : lengthOf grace = some g) {os' : List Occurrence} :
    let δ := (Desk.mk γ []).occurs os
    let i := δ.jobs.length
    let d := δ.now + g
    let δ' := (δ.take (.shutdown grace)).1
    let ε := δ'.occurs os'
    δ'.Abides (Desk.IsAwaited i) os' →
      (∀ ψ, ε.Expires i d ψ → (ε.occur (.resume i)).now = d ∧
        ((ε.occur (.resume i)).IsForced i ↔ ¬ ε.gate.Outlives ψ)) ∧
      (ε.isOver i = false → ε.now ≤ d ∨ δ'.Outlived i d os') := by
  intro δ i d δ' ε hos'
  have hδ : δ.InService True := hos.induction (fun _ _ h ho ↦ h.occur fun _ ↦ ho) hγ.inService
  have hε : ε.Pends i d (δ'.Outlived i d os') := (hδ.pends hg hl).occurs hos'
  refine ⟨fun ψ he ↦ ⟨?_, hε.service.isForced_iff he⟩, hε.now_le_or⟩
  rw [hε.service.now_occur (by simp)]
  exact Int.le_antisymm (hε.now_le he) he.2.1

/-- Time goes on to `t` at a new gate. -/
def passTo (γ : Gate) (t : Time) : Occurrence := .shift { γ.world with now := t } {}

theorem Desk.isAwaited_passTo {t : Time} (hd : δ.due? = some t) : δ.IsAwaited i (passTo γ t) := by
  refine ⟨by rintro d ⟨⟩, ?_, by rintro ⟨⟩⟩
  rintro w β u ⟨⟩ hu
  exact Int.le_of_eq (Option.some.inj (hd.symm.trans hu))

/-- The proxy ignores the request to end; it is killed when a second of grace is over. -/
theorem forced_of_expiry_stubborn :
    ∃ σ, Settings.load proxySettings = .ok σ ∧
      let γ := newGate σ [{ listens := some 0, onTerminate := none }]
      let δ := (Desk.mk γ []).occurs [.take (.pool .connect)]
      let ε := (δ.take (.shutdown (.int 1))).1.occurs [passTo γ Time.second]
      ε.Expires 1 Time.second (.stoppingProxy 0 (.grace 0 stopGrace)) ∧
        (ε.occur (.resume 1)).now = Time.second ∧ (ε.occur (.resume 1)).IsForced 1 := by
  obtain ⟨σ, hσ, hnow, hdue, he, ho⟩ : ∃ σ, Settings.load proxySettings = .ok σ ∧
      let γ := newGate σ [{ listens := some 0, onTerminate := none }]
      let δ := (Desk.mk γ []).occurs [.take (.pool .connect)]
      let δ' := (δ.take (.shutdown (.int 1))).1
      δ.now + Time.second = Time.second ∧ δ'.due? = some Time.second ∧
        (δ'.occurs [passTo γ Time.second]).Expires 1 Time.second
          (.stoppingProxy 0 (.grace 0 stopGrace)) ∧ δ'.gate.opening = none :=
    ⟨_, rfl, by decide +kernel, by decide +kernel,
      ⟨⟨.int 1, by rfl⟩, by decide +kernel, by decide +kernel⟩, rfl⟩
  have htimely {γ : Gate} : (Desk.mk γ []).Abides Desk.IsTimely [.take (.pool .connect)] :=
    ⟨Desk.IsCalm.isTimely fun _ _ ↦ rfl, trivial⟩
  have hawaited (γ : Gate) {δ : Desk} (hd : δ.due? = some Time.second) :
      δ.Abides (Desk.IsAwaited 1) [passTo γ Time.second] := ⟨Desk.isAwaited_passTo hd, trivial⟩
  have hl : lengthOf (.int 1) = some Time.second := rfl
  have h := forced_of_expiry (isNew_newGate σ _) htimely ⟨rfl, rfl⟩ hl
    (hawaited (newGate σ [{ listens := some 0, onTerminate := none }]) hdue)
  rw [hnow] at h
  obtain ⟨hn, hf⟩ := h.1 _ he
  refine ⟨σ, hσ, he, hn, hf.mpr ?_⟩
  rintro ⟨s, φ, p, hs, -⟩
  exact absurd (ho.symm.trans hs) (by simp)

/-- The start of the proxy looks in vain for it to become ready.  At the end of a second of grace it
is asked to end, which it ignores, and five seconds later the shutdown is still pending. -/
theorem not_forced_of_expiry :
    ∃ σ, Settings.load proxySettings = .ok σ ∧
      let γ := newGate σ [{ onTerminate := none }]
      let δ := (Desk.mk γ []).occurs [.take (.pool .connect)]
      let δ' := (δ.take (.shutdown (.int 1))).1
      let os := [passTo γ checkInterval, .proceed, passTo γ Time.second]
      let ε := δ'.occurs os
      let ζ := (ε.occur (.resume 1)).occur (passTo γ (Time.second + stopGrace))
      IsNew γ ∧ (Desk.mk γ []).Abides Desk.IsCalm [.take (.pool .connect)] ∧
        δ'.Abides (Desk.IsAwaited 1) (os ++ [.resume 1, passTo γ (Time.second + stopGrace)]) ∧
          ε.Expires 1 Time.second (.awaitingOpening 0) ∧
            (ε.occur (.resume 1)).gate.world.children.map Child.killed = [false] ∧
              ζ.isOver 1 = false ∧ ζ.now = Time.second + stopGrace := by
  have hgo {η : Desk} {o : Occurrence} (ht : ∀ d, o ≠ .take d) (hs : ∀ w β, o ≠ .shift w β)
      (hg : o ≠ .giveUp 1) : Desk.IsAwaited 1 η o :=
    ⟨fun d hd ↦ absurd hd (ht d), fun w β _ hw ↦ absurd hw (hs w β), hg⟩
  refine ⟨_, rfl, isNew_newGate _ _, ⟨fun _ _ ↦ rfl, trivial⟩, ?_,
    ⟨⟨.int 1, by rfl⟩, by decide +kernel, by rfl⟩, by decide +kernel, by rfl, by decide +kernel⟩
  exact ⟨Desk.isAwaited_passTo (by decide +kernel), hgo (by simp) (by simp) (by simp),
    Desk.isAwaited_passTo (by decide +kernel), hgo (by simp) (by simp) (by simp),
    Desk.isAwaited_passTo (by decide +kernel), trivial⟩

end Sluice.Server
