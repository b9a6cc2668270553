import Sluice.Proofs.Server.Service

/-!
# No process is left behind

A shutdown within a grace period may strike a gate in any state: with no opening, with one pending
at any of its waits, with a pool, or with a proxy that has died.  Whatever became of the gate
before, if nobody comes until the shutdown returns then every process is over by that time; and if
it says that all was closed in time, then no pool and no supervisor is in use, and every pool that
was concerned was told to close (`nothing_left_of_shutdown`).
-/

namespace Sluice.Server

open Proxy Gate

/-! ## Where a shutdown stands -/

/-- What holds of a shutdown that began at `γ` and has led to `δ`. -/
def Shuts (a : Prop) (γ δ : Gate) : ShuttingDown → Prop
  | .waiting (.closing _ _ φ) | .waiting (.overdue _ φ) => Stands a γ δ φ
  | .waiting (.abandoned _) => True
  | .done (.ok b) => δ.opening = none ∧ δ.IsSpent ∧
      (b = true → δ.pool = none ∧ δ.proxy = none ∧ (a → γ.Told δ))
  | .done (.error _) => True

section Shuts

variable {a : Prop} {γ δ ε : Gate} {S : Nat → StopPhase → Prop} {π : ShuttingDown}

theorem Shuts.mono (h : Shuts a γ δ π) (hs : δ.Subsides ε) (hb : a → δ.Balances ε) :
    Shuts a γ ε π := by
  unfold Shuts at h ⊢
  split at h
  · exact h.mono hs hb
  · exact h.mono hs hb
  · trivial
  · obtain ⟨ho, hd, hc⟩ := h
    refine ⟨hs.opening ho, hs.isSpent ho hd, fun hb' ↦ ?_⟩
    obtain ⟨hp, hx, ht⟩ := hc hb'
    exact ⟨hs.pool ho hp, hs.proxy ho hx, fun ha ↦
      (ht ha).of_eq ((hb ha).closings ho) ((hb ha).pools ho)⟩
  · trivial

/-- The closing has ended, well or not. -/
theorem shuts_settle (hk : δ.IsKept True S) (ho : δ.opening = none) {grace : Value} {ε : Ending}
    (hd : ε = .closed → δ.pool = none ∧ δ.proxy = none ∧ (a → γ.Told δ)) :
    Shuts a γ (δ.settle grace ε).1 (δ.settle grace ε).2 := by
  have h (r : Event) (hc : r.isCreation = false) :
      Shuts a γ (δ.emit r).abort (.done (.ok false)) := by
    have hr : (δ.emit r).IsKept True S := hk.of_eq rfl rfl rfl rfl fun _ ↦ id
    have hw := (δ.withdraws_emit hc).trans (withdraws_abort _)
    exact ⟨hw.opening.trans ho, hr.isSpent_abort trivial ho, by rintro ⟨⟩⟩
  cases ε with
  | closed => exact ⟨ho, hk.isSpent trivial ho (hd rfl).2.1, fun _ ↦ hd rfl⟩
  | late => exact h _ rfl
  | failed φ => exact h _ rfl

theorem ofFault_ne_closed (φ : Fault) : Ending.ofFault φ ≠ .closed := by
  unfold Ending.ofFault
  split <;> simp

theorem shuts_duringShutdown {r : Gate × Closing} (hk : r.1.IsKept True S) (hr : Comes a γ r)
    (d : Option Time) (grace : Value) :
    Shuts a γ (r.1.duringShutdown d grace r.2).1 (r.1.duringShutdown d grace r.2).2 := by
  obtain ⟨δ, φ | φ | _⟩ := r
  · exact hr.waiting rfl
  · unfold duringShutdown
    dsimp only
    split
    · trivial
    · exact shuts_settle hk (hr.idle rfl) fun h ↦ absurd h (ofFault_ne_closed φ)
  · exact shuts_settle hk (hr.idle rfl) fun _ ↦ hr.done rfl

theorem shuts_afterExpiry {r : Gate × Closing} (hk : r.1.IsKept True S) (hr : Comes a γ r)
    (grace : Value) : Shuts a γ (r.1.afterExpiry grace r.2).1 (r.1.afterExpiry grace r.2).2 := by
  obtain ⟨δ, φ | φ | _⟩ := r
  · exact hr.waiting rfl
  · unfold afterExpiry
    dsimp only
    split
    · exact shuts_settle hk (hr.idle rfl) (by rintro ⟨⟩)
    · exact shuts_settle hk (hr.idle rfl) fun h ↦ absurd h (ofFault_ne_closed φ)
  · exact shuts_settle hk (hr.idle rfl) fun _ ↦ hr.done rfl

theorem shuts_afterAbandoning (γ δ : Gate) (π : Closing) :
    Shuts a γ (δ.afterAbandoning π).1 (δ.afterAbandoning π).2 := by
  cases π <;> trivial

/-- A grace period that a shutdown can use, and that is not over at once. -/
def Lasts (grace : Value) : Prop := misuse? grace = none ∧ isSpent grace = false

theorem shuts_shutdown (h : γ.IsKept True S) {grace : Value} (hg : Lasts grace) :
    Shuts a γ (γ.shutdown grace).1 (γ.shutdown grace).2 := by
  unfold shutdown
  split
  next φ hφ => rw [hg.1] at hφ; cases hφ
  · rw [hg.2]
    exact shuts_duringShutdown h.keeps_close h.comes_close _ grace

/-- The closing that a shutdown waits for. -/
theorem exists_closing? (φ : ShutdownPhase) :
    ∃ ψ, (JobPhase.shuttingDown φ).closing? = some ψ := by
  cases φ with
  | closing d grace ψ | overdue grace ψ | abandoned ψ => exact ⟨ψ, rfl⟩

theorem Shuts.resume {φ : ShutdownPhase} (h : Shuts a γ δ (.waiting φ)) {ψ : ClosePhase}
    (hψ : (JobPhase.shuttingDown φ).closing? = some ψ)
    (hk : δ.IsKept True (Adds (α := Unit) S (.waiting ψ))) (hr : φ.isReady δ = true)
    (hle : γ.atHand + γ.ahead ≤ 1) : Shuts a γ (φ.resume δ).1 (φ.resume δ).2 := by
  have hp (ho : δ.opening ≠ none) : δ.pool = none := by
    obtain ⟨χ, hχ⟩ := Option.ne_none_iff_exists'.mp ho
    exact hk.pool_eq_none hχ
  cases φ with
  | closing d grace φ =>
    cases hψ
    have h : Stands a γ δ ψ := h
    unfold ShutdownPhase.resume
    dsimp only
    split
    next hφ => exact shuts_duringShutdown (hk.keeps_resume hφ) (h.comes_resume hle) d grace
    next => exact shuts_afterExpiry hk.keeps_cancel (h.comes_cancel hle hp) grace
  | overdue grace φ =>
    cases hψ
    have h : Stands a γ δ ψ := h
    exact shuts_afterExpiry (hk.keeps_resume hr) (h.comes_resume hle) grace
  | abandoned φ => exact shuts_afterAbandoning γ _ _

end Shuts

/-! ## The job of a shutdown -/

namespace Desk

/-- The job of a number is a shutdown that began at `γ`. -/
structure ShutsDown (a : Prop) (γ : Gate) (i : Nat) (δ : Desk) : Prop where
  service : δ.InService True
  alone : a → δ.Alone i
  concerned : γ.atHand + γ.ahead ≤ 1
  job : ∃ π, δ.job? i = some (part .shuttingDown .truth π) ∧ Shuts a γ δ.gate π

variable {a : Prop} {γ : Gate} {i : Nat} {δ ε : Desk}

theorem ShutsDown.aside (h : ShutsDown a γ i δ) (he : ε.InService True) (ha : Aside i δ ε) :
    ShutsDown a γ i ε where
  service := he
  alone hb := ha.alone (h.alone hb)
  concerned := h.concerned
  job := by
    obtain ⟨π, hπ, hs⟩ := h.job
    exact ⟨π, ha.job.trans hπ, hs.mono ha.subsides fun hb ↦ ha.balances (h.alone hb)⟩

/-- The job of a number has come to a point. -/
theorem ShutsDown.put (h : ShutsDown a γ i δ) {r : Gate × ShuttingDown}
    (hs : (δ.put i (ofGate .shuttingDown .truth r)).InService True) (hr : Shuts a γ r.1 r.2) :
    ShutsDown a γ i (δ.put i (ofGate .shuttingDown .truth r)) where
  service := hs
  alone hb j π φ hj hπ := h.alone hb j π φ hj (by rwa [job?_put_of_ne (Ne.symm hj)] at hπ)
  concerned := h.concerned
  job := by
    obtain ⟨π, hπ, -⟩ := h.job
    exact ⟨r.2, job?_put_self hπ _, hr⟩

/-- The job of a number is the shutdown. -/
theorem ShutsDown.exists_stands (h : ShutsDown a γ i δ) {ψ : JobPhase}
    (hi : δ.job? i = some (.waiting ψ)) :
    ∃ φ, ψ = .shuttingDown φ ∧ Shuts a γ δ.gate (.waiting φ) := by
  obtain ⟨π, hπ, hs⟩ := h.job
  cases π with
  | done ρ => cases Option.some.inj (hi.symm.trans hπ)
  | waiting φ =>
    cases Option.some.inj (hi.symm.trans hπ)
    exact ⟨φ, rfl, hs⟩

theorem ShutsDown.occur (h : ShutsDown a γ i δ) {o : Occurrence} (ht : ∀ d, o ≠ .take d) :
    ShutsDown a γ i (δ.occur o) := by
  have hs := h.service.occur fun _ d hd ↦ absurd hd (ht d)
  by_cases hg : o = .giveUp i
  · subst hg
    have hm := δ.happens (.giveUp i)
    generalize δ.occur (.giveUp i) = ε at hs hm
    cases hm with
    | idle => exact h
    | giveUp hi =>
      obtain ⟨φ, rfl, -⟩ := h.exists_stands hi
      refine h.put hs ?_
      cases φ <;> exact shuts_afterAbandoning γ _ _
  · by_cases hr : o = .resume i
    · subst hr
      have hm := δ.happens (.resume i)
      generalize δ.occur (.resume i) = ε at hs hm
      cases hm with
      | idle => exact h
      | resume hi hready =>
        obtain ⟨φ, rfl, hstands⟩ := h.exists_stands hi
        obtain ⟨ψ, hψ⟩ := exists_closing? φ
        exact h.put hs (hstands.resume hψ (h.service.isKept_adds hi hψ) hready h.concerned)
    · exact h.aside hs (h.service.aside ht hg hr)

theorem ShutsDown.occurs (h : ShutsDown a γ i δ) {os : List Occurrence}
    (ht : ∀ d, .take d ∉ os) : ShutsDown a γ i (δ.occurs os) := by
  induction os generalizing δ with
  | nil => exact h
  | cons o os ih =>
    refine ih (h.occur fun d hd ↦ ht d ?_) fun d hd ↦ ht d (List.mem_cons_of_mem _ hd)
    rw [hd]
    exact List.mem_cons_self

/-- A shutdown begins. -/
theorem InService.shutsDown (h : δ.InService True) {grace : Value} (hg : Lasts grace) :
    ShutsDown (∀ π ∈ δ.jobs, ∀ φ, ¬ ClosesAt π φ) δ.gate δ.jobs.length
      (δ.take (.shutdown grace)).1 := by
  have hnew : (δ.take (.shutdown grace)).1 =
      ⟨(δ.gate.shutdown grace).1, δ.jobs ++ [part .shuttingDown .truth (δ.gate.shutdown grace).2]⟩ :=
    rfl
  refine
    { service := h.takeShutdown grace
      alone := fun ha j π φ hj hπ ↦ ?_
      concerned := h.gate.atHand_add_ahead_le
      job := ⟨_, ?_, shuts_shutdown h.gate hg⟩ }
  · rw [hnew, job?, List.getElem?_append] at hπ
    split at hπ
    · exact ha π (List.mem_of_getElem? hπ) φ
    · rw [List.getElem?_singleton, if_neg (by omega)] at hπ
      cases hπ
  · rw [hnew]
    simp [job?]

end Desk

/-! ## No process is left behind -/

/-- What a shutdown that has returned leaves behind: all processes are over, and if all was closed
in time there is no pool and no supervisor in use.  If no other closing was under way at `γ`, where
it began, then each pool that was owned, or was produced by the pending opening, was told to close
once. -/
structure LeavesNothing (γ δ : Gate) (closed alone : Prop) : Prop where
  isSpent : δ.IsSpent
  pool : closed → δ.pool = none
  proxy : closed → δ.proxy = none
  told : closed → alone → γ.Told δ

/-- However a gate was used before, and wherever it stands: nothing is left of it once a shutdown
has returned, if nobody came in the meantime. -/
theorem nothing_left_of_shutdown {γ : Gate} (hγ : IsNew γ) {os : List Occurrence}
    (hos : (Desk.mk γ []).Abides Desk.IsTimely os) {grace : Value} (hg : Lasts grace)
    {os' : List Occurrence} (hos' : ∀ d, .take d ∉ os') {b : Bool} :
    let δ := (Desk.mk γ []).occurs os
    let ε := (δ.take (.shutdown grace)).1.occurs os'
    ε.result? δ.jobs.length = some (.ok (.truth b)) →
      LeavesNothing δ.gate ε.gate (b = true) (∀ π ∈ δ.jobs, ∀ φ, ¬ ClosesAt π φ) := by
  intro δ ε hε
  have hδ : δ.InService True :=
    hos.induction (fun _ _ h ho ↦ h.occur fun _ ↦ ho) hγ.inService
  have h := (hδ.shutsDown hg).occurs hos'
  obtain ⟨π, hπ, hs⟩ := h.job
  change ε.job? δ.jobs.length = _ at hπ
  rw [Desk.result?, hπ] at hε
  obtain φ | ρ | c := π
  · cases hε
  · cases hε
  · simp only [part, Except.map, Option.some.injEq, Except.ok.injEq, Answer.truth.injEq] at hε
    subst hε
    obtain ⟨-, hd, hc⟩ := hs
    exact ⟨hd, fun hb ↦ (hc hb).1, fun hb ↦ (hc hb).2.1, fun hb ↦ (hc hb).2.2⟩

/-- The proxy ignores the request to end; it is killed when a second of grace is over. -/
theorem nothing_left_of_shutdown_stubborn :
    ∃ σ, Settings.load proxySettings = .ok σ ∧
      let γ := newGate σ [{ listens := some 0, onTerminate := none }]
      let δ := (Desk.mk γ []).occurs [.take (.pool .connect)]
      let ε := (δ.take (.shutdown (.int 1))).1.occurs
        [.shift { δ.gate.world with now := 2 * Time.second } {}, .resume 1]
      δ.gate.pool = some 0 ∧ ε.gate.world.children.map Child.killed = [true] ∧
        LeavesNothing δ.gate ε.gate (false = true) (∀ π ∈ δ.jobs, ∀ φ, ¬ ClosesAt π φ) := by
  refine ⟨_, rfl, by decide +kernel, by decide +kernel, ?_⟩
  refine nothing_left_of_shutdown (isNew_newGate _ _) ?_ ⟨rfl, rfl⟩ (by simp) ?_
  · exact ⟨Desk.IsCalm.isTimely fun _ _ ↦ rfl, trivial⟩
  · rfl

end Sluice.Server
