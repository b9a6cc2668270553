import Sluice.Proofs.Server.Progress
import Sluice.Proofs.Server.Run
import Sluice.Proofs.Server.Shutdown

/-!
# Queries and their budgets

A query that has the pool runs until the driver is done with it or its budget is over, whatever
happens beside it (`answers_of_run`).  If the budget is over first then the query took too long, and
it also took too long if the driver says so of itself; all that a database reports is wrapped; every
other fault of the driver comes through as it is.
-/

namespace Sluice.Gate

open Proxy Decimal

/-! ## What a query comes to -/

/-- The budget is over before the driver has done `β`.  What takes no time cannot be late. -/
def Elapses (v : Value) (β : Reply) : Prop := 0 < β.delay ∧ ∃ ℓ, lengthOf v = some ℓ ∧ ℓ ≤ β.delay

/-- The budget is a number of milliseconds that can be named. -/
def IsCounted (v : Value) : Prop := ∃ ms, (thousandfold v).toInteger = .ok ms

/-- The fault that a fault of the database is wrapped in. -/
def wrapped (φ : Fault) : Fault :=
  .saying (.own .driver) ("Query execution failed: " ++ φ.message)

/-- A query is said to have taken too long. -/
def TimedOut {α : Type} (r : Except Fault α) : Prop :=
  ∃ φ, r = .error φ ∧ φ.category? = some .queryTimeout

theorem timedOut_map {α α' : Type} {f : α → α'} {r : Except Fault α} :
    TimedOut (r.map f) ↔ TimedOut r := by
  cases r <;> simp [TimedOut, Except.map]

/-- What a query with the budget `v` comes to if the driver does `β`. -/
structure Answers (v : Value) (β : Reply) (r : Except Fault Table) : Prop where
  timedOut_iff : TimedOut r ↔
    IsCounted v ∧ (Elapses v β ∨ ∃ φ, β.fault = some φ ∧ φ.isTimeout = true)
  wrapped_iff {φ : Fault} : ¬ Elapses v β → β.fault = some φ →
    (r = .error (wrapped φ) ↔ φ.isDatabase = true)
  /-- Any other fault comes through. -/
  fault {φ : Fault} : ¬ Elapses v β → β.fault = some φ → φ.isDatabase = false →
    φ.isTimeout = false → r = .error φ
  table : ¬ Elapses v β → β.fault = none → r = .ok (tableOf β)

variable {v : Value} {β : Reply}

theorem category?_numberFault (ε : Value.IntegerError) : (numberFault ε).category? = none := by
  cases ε <;> rfl

/-- It is said how long the budget was, provided that this can be named. -/
theorem timedOut_overrun_iff {α : Type} :
    TimedOut (α := α) (.error (overrun v)) ↔ IsCounted v := by
  have ho : (overrun v).category? = some .queryTimeout ↔ IsCounted v := by
    unfold overrun IsCounted
    cases (thousandfold v).toInteger with
    | ok ms => simp [Fault.saying, Fault.category?]
    | error ε => simp [category?_numberFault]
  simp [TimedOut, ho]

theorem overrun_ne_wrapped (v : Value) (φ : Fault) : overrun v ≠ wrapped φ := by
  intro h
  have hc := congrArg Fault.category? h
  unfold overrun at hc
  split at hc
  · cases hc
  · rw [category?_numberFault] at hc
    cases hc

theorem isTimeout_of_isDatabase {φ : Fault} (h : φ.isDatabase = true) : φ.isTimeout = false := by
  obtain ⟨κ, a⟩ := φ
  cases κ <;> simp_all [Fault.isDatabase, Fault.isTimeout]

theorem answers_overrun (h : Elapses v β) : Answers v β (.error (overrun v)) where
  timedOut_iff := timedOut_overrun_iff.trans (by simp [h])
  wrapped_iff hn := absurd h hn
  fault hn := absurd h hn
  table hn := absurd h hn

theorem answers_of_fault {φ : Fault} {r : Except Fault Table} (h : ¬ Elapses v β)
    (hβ : β.fault = some φ) (ht : TimedOut r ↔ IsCounted v ∧ φ.isTimeout = true)
    (hw : r = .error (wrapped φ) ↔ φ.isDatabase = true)
    (hf : φ.isDatabase = false → φ.isTimeout = false → r = .error φ) : Answers v β r where
  timedOut_iff := by simp [h, hβ, ht]
  wrapped_iff _ hφ := Option.some.inj (hβ.symm.trans hφ) ▸ hw
  fault _ hφ := Option.some.inj (hβ.symm.trans hφ) ▸ hf
  table _ hn := by rw [hβ] at hn; cases hn

/-- A fault of the driver as the caller sees it. -/
theorem answers_surface {φ : Fault} (h : ¬ Elapses v β) (hβ : β.fault = some φ)
    (hφ : φ.category? = none) : Answers v β (.error (surface v φ)) := by
  unfold surface
  split
  next hd =>
    refine answers_of_fault h hβ ?_ (iff_of_true rfl hd) (by simp [hd])
    simp [TimedOut, Fault.category?, Fault.saying, isTimeout_of_isDatabase hd]
  next hd =>
    split
    next ht =>
      refine answers_of_fault h hβ (by simp [timedOut_overrun_iff, ht]) ?_ (by simp [ht])
      exact iff_of_false (fun he ↦ overrun_ne_wrapped v φ (Except.error.inj he)) hd
    next ht =>
      refine answers_of_fault h hβ (by simp [TimedOut, hφ, ht]) ?_ fun _ _ ↦ rfl
      refine iff_of_false (fun he ↦ ?_) hd
      rw [Except.error.inj he] at hφ
      cases hφ

/-- The driver is done in time. -/
theorem answers_finishRun (γ : Gate) (p : Nat) (h : ¬ Elapses v β)
    (hβ : ∀ φ, β.fault = some φ → φ.category? = none) :
    ∃ r, (γ.finishRun p v β).2 = .done r ∧ Answers v β r := by
  refine ⟨_, rfl, ?_⟩
  split
  next φ hφ => exact answers_surface h hφ (hβ φ hφ)
  next hn =>
    exact
      { timedOut_iff := by simp [TimedOut, h, hn]
        wrapped_iff := fun _ hφ ↦ by rw [hn] at hφ; cases hφ
        fault := fun _ hφ ↦ by rw [hn] at hφ; cases hφ
        table := fun _ _ ↦ rfl }

/-! ## Where a query stands -/

/-- What holds of a query that the driver has been at since `t`. -/
def RunsSince (t : Time) (v : Value) (β : Reply) : Running → Prop
  | .waiting (.running _ ends deadline w ρ) =>
    0 < β.delay ∧ ends = t + β.delay ∧ deadline = (lengthOf v).map (t + ·) ∧ w = v ∧ ρ = β
  | .waiting (.joining ..) => False
  | .done r => Answers v β r

variable {γ : Gate} {t : Time}

/-- A query that has the pool and a budget that lasts is run. -/
theorem runsSince_run (p : Nat) {ρ : Request} {vs : Option (List Value)}
    (hv : budgetOf γ.settings ρ = .ok v) (hm : misuse? v = none) (hs : isSpent v = false)
    (hρ : paramsOf ρ.params = .ok vs)
    (hβ : ∀ φ, (γ.database.replies.headD {}).fault = some φ → φ.category? = none) :
    RunsSince γ.now v (γ.database.replies.headD {}) (γ.run p ρ).2 := by
  unfold run
  simp only [hv, hm, hs, Bool.false_eq_true, if_false, hρ]
  split
  next hd =>
    have hn : ¬ Elapses v (γ.database.replies.headD {}) := fun h ↦ Int.not_lt.mpr hd h.1
    change RunsSince γ.now v _ (finishRun _ p v (γ.database.replies.headD {})).2
    obtain ⟨r, hr, ha⟩ := answers_finishRun _ p hn hβ
    rw [hr]
    exact ha
  next hd => exact ⟨Int.not_le.mp hd, rfl, rfl, rfl, rfl⟩

theorem isOverrun_iff (h : 0 < β.delay) :
    RunPhase.isOverrun (t + β.delay) ((lengthOf v).map (t + ·)) = true ↔ Elapses v β := by
  cases hℓ : lengthOf v with
  | none => simp [RunPhase.isOverrun, Elapses, hℓ]
  | some ℓ => simp [RunPhase.isOverrun, Elapses, hℓ, h]

/-- A query that goes on ends. -/
theorem RunsSince.resume {φ : RunPhase} (h : RunsSince t v β (.waiting φ))
    (hβ : ∀ φ, β.fault = some φ → φ.category? = none) :
    ∃ r, (φ.resume γ).2 = .done r ∧ Answers v β r := by
  cases φ with
  | joining n ρ => exact h.elim
  | running p ends deadline w ρ =>
    obtain ⟨hd, rfl, rfl, rfl, rfl⟩ := h
    unfold RunPhase.resume
    dsimp only
    split
    next he => exact ⟨_, rfl, answers_overrun ((isOverrun_iff hd).mp he)⟩
    next he => exact answers_finishRun γ p (mt (isOverrun_iff hd).mpr he) hβ

/-- The driver is done with a query, or its budget is over. -/
def IsDue (t : Time) (v : Value) (β : Reply) (now : Time) : Prop :=
  t + β.delay ≤ now ∨ ∃ ℓ, lengthOf v = some ℓ ∧ t + ℓ ≤ now

/-- A query can go on as soon as the driver is done with it or its budget is over. -/
theorem RunsSince.isReady_iff {φ : RunPhase} (h : RunsSince t v β (.waiting φ)) :
    φ.isReady γ = true ↔ IsDue t v β γ.now := by
  cases φ with
  | joining n ρ => exact h.elim
  | running p ends deadline w ρ =>
    obtain ⟨-, rfl, rfl, rfl, rfl⟩ := h
    cases hℓ : lengthOf w <;> simp [RunPhase.isReady, IsDue, Time.reached, hℓ]

theorem RunsSince.due?_ne_none {φ : RunPhase} (h : RunsSince t v β (.waiting φ)) : φ.due? ≠ none := by
  cases φ with
  | joining n ρ => exact h.elim
  | running p ends deadline w ρ => cases deadline <;> simp [RunPhase.due?, Time.earlier]

end Sluice.Gate

namespace Sluice.Server

open Proxy Gate

namespace Desk

variable {δ : Desk} {i : Nat}

/-! ## A query as a job -/

/-- A job that is not given up stays where it is or goes on. -/
theorem job?_move {m : Move} (hm : m ≠ .cancel i) {π : Working} (hi : δ.job? i = some π) :
    (δ.move m).job? i = some π ∨
      ∃ ψ, π = .waiting ψ ∧ (δ.move m).job? i = some (ψ.resume δ.gate).2 := by
  cases m with
  | take ω =>
    exact .inl (job?_append hi _ _)
  | cancel j =>
    have hj : j ≠ i := by rintro rfl; exact hm rfl
    refine .inl ?_
    change (δ.cancel j).job? i = _
    unfold Desk.cancel
    split
    · rwa [job?_put_of_ne hj]
    · exact hi
  | resume j =>
    change (δ.resume j).job? i = _ ∨ ∃ ψ, _ ∧ (δ.resume j).job? i = _
    unfold Desk.resume
    split
    next ψ hψ =>
      by_cases hj : j = i
      · subst hj
        obtain rfl := Option.some.inj (hψ.symm.trans hi)
        exact .inr ⟨ψ, rfl, job?_put_self hi _⟩
      · exact .inl (by rwa [job?_put_of_ne hj])
    · exact .inl hi
  | act p => exact .inl hi
  | proceed =>
    refine .inl ?_
    change δ.proceed.job? i = _
    unfold Desk.proceed
    split <;> exact hi
  | advance t => exact .inl hi

/-- The job of a number is a query that the driver has been at since `t`. -/
def RunsAt (t : Time) (v : Value) (β : Reply) (i : Nat) (δ : Desk) : Prop :=
  ∃ π, δ.job? i = some (part .running .table π) ∧ RunsSince t v β π

variable {t : Time} {v : Value} {β : Reply}

theorem RunsAt.move (h : δ.RunsAt t v β i) (hβ : ∀ φ, β.fault = some φ → φ.category? = none)
    {m : Move} (hm : m ≠ .cancel i) : (δ.move m).RunsAt t v β i := by
  obtain ⟨π, hi, hπ⟩ := h
  obtain hj | ⟨ψ, hψ, hj⟩ := job?_move hm hi
  · exact ⟨π, hj, hπ⟩
  · cases π with
    | done r => cases hψ
    | waiting φ =>
      cases hψ
      obtain ⟨r, hr, ha⟩ := hπ.resume (γ := δ.gate) hβ
      refine ⟨.done r, ?_, ha⟩
      rw [hj, ← hr]
      rfl

theorem RunsAt.moves (h : δ.RunsAt t v β i) (hβ : ∀ φ, β.fault = some φ → φ.category? = none)
    {ms : List Move} (hms : .cancel i ∉ ms) : (δ.moves ms).RunsAt t v β i := by
  induction ms generalizing δ with
  | nil => exact h
  | cons m ms ih =>
    rw [List.mem_cons, not_or] at hms
    exact ih (h.move hβ (Ne.symm hms.1)) hms.2

theorem RunsAt.result (h : δ.RunsAt t v β i) {r : Except Fault Answer} (hr : δ.result? i = some r) :
    ∃ r', r = r'.map .table ∧ Answers v β r' := by
  obtain ⟨π, hi, hπ⟩ := h
  rw [result?, hi] at hr
  cases π with
  | waiting φ => cases hr
  | done r' =>
    cases hr
    exact ⟨r', rfl, hπ⟩

/-- A query that is due and cannot go on is over. -/
theorem RunsAt.isOver (h : δ.RunsAt t v β i) (hd : IsDue t v β δ.now)
    (hr : δ.isReady i = false) : δ.isOver i = true := by
  obtain ⟨π, hi, hπ⟩ := h
  cases π with
  | waiting φ =>
    have hφ : φ.isReady δ.gate = true := hπ.isReady_iff.mpr hd
    rw [isReady, hi] at hr
    simp only [part, JobPhase.isReady, hφ] at hr
    cases hr
  | done r => exact isOver_of_done hi

/-! ## Queries come to an end -/

/-- No opening is pending, and all jobs are callers'. -/
structure ServesCallers (δ : Desk) : Prop where
  opening : δ.gate.opening = none
  isServed {π : Working} : π ∈ δ.jobs → IsServed π
  closesNothing {π : Working} (φ : ClosePhase) : π ∈ δ.jobs → ¬ ClosesAt π φ

/-- A query that comes to a pool is one more caller. -/
theorem ServesCallers.take (h : δ.ServesCallers) {p : Nat} (hp : δ.gate.pool = some p)
    (ρ : Request) : (δ.take (.run ρ)).1.ServesCallers := by
  have hx : δ.gate.execute ρ = δ.gate.afterGetting ρ (.done (.ok p)) := by
    simp [execute, getPool, hp]
  have ha : Asks δ.gate (ofGate .running .table (δ.gate.execute ρ)) :=
    asks_running (hx ▸ δ.gate.aloof_afterGetting ρ _)
  refine ⟨ha.aloof.opening.trans h.opening, fun hπ ↦ ?_, fun φ hπ ↦ ?_⟩
  · rcases List.mem_append.mp hπ with hπ | hπ
    · exact h.isServed hπ
    · exact List.mem_singleton.mp hπ ▸ ha.isServed
  · rcases List.mem_append.mp hπ with hπ | hπ
    · exact h.closesNothing φ hπ
    · exact List.mem_singleton.mp hπ ▸ ha.closesAt φ

/-- What a desk does while it serves callers leaves it less to do. -/
theorem ServesCallers.exists_move (h : δ.ServesCallers) {ε : Desk} (hε : δ.step? = some ε) :
    ε.ServesCallers ∧ ε.work < δ.work ∧ ∃ m, ε = δ.move m ∧ ∀ i, m ≠ .cancel i := by
  obtain ⟨p, t, a, hp, -, rfl⟩ | ⟨φ, hφ, -, -⟩ | ⟨-, j, hj, rfl⟩ := step?_cases hε
  · exact ⟨⟨h.opening, h.isServed, h.closesNothing⟩,
      Nat.add_lt_add_left (World.acts_act (by simp [hp])) _, .act p, rfl, by simp⟩
  · rw [h.opening] at hφ
    cases hφ
  · have ho : δ.occur (.resume j) = δ.move (.resume j) := if_pos hj
    obtain ⟨ψ, hjob, hψ, hres⟩ := occur_resume hj
    have hm := List.mem_of_getElem? hjob
    have hc : ψ.closing? = none := Option.eq_none_iff_forall_ne_some.mpr fun φ hφ ↦
      h.closesNothing φ hm (closesAt_waiting.mpr hφ)
    have ha := asks_resume (γ := δ.gate) hc (h.isServed hm)
    refine ⟨?_, ?_, .resume j, ho, by simp⟩
    · rw [hres]
      refine ⟨ha.aloof.opening.trans h.opening, fun hπ ↦ ?_, fun φ hπ ↦ ?_⟩
      · rcases List.mem_or_eq_of_mem_set hπ with hπ | rfl
        · exact h.isServed hπ
        · exact ha.isServed
      · rcases List.mem_or_eq_of_mem_set hπ with hπ | rfl
        · exact h.closesNothing φ hπ
        · exact ha.closesAt φ
    · have hacts : (ψ.resume δ.gate).1.world.acts = δ.gate.world.acts := by
        rw [World.acts, ha.aloof.children, World.acts]
      rw [hres]
      exact work_put_lt hjob (rankOf_resume_lt hc (h.isServed hm) hψ) hacts

theorem RunsAt.exists_isOver (h : δ.RunsAt t v β i) (hs : δ.ServesCallers)
    (hβ : ∀ φ, β.fault = some φ → φ.category? = none) :
    ∃ n r, (δ.workUntil (·.isOver i) n).result? i = some (r.map .table) ∧ Answers v β r := by
  let I (δ : Desk) : Prop := δ.RunsAt t v β i ∧ δ.ServesCallers
  have hstep (δ ε : Desk) (h : I δ) (hε : δ.step? = some ε) : I ε ∧ ε.work < δ.work := by
    obtain ⟨hs, hlt, m, rfl, hm⟩ := h.2.exists_move hε
    exact ⟨⟨h.1.move hβ (hm i), hs⟩, hlt⟩
  have hadvance (δ : Desk) (u : Time) (h : I δ) : I (δ.advance u) :=
    ⟨h.1, h.2.opening, h.2.isServed, h.2.closesNothing⟩
  have hdue (δ : Desk) (h : I δ) (hi : δ.isOver i = false) : δ.due? ≠ none := by
    obtain ⟨⟨π, hπ, hr⟩, -⟩ := h
    cases π with
    | waiting φ => exact due?_ne_none_of_job hπ hr.due?_ne_none
    | done r => cases (isOver_of_done hπ).symm.trans hi
  obtain ⟨n, hn, hI⟩ := exists_workUntil (fun δ ε h _ hε ↦ hstep δ ε h hε)
    (fun δ u h _ _ _ ↦ ⟨hadvance δ u h, le_rfl⟩) (fun δ h hi _ ↦ hdue δ h hi)
    (show I δ from ⟨h, hs⟩)
  obtain ⟨r, hr⟩ := Option.isSome_iff_exists.mp hn
  obtain ⟨r, rfl, ha⟩ := hI.1.result hr
  exact ⟨n, r, hr, ha⟩

end Desk

/-- A query has come that can be run at once. -/
theorem runsAt_take {δ : Desk} {p : Nat} (hp : δ.gate.pool = some p) {ρ : Request} {v : Value}
    (hv : budgetOf δ.gate.settings ρ = .ok v) (hl : Lasts v) {vs : Option (List Value)}
    (hρ : paramsOf ρ.params = .ok vs)
    (hβ : ∀ φ, (δ.gate.database.replies.headD {}).fault = some φ → φ.category? = none) :
    (δ.take (.run ρ)).1.RunsAt δ.now v (δ.gate.database.replies.headD {}) δ.jobs.length := by
  have hx : δ.gate.execute ρ = δ.gate.run p ρ := by simp [execute, getPool, afterGetting, hp]
  refine ⟨(δ.gate.execute ρ).2, ?_, ?_⟩
  · change (δ.jobs ++ [_])[δ.jobs.length]? = _
    rw [List.getElem?_concat_length]
  · rw [hx]
    exact runsSince_run p hv hl.1 hl.2 hρ hβ

/-- A query comes to a gate that has its pool, with a budget that lasts.  Unless it is given up, it
is over when the driver is done with it or its budget is over, whatever else happens; and if nothing
but callers is at the gate then that moment comes.  It took too long if the budget was over first or
the driver said so, and of the driver's other faults those of a database are wrapped. -/
theorem answers_of_run {δ : Desk} {p : Nat} (hp : δ.gate.pool = some p) {ρ : Request} {v : Value}
    (hv : budgetOf δ.gate.settings ρ = .ok v) (hl : Lasts v) {vs : Option (List Value)}
    (hρ : paramsOf ρ.params = .ok vs)
    (hβ : ∀ φ, (δ.gate.database.replies.headD {}).fault = some φ → φ.category? = none) :
    let β := δ.gate.database.replies.headD {}
    let i := δ.jobs.length
    let ε := (δ.take (.run ρ)).1
    (∀ ms, .cancel i ∉ ms →
      (∀ r, (ε.moves ms).result? i = some r → ∃ r', r = r'.map .table ∧ Answers v β r') ∧
      (IsDue δ.now v β (ε.moves ms).now → (ε.moves ms).isReady i = false →
        (ε.moves ms).isOver i = true)) ∧
    (δ.ServesCallers →
      ∃ n r, (ε.workUntil (·.isOver i) n).result? i = some (r.map .table) ∧ Answers v β r) := by
  intro β i ε
  have h : ε.RunsAt δ.now v β i := runsAt_take hp hv hl hρ hβ
  exact ⟨fun ms hms ↦ ⟨fun r hr ↦ (h.moves hβ hms).result hr, (h.moves hβ hms).isOver⟩,
    fun hs ↦ h.exists_isOver (hs.take hp ρ) hβ⟩

/-- A gate that has its pool, and a driver that does `β` next. -/
def readyGate (σ : Settings) (β : Reply) : Gate :=
  { newGate σ [] with pools := [Pool.fresh], pool := some 0, database := { replies := [β] } }

/-- Thirty seconds. -/
def halfMinute : Value := .float ⟨0x403E000000000000⟩

/-- A query has thirty seconds unless something else is set. -/
theorem budgetOf_load : ∃ σ, Settings.load {} = .ok σ ∧
    budgetOf σ { text := "SELECT 1" } = .ok halfMinute := ⟨_, rfl, rfl⟩

/-- The driver needs ten seconds more than the query has. -/
theorem answers_of_run_slow :
    ∃ σ, Settings.load {} = .ok σ ∧
      let β : Reply := { delay := 40 * Time.second }
      let δ : Desk := ⟨readyGate σ β, []⟩
      δ.gate.pool = some 0 ∧ budgetOf δ.gate.settings { text := "SELECT 1" } = .ok halfMinute ∧
        Lasts halfMinute ∧ Elapses halfMinute β ∧
          ∃ n r, ((δ.take (.run { text := "SELECT 1" })).1.workUntil (·.isOver 0) n).result? 0 =
            some (r.map .table) ∧ TimedOut r := by
  obtain ⟨σ, hσ, hv⟩ := budgetOf_load
  refine ⟨σ, hσ, ?_⟩
  intro β δ
  have hl : Lasts halfMinute := ⟨rfl, rfl⟩
  have hρ : paramsOf .null = .ok none := rfl
  have he : Elapses halfMinute β := ⟨by decide, _, rfl, by decide +kernel⟩
  have hβ (φ : Fault) (hφ : β.fault = some φ) : φ.category? = none := by cases hφ
  have hs : δ.ServesCallers := ⟨rfl, by rintro π ⟨⟩, by rintro π φ ⟨⟩⟩
  obtain ⟨n, r, hr, ha⟩ := (answers_of_run (δ := δ) (p := 0) rfl hv hl hρ hβ).2 hs
  exact ⟨rfl, hv, hl, he, n, r, hr, ha.timedOut_iff.mpr ⟨⟨30000, rfl⟩, .inl he⟩⟩

/-- A query need not have taken long that is said to have taken too long. -/
theorem not_timedOut_iff_elapses :
    ¬ ∀ (δ : Desk) (p : Nat) (ρ : Request) (v : Value) (vs : Option (List Value)),
      δ.gate.pool = some p → budgetOf δ.gate.settings ρ = .ok v → Lasts v →
        paramsOf ρ.params = .ok vs →
          (∀ φ, (δ.gate.database.replies.headD {}).fault = some φ → φ.category? = none) →
            ∀ n r, ((δ.take (.run ρ)).1.workUntil (·.isOver δ.jobs.length) n).result?
                δ.jobs.length = some r →
              (TimedOut r ↔ Elapses v (δ.gate.database.replies.headD {})) := by
  intro h
  obtain ⟨σ, -, hv⟩ := budgetOf_load
  let β : Reply := { fault := some (.saying (.system .timeout) "gone") }
  let δ : Desk := ⟨readyGate σ β, []⟩
  have hl : Lasts halfMinute := ⟨rfl, rfl⟩
  have hρ : paramsOf .null = .ok none := rfl
  have hβ (φ : Fault) (hφ : β.fault = some φ) : φ.category? = none := by
    cases hφ
    rfl
  have hs : δ.ServesCallers := ⟨rfl, by rintro π ⟨⟩, by rintro π φ ⟨⟩⟩
  have hrun := runsAt_take (δ := δ) (p := 0) rfl hv hl hρ hβ
  obtain ⟨n, r, hr, ha⟩ := hrun.exists_isOver (hs.take (p := 0) rfl _) hβ
  have ht : TimedOut r := ha.timedOut_iff.mpr ⟨⟨30000, rfl⟩, .inr ⟨_, rfl, rfl⟩⟩
  obtain ⟨hd, -⟩ := (h δ 0 _ _ none rfl hv hl hρ hβ n _ hr).mp (timedOut_map.mpr ht)
  exact Int.lt_irrefl 0 hd

end Sluice.Server
