import Mathlib.Data.Prod.Lex
import Sluice.Proofs.Gate.Waiting
import Sluice.Proofs.Server.Completion

/-!
# A closing that nobody disturbs ends

A desk works by itself until nothing can be done, and then waits for the next moment at which
something is due (`Desk.step?_advance_ne_none`).  Each thing that it does leaves less to do
(`Desk.Closes.lessens`), and as long as a closing has not ended there is something to wait for
(`Desk.Closes.due?_ne_none`), unless the pending opening is stuck.  So the closing ends if and only
if that is not so (`Desk.Closes.exists_isOver_iff`).
-/

namespace Sluice.Server

open Proxy Gate

variable {b : Prop} {t : Time} {γ₀ : Gate} {i : Nat} {δ ε : Desk} {o : Occurrence}

/-! ## What a desk does by itself -/

theorem JobPhase.isReady_of_due? {γ : Gate} {ψ : JobPhase} (h : ψ.due? = some t) (ht : t ≤ γ.now) :
    ψ.isReady γ = true := by
  cases ψ with
  | starting s φ => exact StartPhase.isReady_of_due? h ht
  | stopping s φ => exact StopPhase.isReady_of_due? h ht
  | checking α =>
    cases h
    simp [isReady, ht]
  | connecting n => cases h
  | running φ => exact RunPhase.isReady_of_due? h ht
  | closing φ => exact ClosePhase.isReady_of_due? h ht
  | shuttingDown φ => exact ShutdownPhase.isReady_of_due? h ht
  | calling φ | conversing ν φ | visiting ν φ => exact RunPhase.isReady_of_due? (φ := φ.run) h ht

namespace Desk

theorem step?_eq_none_iff : δ.step? = none ↔
    δ.gate.world.act? = none ∧ δ.gate.resumeOpening? = none ∧ δ.isQuiet = true := by
  unfold step? isQuiet
  cases δ.gate.world.act? with
  | some w => simp
  | none =>
    cases δ.gate.resumeOpening? with
    | some γ => simp
    | none => simp

/-- A desk does one thing by an occurrence.  Whatever is not an act comes when no process acts. -/
theorem step?_cases (h : δ.step? = some ε) :
    (∃ p t a, (δ.gate.world.child p).nextAct? = some (t, a) ∧ t ≤ δ.now ∧ ε = δ.occur (.act p)) ∨
      (∃ φ, δ.gate.opening = some φ ∧ φ.isReady δ.gate.world = true ∧ ε = δ.occur .proceed) ∨
      δ.gate.world.act? = none ∧ ∃ j, δ.isReady j = true ∧ ε = δ.occur (.resume j) := by
  unfold step? at h
  split at h
  next w hw =>
    cases h
    obtain ⟨t, p, hp, ht, rfl⟩ := act?_eq_some_iff.mp hw
    obtain ⟨a, ha⟩ := World.exists_nextAct? hp
    exact .inl ⟨p, t, a, ha, ht, rfl⟩
  next hn =>
    split at h
    next γ hγ =>
      cases h
      obtain ⟨φ, hφ, hr, rfl⟩ := resumeOpening?_eq_some_iff.mp hγ
      exact .inr (.inl ⟨φ, hφ, hr, by simp [occur, hγ]⟩)
    next =>
      obtain ⟨j, hj, rfl⟩ := Option.map_eq_some_iff.mp h
      have hr := isReady_of_nextJob? hj
      exact .inr (.inr ⟨hn, j, hr, (if_pos hr).symm⟩)

/-- What can be done at some moment is done when that has come. -/
theorem step?_advance_ne_none (h : δ.due? = some t) : (δ.advance t).step? ≠ none := by
  intro hn
  obtain ⟨ha, ho, hq⟩ := step?_eq_none_iff.mp hn
  have ht : t ≤ (δ.advance t).gate.now := Int.le_max_right _ _
  rcases List.mem_cons.mp (Time.mem_of_earliest h) with hw | hm
  · obtain ⟨⟨u, p⟩, hp, rfl⟩ := Option.map_eq_some_iff.mp hw.symm
    have hs : (δ.advance u).gate.world.act? = some ((δ.advance u).gate.world.act p) :=
      act?_eq_some_iff.mpr ⟨u, p, hp, ht, rfl⟩
    rw [ha] at hs
    cases hs
  · rcases List.mem_cons.mp hm with hφ | hj
    · obtain ⟨φ, hφ, hd⟩ := Option.bind_eq_some_iff.mp hφ.symm
      have hs : (δ.advance t).gate.resumeOpening? = some (φ.resume (δ.advance t).gate) :=
        resumeOpening?_eq_some_iff.mpr ⟨φ, hφ, OpenPhase.isReady_of_due? hd ht, rfl⟩
      rw [ho] at hs
      cases hs
    · obtain ⟨π, hπ, hd⟩ := List.mem_map.mp hj
      obtain ⟨j, hj⟩ := List.mem_iff_getElem?.mp hπ
      have hr := isReady_eq_false_of_isQuiet hq j
      cases π with
      | done ρ => cases hd
      | waiting ψ =>
        have hψ : (δ.advance t).job? j = some (.waiting ψ) := hj
        rw [isReady, hψ] at hr
        exact absurd (JobPhase.isReady_of_due? hd ht) (by simp [hr])

/-! ### What there is to wait for -/

/-- The next moment is no later than any at which something is due. -/
theorem exists_due?
    (h : some t ∈ δ.gate.world.due? :: δ.gate.opening.bind (·.due?) :: δ.jobs.map dueOf) :
    ∃ u, δ.due? = some u ∧ u ≤ t := Time.exists_earliest h

theorem exists_due?_of_job {j : Nat} {ψ : JobPhase} (hj : δ.job? j = some (.waiting ψ))
    (hψ : ψ.due? = some t) : ∃ u, δ.due? = some u ∧ u ≤ t := by
  have hm : some t ∈ δ.jobs.map dueOf := List.mem_map.mpr ⟨_, List.mem_of_getElem? hj, hψ⟩
  exact exists_due? (List.mem_cons_of_mem _ (List.mem_cons_of_mem _ hm))

theorem due?_ne_none_of_world (hw : δ.gate.world.due? ≠ none) : δ.due? ≠ none := by
  obtain ⟨t, ht⟩ := Option.ne_none_iff_exists'.mp hw
  obtain ⟨u, hu, -⟩ := exists_due? (δ := δ) (t := t) (by simp [ht])
  simp [hu]

theorem due?_ne_none_of_opening {φ : OpenPhase} (ho : δ.gate.opening = some φ)
    (hφ : φ.due? ≠ none) : δ.due? ≠ none := by
  obtain ⟨t, ht⟩ := Option.ne_none_iff_exists'.mp hφ
  obtain ⟨u, hu, -⟩ := exists_due? (δ := δ) (t := t) (by simp [ho, ht])
  simp [hu]

theorem due?_ne_none_of_job {j : Nat} {ψ : JobPhase} (hj : δ.job? j = some (.waiting ψ))
    (hψ : ψ.due? ≠ none) : δ.due? ≠ none := by
  obtain ⟨t, ht⟩ := Option.ne_none_iff_exists'.mp hψ
  obtain ⟨u, hu, -⟩ := exists_due?_of_job hj ht
  simp [hu]

/-! ### Work that is done -/

theorem advance_eq_occur (δ : Desk) (t : Time) :
    δ.advance t = δ.occur (.shift { δ.gate.world with now := max δ.now t } δ.gate.database) := rfl

/-- A desk comes to what it works for if something is kept up, each thing that it does leaves less
to do, and there is a moment to wait for whenever nothing can be done. -/
theorem exists_workUntil {α : Type} [Preorder α] [WellFoundedLT α] {I : Desk → Prop}
    {m : Desk → α} {enough : Desk → Bool}
    (hstep : ∀ δ ε, I δ → enough δ = false → δ.step? = some ε → I ε ∧ m ε < m δ)
    (hadvance : ∀ δ t, I δ → enough δ = false → δ.step? = none → δ.due? = some t →
      I (δ.advance t) ∧ m (δ.advance t) ≤ m δ)
    (hdue : ∀ δ, I δ → enough δ = false → δ.step? = none → δ.due? ≠ none) (hI : I δ) :
    ∃ n, enough (δ.workUntil enough n) = true ∧ I (δ.workUntil enough n) := by
  generalize hm : m δ = μ
  induction μ using WellFoundedLT.induction generalizing δ with
  | _ μ ih =>
    subst hm
    cases he : enough δ with
    | true => exact ⟨0, he, hI⟩
    | false =>
      cases hε : δ.step? with
      | some ε =>
        obtain ⟨hIε, hlt⟩ := hstep δ ε hI he hε
        obtain ⟨n, hn⟩ := ih _ hlt hIε rfl
        exact ⟨n + 1, by simpa [workUntil, he, hε] using hn⟩
      | none =>
        obtain ⟨t, ht⟩ := Option.ne_none_iff_exists'.mp (hdue δ hI he hε)
        obtain ⟨hIa, hle⟩ := hadvance δ t hI he hε ht
        cases ha : enough (δ.advance t) with
        | true => exact ⟨1, by simpa [workUntil, he, hε, ht] using ⟨ha, hIa⟩⟩
        | false =>
          -- some time has passed, and one thing is done
          obtain ⟨ε, hε'⟩ := Option.ne_none_iff_exists'.mp (step?_advance_ne_none ht)
          obtain ⟨hIε, hlt⟩ := hstep _ ε hIa ha hε'
          obtain ⟨n, hn⟩ := ih _ (hlt.trans_le hle) hIε rfl
          exact ⟨n + 2, by simpa [workUntil, he, hε, ht, ha, hε'] using hn⟩

end Desk

/-! ## How far jobs still have to go -/

/-- The number of waits that a query may still come to. -/
def RunPhase.rank : RunPhase → Nat
  | .joining .. => 2
  | .running .. => 1

/-- The number of waits that a job may still come to, if it is a caller's or a closing. -/
def JobPhase.rank : JobPhase → Nat
  | connecting _ => 1
  | running φ => RunPhase.rank φ
  | closing φ => φ.rank
  | _ => 0

def rankOf : Working → Nat
  | .waiting ψ => ψ.rank
  | .done _ => 0

/-- A query that has the pool comes to one wait at most. -/
theorem rankOf_run (γ : Gate) (p : Nat) (ρ : Request) :
    rankOf (ofGate .running .table (γ.run p ρ)).2 ≤ 1 := by
  have hd (δ : Gate) (r : Except Fault Table) :
      rankOf (ofGate .running .table (δ, .done r)).2 ≤ 1 := Nat.zero_le 1
  unfold run
  split
  · exact hd _ _
  · split
    · exact hd _ _
    · split
      · exact hd _ _
      · dsimp only
        split
        · exact hd _ _
        · split
          · exact hd _ _
          · exact Nat.le_refl 1

/-- A caller that goes on in time comes closer to its end. -/
theorem rankOf_resume_lt {γ : Gate} {ψ : JobPhase} (h : ψ.closing? = none)
    (hs : IsServed (.waiting ψ)) (hr : ψ.isReady γ = true) :
    rankOf (ψ.resume γ).2 < ψ.rank := by
  have hjoin {n : Nat} (hn : (γ.opened[n]?).isSome = true) : ∃ r, γ.join n = .done r := by
    obtain ⟨r, hr⟩ := Option.isSome_iff_exists.mp hn
    exact ⟨r, by rw [join, hr]⟩
  cases ψ with
  | connecting n =>
    obtain ⟨r, hr⟩ := hjoin hr
    change rankOf (part .connecting (fun _ ↦ .truth true) (γ.join n)) < 1
    rw [hr]
    exact Nat.one_pos
  | running φ =>
    cases φ with
    | joining n ρ =>
      obtain ⟨r, hr⟩ := hjoin hr
      change rankOf (ofGate .running .table (γ.afterGetting ρ (γ.join n))).2 < 2
      rw [hr]
      cases r with
      | error f => exact Nat.two_pos
      | ok p => exact Nat.lt_succ_of_le (rankOf_run γ p ρ)
    | running p t d budget reply =>
      change rankOf (ofGate .running .table (if RunPhase.isOverrun t d then _ else _)).2 < 1
      split <;> exact Nat.one_pos
  | closing φ => cases h
  | shuttingDown φ => cases φ <;> cases h
  | _ => exact hs.elim

/-! ## What is left to do -/

namespace Desk

/-- What jobs and processes still have to do. -/
def work (δ : Desk) : Nat := (δ.jobs.map rankOf).sum + δ.gate.world.acts

/-- What is left to do; the opening counts first. -/
def rest (δ : Desk) : ℕ ×ₗ ℕ ×ₗ ℕ :=
  toLex (δ.gate.opening.elim 0 OpenPhase.stage,
    toLex (δ.gate.opening.elim 0 OpenPhase.fuel, δ.work))

theorem rest_lt_of_work (ho : ε.gate.opening = δ.gate.opening) (hw : ε.work < δ.work) :
    ε.rest < δ.rest := by
  rw [rest, ho, rest, Prod.Lex.toLex_lt_toLex]
  exact .inr ⟨rfl, Prod.Lex.toLex_lt_toLex.mpr (.inr ⟨rfl, hw⟩)⟩

theorem rest_lt_of_descends {φ : OpenPhase} (hφ : δ.gate.opening = some φ)
    (h : ∀ ψ, ε.gate.opening = some ψ → φ.Descends ψ) : ε.rest < δ.rest := by
  rw [rest, rest, hφ, Prod.Lex.toLex_lt_toLex]
  cases hψ : ε.gate.opening with
  | none => exact .inl φ.stage_pos
  | some ψ => exact (h ψ hψ).imp_right (And.imp_right fun hf ↦ Prod.Lex.toLex_lt_toLex.mpr (.inl hf))

theorem work_put_lt {j : Nat} {π : Working} {r : Gate × Working} (hj : δ.job? j = some π)
    (hr : rankOf r.2 < rankOf π) (ha : r.1.world.acts = δ.gate.world.acts) :
    (δ.put j r).work < δ.work := by
  have hs := sum_map_set_lt (f := rankOf) hj hr
  simp only [work, put, ha]
  omega

namespace Closes

/-- A job that goes on leaves less to do. -/
theorem rest_resume_lt (h : Closes b γ₀ i δ) {j : Nat} (hr : δ.isReady j = true) :
    (δ.occur (.resume j)).rest < δ.rest := by
  obtain ⟨ψ, hj, hψ, hocc⟩ := occur_resume hr
  rw [hocc]
  have hm := List.mem_of_getElem? hj
  cases hc : ψ.closing? with
  | none =>
    have ha := (asks_resume (γ := δ.gate) hc (h.service.jobs hm)).aloof
    have hacts : (ψ.resume δ.gate).1.world.acts = δ.gate.world.acts := by
      rw [World.acts, ha.children, World.acts]
    exact rest_lt_of_work ha.opening
      (work_put_lt hj (rankOf_resume_lt hc (h.service.jobs hm) hψ) hacts)
  | some φ =>
    cases h.isSimple.plain hm (closesAt_waiting.mpr hc)
    have hw := φ.withdraws_resume δ.gate
    have hg := h.goesOn hj hψ
    have hrank : rankOf (ofGate .closing (fun _ ↦ .nothing) (φ.resume δ.gate)).2 < φ.rank := by
      cases hπ : (φ.resume δ.gate).2 with
      | waiting χ =>
        simp only [ofGate, hπ]
        exact Nat.lt_of_le_of_lt (hg.rank hπ) (Nat.sub_one_lt_of_lt φ.rank_pos)
      | done ρ =>
        simp only [ofGate, hπ]
        exact φ.rank_pos
    exact rest_lt_of_work hw.opening
      (work_put_lt hj hrank (World.acts_of_signalled hw.children fun _ ↦ hw.signalled))

theorem isFatal_resume (h : Closes b γ₀ i δ) (hf : δ.gate.world.IsFatal) (j : Nat) :
    (δ.occur (.resume j)).gate.world.IsFatal := by
  have hm := h.isSimple.moves (o := .resume j) trivial
  generalize δ.occur (.resume j) = ε at hm
  cases hm with
  | idle => exact hf
  | asks _ hj hψ hr => exact hf.of_tends hr.aloof.tends
  | closing hj hφ => exact hf.of_tends ((h.service.isKept_adds hj rfl).tends_resume hφ)

/-- Whatever the desk does by itself leaves the closing alone, and leaves less to do. -/
theorem lessens (h : Closes b γ₀ i δ) (hf : δ.gate.world.IsFatal) (hε : δ.step? = some ε) :
    ∃ o, LeavesAlone i o ∧ ε = δ.occur o ∧ ε.gate.world.IsFatal ∧ ε.rest < δ.rest := by
  obtain ⟨p, t, a, hp, -, rfl⟩ | ⟨φ, hφ, hr, rfl⟩ | ⟨-, j, hj, rfl⟩ := step?_cases hε
  · refine ⟨.act p, trivial, rfl, hf.act p, rest_lt_of_work rfl ?_⟩
    exact Nat.add_lt_add_left (World.acts_act (by simp [hp])) _
  · have hc := h.service.gate.carries_resume hφ hr
    have ho : δ.occur .proceed = { δ with gate := φ.resume δ.gate } := by
      simp [Desk.occur, resumeOpening?_eq_some_iff.mpr ⟨φ, hφ, hr, rfl⟩]
    rw [ho]
    exact ⟨.proceed, trivial, ho.symm, hf.of_tends hc.tends, rest_lt_of_descends hφ fun _ ↦ hc.descends⟩
  · exact ⟨.resume j, trivial, rfl, h.isFatal_resume hf j, h.rest_resume_lt hj⟩

/-! ## What there is to wait for -/

/-- A closing that waits while nothing can be done waits for some moment, unless the pending opening
is stuck. -/
theorem due?_ne_none (h : Closes b γ₀ i δ) (hf : δ.gate.world.IsFatal) (hs : ¬ δ.gate.IsStuck)
    (hi : δ.isOver i = false) (hn : δ.step? = none) : δ.due? ≠ none := by
  obtain ⟨-, ho, hq⟩ := step?_eq_none_iff.mp hn
  obtain ⟨π, hπ, hc⟩ := h.job
  cases π with
  | done ρ => cases (isOver_of_done hπ).symm.trans hi
  | waiting φ =>
    obtain ⟨hstands, hsuits⟩ := hc
    have hr : φ.isReady δ.gate = false := by
      have hr := isReady_eq_false_of_isQuiet hq i
      rwa [isReady, hπ] at hr
    cases φ with
    | awaitingPool t f => exact due?_ne_none_of_job hπ (by simp [JobPhase.due?, ClosePhase.due?])
    | stoppingProxy s φ =>
      have hS : δ.Stopping s φ := ⟨_, List.mem_of_getElem? hπ, closesAt_waiting.mpr rfl⟩
      have hk := h.service.gate.custody.order (h.service.gate.custody.known (.inl hS))
      obtain hd | hd := StopPhase.due_or_due hf hk hsuits hr
      · exact due?_ne_none_of_job hπ hd
      · exact due?_ne_none_of_world hd
    | awaitingOpening n =>
      -- what it waits for is pending, and cannot go on at once
      have ha := h.service.awaits (List.mem_of_getElem? hπ) (closesAt_waiting.mpr rfl)
      have he : δ.gate.opened[n]? = none := by simpa [ClosePhase.isReady] using hr
      obtain ⟨φ, hφ⟩ := Option.isSome_iff_exists.mp (ha he).2
      have hφr : φ.isReady δ.gate.world = false := by
        simpa [resumeOpening?, hφ] using ho
      obtain hd | hd := h.service.gate.due_or_due hf hs hφ hφr
      · exact due?_ne_none_of_opening hφ hd
      · exact due?_ne_none_of_world hd

/-! ## Stuck openings -/

/-- An opening that is stuck stays so, and none gets stuck. -/
theorem isStuck_occur (h : Closes b γ₀ i δ) (ho : LeavesAlone i o) :
    (δ.occur o).gate.IsStuck ↔ δ.gate.IsStuck := by
  have hm := h.isSimple.moves (h.isPlain ho)
  generalize δ.occur o = ε at hm
  cases hm with
  | idle => exact Iff.rfl
  | asks _ hj hψ hr => exact isStuck_of_eq hr.aloof.opening hr.aloof.children hr.aloof.supervisors
  | @closing j φ hj hφ =>
    have hn : δ.gate.opening = none := by
      obtain ⟨-, hst, -⟩ := h.stands hj
      by_contra hp
      have hp := Option.ne_none_iff_isSome.mp hp
      by_cases hw : ∃ n, φ = .awaitingOpening n
      · obtain ⟨n, rfl⟩ := hw
        have hl := hst.expects rfl hp
        simp [ClosePhase.isReady, ← hl] at hφ
      · simp [hst.idle fun n hn ↦ hw ⟨n, hn⟩] at hp
    have hw : (φ.resume δ.gate).1.opening = none := (φ.withdraws_resume δ.gate).opening.trans hn
    exact iff_of_false (not_isStuck_of_opening hw) (not_isStuck_of_opening hn)
  | pool κ => exact ho.elim
  | close => exact ho.elim
  | proceed hφ hr =>
    refine iff_of_false (h.service.gate.carries_resume hφ hr).not_isStuck fun hs ↦ ?_
    simp [hs.isReady_eq_false hφ] at hr
  | act p => exact h.service.gate.isStuck_act p
  | shift w β => exact isStuck_of_eq rfl rfl rfl

theorem isStuck_occurs (h : Closes b γ₀ i δ) {os : List Occurrence}
    (hos : ∀ o ∈ os, LeavesAlone i o) : (δ.occurs os).gate.IsStuck ↔ δ.gate.IsStuck := by
  induction os generalizing δ with
  | nil => exact Iff.rfl
  | cons o os ih =>
    have ho := hos o List.mem_cons_self
    exact (ih (h.occur ho) fun o ho ↦ hos o (List.mem_cons_of_mem _ ho)).trans (h.isStuck_occur ho)

/-- A closing that waits for a stuck opening does not end. -/
theorem isOver_eq_false (h : Closes b γ₀ i δ) (hs : δ.gate.IsStuck) : δ.isOver i = false := by
  obtain ⟨π, hπ, hc⟩ := h.job
  obtain φ | f | u := π
  · exact isOver_of_waiting hπ
  · exact absurd hs (not_isStuck_of_opening hc.1)
  · exact absurd hs (not_isStuck_of_opening hc.1)

/-! ## The closing ends -/

/-- Time passes. -/
theorem leavesAlone_advance (h : Closes b γ₀ i δ) (t : Time) :
    LeavesAlone i (.shift { δ.gate.world with now := max δ.now t } δ.gate.database) := h.faultless

/-- What a desk does of itself leaves the closing alone. -/
theorem exists_occurs_workUntil (h : Closes b γ₀ i δ) (enough : Desk → Bool) (n : Nat) :
    ∃ os, (∀ o ∈ os, LeavesAlone i o) ∧ δ.workUntil enough n = δ.occurs os := by
  induction n generalizing δ with
  | zero => exact ⟨[], by simp, rfl⟩
  | succ n ih =>
    have hnext {o : Occurrence} (ho : LeavesAlone i o) :
        ∃ os, (∀ o ∈ os, LeavesAlone i o) ∧
          (δ.occur o).workUntil enough n = δ.occurs os := by
      obtain ⟨os, hos, he⟩ := ih (h.occur ho)
      exact ⟨o :: os, List.forall_mem_cons.mpr ⟨ho, hos⟩, he⟩
    unfold workUntil
    split
    · exact ⟨[], by simp, rfl⟩
    · split
      next ε hε =>
        obtain ⟨p, -, -, -, -, rfl⟩ | ⟨φ, -, -, rfl⟩ | ⟨-, j, -, rfl⟩ := step?_cases hε
        · exact hnext (o := .act p) trivial
        · exact hnext (o := .proceed) trivial
        · exact hnext (o := .resume j) trivial
      next =>
        split
        next t _ =>
          rw [advance_eq_occur]
          exact hnext (h.leavesAlone_advance t)
        next => exact ⟨[], by simp, rfl⟩

/-- If the pending opening is not stuck then the closing ends. -/
theorem exists_isOver (h : Closes b γ₀ i δ) (hf : δ.gate.world.IsFatal) (hs : ¬ δ.gate.IsStuck) :
    ∃ n, (δ.workUntil (·.isOver i) n).isOver i = true := by
  let I (δ : Desk) : Prop := Closes b γ₀ i δ ∧ δ.gate.world.IsFatal ∧ ¬ δ.gate.IsStuck
  have hstep (δ ε : Desk) (h : I δ) (hε : δ.step? = some ε) : I ε ∧ ε.rest < δ.rest := by
    obtain ⟨h, hf, hs⟩ := h
    obtain ⟨o, ho, rfl, hfε, hlt⟩ := h.lessens hf hε
    exact ⟨⟨h.occur ho, hfε, mt (h.isStuck_occur ho).mp hs⟩, hlt⟩
  have hadvance (δ : Desk) (t : Time) (h : I δ) : I (δ.advance t) := by
    obtain ⟨h, hf, hs⟩ := h
    have ha := h.leavesAlone_advance t
    exact ⟨h.occur ha, ⟨hf.isMortal, hf.isDoomed⟩, mt (h.isStuck_occur ha).mp hs⟩
  have hdue (δ : Desk) (h : I δ) (hi : δ.isOver i = false) (hn : δ.step? = none) :
      δ.due? ≠ none := h.1.due?_ne_none h.2.1 h.2.2 hi hn
  obtain ⟨n, hn, -⟩ := exists_workUntil (fun δ ε h _ hε ↦ hstep δ ε h hε)
    (fun δ t h _ _ _ ↦ ⟨hadvance δ t h, le_rfl⟩) hdue (show I δ from ⟨h, hf, hs⟩)
  exact ⟨n, hn⟩

theorem exists_isOver_iff (h : Closes b γ₀ i δ) (hf : δ.gate.world.IsFatal) :
    (∃ n, (δ.workUntil (·.isOver i) n).isOver i = true) ↔ ¬ δ.gate.IsStuck := by
  refine ⟨fun ⟨n, hn⟩ hs ↦ ?_, h.exists_isOver hf⟩
  obtain ⟨os, hos, he⟩ := h.exists_occurs_workUntil (·.isOver i) n
  rw [he, (h.occurs hos).isOver_eq_false ((h.isStuck_occurs hos).mpr hs)] at hn
  cases hn

end Closes

end Desk

end Sluice.Server
