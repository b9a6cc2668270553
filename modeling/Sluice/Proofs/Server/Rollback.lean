import Sluice.Proofs.Gate.Rollback
import Sluice.Proofs.Server.Creation
import Sluice.Proofs.Server.Exclusion

/-!
# What a failed opening leaves behind

No closing is under way and no opening is pending; from then on callers come and give up, and nobody
closes the gate.  However often an opening fails, and wherever it does, the gate then is like a new
one: nothing is in use, each pool that was made was told to close, and every process has ended that
was launched meanwhile.  Whoever waits for the opening hears of the fault, which is the one with
which the proxy failed to start or says that the database cannot be reached (`rollsBack_of_occurs`).
-/

namespace Sluice.Gate

/-- A new gate where this one stands: all that was made or has ended is on record, and nothing is in
use. -/
def renew (γ : Gate) : Gate where
  world := γ.world
  settings := γ.settings
  database := γ.database
  pools := γ.pools
  opened := γ.opened
  stopwatch := γ.stopwatch

theorem eq_renew {γ : Gate} (hp : γ.pool = none) (hx : γ.proxy = none) (ho : γ.opening = none) :
    γ = γ.renew := by
  cases γ
  cases hp
  cases hx
  cases ho
  rfl

end Sluice.Gate

namespace Sluice.Server

open Proxy Gate

namespace Desk

/-- Nobody closes the gate. -/
def KeepsOpen : Occurrence → Prop
  | .take .close | .take (.shutdown _) => False
  | _ => True

/-- Nobody closes the gate, where the openings since `γ` have led to. -/
structure Opens (γ : Gate) (δ : Desk) : Prop where
  service : δ.InService True
  closesNothing : δ.ClosesNothing
  recovers : γ.Recovers δ.gate

variable {γ : Gate} {δ : Desk} {o : Occurrence}

theorem ClosesNothing.rests (h : δ.ClosesNothing) : δ.Rests :=
  fun _ π φ hi hπ ↦ absurd hπ (h π (List.mem_of_getElem? hi) φ)

theorem ClosesNothing.isPlain (h : δ.ClosesNothing) (ho : KeepsOpen o) : δ.IsPlain o := by
  cases o with
  | take d =>
    cases d with
    | shutdown grace => exact ho.elim
    | _ => trivial
  | giveUp i => exact fun π φ hi ↦ h π (List.mem_of_getElem? hi) φ
  | _ => trivial

namespace Opens

theorem isSimple (h : Opens γ δ) : δ.IsSimple :=
  ⟨h.service.weaken, fun {_ φ} hπ hφ ↦ absurd hφ (h.closesNothing _ hπ φ)⟩

/-- No stop of a closing is under way. -/
theorem isKept (h : Opens γ δ) : δ.gate.IsKept False fun _ _ ↦ False :=
  h.service.weaken.gate.mono fun _ _ ↦ False.elim

/-- Whatever happens, an opening begins or goes on, or they stand as they stood. -/
theorem occur_cases (h : Opens γ δ) (ho : KeepsOpen o) (hf : IsFaultless o) :
    (γ.Recovers (δ.occur o).gate ∧ (δ.occur o).gate.opened = δ.gate.opened) ∨
      δ.gate.pool = none ∧ ∃ μ, δ.gate.Attempts μ ∧ μ.Aloof (δ.occur o).gate := by
  have hr := h.recovers
  have hm := h.isSimple.moves (h.closesNothing.isPlain ho)
  generalize δ.occur o = ε at hm
  cases hm with
  | idle => exact .inl ⟨hr, rfl⟩
  | asks _ hi hψ ha => exact .inl ⟨hr.of_aloof ha.aloof, ha.aloof.opened⟩
  | @closing i φ hi hφ =>
    exact absurd (closesAt_waiting.mpr rfl) (h.closesNothing _ (List.mem_of_getElem? hi) φ)
  | @pool κ r ha =>
    have ha := ha.aloof
    cases hp : δ.gate.pool with
    | some p =>
      rw [getPool_of_pool hp] at ha
      exact .inl ⟨hr.of_aloof ha, ha.opened⟩
    | none =>
      cases hn : δ.gate.opening with
      | some φ =>
        rw [getPool_of_pending hp hn] at ha
        exact .inl ⟨hr.of_aloof ha, ha.opened⟩
      | none =>
        rw [getPool_of_idle hp hn] at ha
        exact .inr ⟨rfl, _, hr.heedful.attempts_beginOpening h.isKept hp hn, ha⟩
  | close => exact ho.elim
  | @proceed φ hφ hφr =>
    refine .inr ⟨h.service.gate.pool_eq_none hφ, _, ?_, .refl _⟩
    exact hr.heedful.attempts_resume h.isKept hφ hφr fun c ↦ hr.cause hφ
  | act p => exact .inl ⟨hr.act h.isKept p, rfl⟩
  | shift w β =>
    refine .inl ⟨{ hr with heedful := ?_ }, rfl⟩
    exact
      { heeds := fun hφ ↦ (hr.heedful.heeds hφ).of_eq rfl rfl
        answers := hf _
        pending := hr.heedful.pending }

theorem occur (h : Opens γ δ) (ho : KeepsOpen o) (hf : IsFaultless o) : Opens γ (δ.occur o) where
  service := h.service.occur fun _ _ _ ↦ h.closesNothing.rests
  closesNothing π hπ φ hφ := by
    have hm := h.isSimple.moves (h.closesNothing.isPlain ho)
    obtain ⟨j, hj⟩ := List.mem_iff_getElem?.mp hπ
    -- a closing that is under way was so before, it begins, or it goes on
    obtain hj | ⟨-, ⟨rfl, -⟩ | ⟨χ, -, hj, -⟩⟩ := hm.closing_cases hj hφ
    · exact h.closesNothing π (List.mem_of_getElem? hj) φ hφ
    · exact ho.elim
    · exact h.closesNothing _ (List.mem_of_getElem? hj) χ (closesAt_waiting.mpr rfl)
  recovers := by
    obtain ⟨hr, -⟩ | ⟨hp, μ, hμ, ha⟩ := h.occur_cases ho hf
    · exact hr
    · exact (h.recovers.attempt hp hμ).of_aloof ha

theorem occurs (h : Opens γ δ) {os : List Occurrence}
    (hos : ∀ o ∈ os, KeepsOpen o ∧ IsFaultless o) : Opens γ (δ.occurs os) := by
  induction os generalizing δ with
  | nil => exact h
  | cons o os ih =>
    obtain ⟨ho, hf⟩ := hos o List.mem_cons_self
    exact ih (h.occur ho hf) fun o ho ↦ hos o (List.mem_cons_of_mem _ ho)

end Opens

end Desk

/-! ## A failed opening -/

/-- What an opening that has failed with `φ` leaves behind at `δ`; before the openings the gate
stood at `γ`. -/
structure IsUndone (γ : Gate) (φ : Fault) (δ : Desk) : Prop where
  /-- The gate is a new one but for what is on record, -/
  renewed : δ.gate = δ.gate.renew
  /-- and whoever comes begins an opening at it. -/
  afresh : δ.gate.getPool =
    (δ.gate.renew.beginOpening, δ.gate.renew.beginOpening.join δ.gate.nextOpening)
  /-- Every pool that was made was told to close. -/
  told : δ.gate.closings + γ.pools.length = γ.closings + δ.gate.pools.length
  isSpent : δ.gate.IsSpent
  /-- Only what was let go of before the openings may still have to end. -/
  ended {p : Nat} : p < δ.gate.world.children.length →
    (p < γ.world.children.length → γ.world.IsHeld p) → (δ.gate.world.child p).isAlive = false
  /-- Whoever waits for the opening gets its fault, and that is all that happens. -/
  heard {i n : Nat} {κ : Caller} : δ.job? i = some (.waiting (κ.waitsFor n)) →
    n + 1 = δ.gate.opened.length → δ.occur (.resume i) = δ.put i (δ.gate, .done (.error φ))

/-- How a desk fares at which openings fail; before them the gate stood at `γ`. -/
structure RollsBack (γ : Gate) (δ : Desk) : Prop where
  /-- Whatever happens ends one opening at most.  None is pending then; and if it fails then with
  the fault of the start of the proxy, or else because the database cannot be reached. -/
  ends {o : Occurrence} : Desk.KeepsOpen o → Desk.IsFaultless o →
    (δ.occur o).gate.opened = δ.gate.opened ∨ ∃ r, (δ.occur o).gate.opened = δ.gate.opened ++ [r] ∧
      (δ.occur o).gate.opening = none ∧ ∀ φ, r = .error φ →
        δ.gate.startFault? = some φ ∨ δ.gate.startFault? = none ∧ IsConnectivity φ
  /-- Until another one begins everything is undone that a failed one did. -/
  undone {φ : Fault} : γ.opened.length < δ.gate.opened.length → δ.gate.opening = none →
    δ.gate.opened.getLast? = some (.error φ) → IsUndone γ φ δ

namespace Desk.Opens

variable {γ : Gate} {δ : Desk}

/-- The openings have come to an end with a fault. -/
theorem isUndone (h : Opens γ δ) (hγ : γ.opening = none)
    (hl : γ.opened.length < δ.gate.opened.length) (ho : δ.gate.opening = none) {φ : Fault}
    (he : δ.gate.opened.getLast? = some (.error φ)) : IsUndone γ φ δ := by
  obtain ⟨hp, hx⟩ := h.recovers.failed hl ho he
  have hnew := eq_renew hp hx ho
  refine
    { renewed := hnew
      afresh := by rw [← hnew]; exact getPool_of_idle hp ho
      told := ?_
      isSpent := h.service.gate.isSpent trivial ho hx
      ended := h.service.gate.isAlive_of_minds trivial h.recovers.minds ho hx
      heard := fun {i n κ} hi hn ↦ ?_ }
  · have hq : γ.pool = none := by
      cases hq : γ.pool with
      | none => rfl
      | some p =>
        rw [h.recovers.pool hq] at hp
        cases hp
    have hb := h.recovers.books
    simpa [atHand, hp, ho, hq, hγ] using hb
  · have hj : δ.gate.opened[n]? = some (.error φ) := by
      rwa [List.getLast?_eq_getElem?, ← hn, Nat.add_sub_cancel] at he
    have hr : (κ.waitsFor n).isReady δ.gate = true := by
      cases κ <;> simp [Caller.waitsFor, JobPhase.isReady, RunPhase.isReady, hj]
    rw [occur_resume_of_waiting hi hr, Caller.resume_waitsFor, Gate.join, hj]
    cases κ <;> rfl

theorem rollsBack (h : Opens γ δ) (hγ : γ.opening = none) : RollsBack γ δ where
  ends {o} ho hf := by
    obtain ⟨-, he⟩ | ⟨-, μ, hμ, ha⟩ := h.occur_cases ho hf
    · exact .inl he
    rw [ha.opened, ha.opening]
    obtain ⟨-, he, -⟩ | ⟨hn, r, he, -⟩ := hμ.advances
    · exact .inl he
    · refine .inr ⟨r, he, hn, ?_⟩
      rintro φ rfl
      exact hμ.reports.error he
  undone hl ho he := h.isUndone hγ hl ho he

end Desk.Opens

/-- However a gate was used before: once no closing is under way and no opening is pending,
everything that an opening did is undone when it fails, if nobody closes the gate meanwhile and
pools close without a fault.  So it is however many failed before, and wherever they did. -/
theorem rollsBack_of_occurs {γ : Gate} (hγ : IsNew γ) {os : List Occurrence}
    (hos : (Desk.mk γ []).Abides Desk.IsTimely os) {os' : List Occurrence} :
    let δ := (Desk.mk γ []).occurs os
    δ.ClosesNothing → δ.gate.opening = none → (∀ o ∈ δ.gate.database.closings, o.fault = none) →
      (∀ o ∈ os', Desk.KeepsOpen o ∧ Desk.IsFaultless o) → RollsBack δ.gate (δ.occurs os') := by
  intro δ hc ho hf hos'
  have hδ : δ.InService True :=
    hos.induction (fun _ _ h ho ↦ h.occur fun _ ↦ ho) hγ.inService
  have h : Desk.Opens δ.gate δ := ⟨hδ, hc, .refl ho hf⟩
  exact (h.occurs hos').rollsBack ho

/-- The first connection is refused, and the proxy is stopped again; whoever comes next finds that
it cannot be launched. -/
theorem rollsBack_of_occurs_twice :
    ∃ σ, Settings.load proxySettings = .ok σ ∧
      let γ := { newGate σ [{ listens := some 0 },
          { refusal := some (.saying (.system .notFound) "gone") }] with
        database := { pings := [{ fault := some (.saying (.database .operational) "refused") }] } }
      let δ := (Desk.mk γ []).occurs
        [.take (.pool .connect), .act 0, .proceed, .take (.pool .connect)]
      RollsBack γ δ ∧ δ.gate.opening.isNone = true ∧
        δ.gate.opened.map (fun r ↦ match r with | .ok _ => "" | .error φ => φ.message) =
          ["Failed to connect to MySQL: refused", "Failed to launch Cloud SQL Proxy: gone"] ∧
        δ.gate.world.children.map Child.isAlive = [false] := by
  refine ⟨_, rfl, ?_, by decide +kernel, by decide +kernel, by decide +kernel⟩
  refine @rollsBack_of_occurs _ ⟨rfl, rfl, rfl, rfl, rfl⟩ [] trivial _ ?_ rfl ?_ ?_
  · rintro π ⟨⟩
  · rintro o ⟨⟩
  · simp [Desk.KeepsOpen, Desk.IsFaultless]

end Sluice.Server
