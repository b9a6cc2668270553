import Sluice.Gate.Close
import Sluice.Proofs.Proxy.Custody
import Sluice.Proofs.Proxy.Ending

/-!
# Custody of the proxy

The supervisor that a gate has in hand is the one that its opening starts, or else the one in use
(`Gate.inHand`).  Many closings may stop supervisors at the same time (`Gate.IsKept`); as long as
nobody comes at the very moment at which a process ends, that one alone may hold a process.

Openings and closings keep this up, whether they go on or are given up, and so does all that happens
beside them.  A closing that goes on does so in time.
-/

namespace Sluice.Gate

open Proxy

/-- The supervisor that a gate has in hand. -/
def inHand (γ : Gate) : Option Nat :=
  match γ.opening with
  | some (.starting s _) => some s
  | _ => γ.proxy

/-- A failed opening stops the supervisor `s`. -/
def Unwinds (γ : Gate) (s : Nat) (φ : StopPhase) : Prop :=
  ∃ cause, γ.opening = some (.unwindingProxy s φ cause)

/-- What holds of a gate; `S` tells which stops of closings are under way.  If `b` holds then the
supervisor in hand alone may hold a process. -/
structure IsKept (b : Prop) (γ : Gate) (S : Nat → StopPhase → Prop) : Prop where
  custody : γ.world.Custody b γ.inHand fun s φ ↦ S s φ ∨ γ.Unwinds s φ
  /-- Nobody else knows a supervisor while it is started. -/
  starting {s : Nat} {φ : StartPhase} : γ.opening = some (.starting s φ) →
    γ.proxy = none ∧ φ.Fits γ.world s ∧ ∀ ψ, ¬ S s ψ
  unwinding {s t : Nat} {φ : StopPhase} : γ.Unwinds s φ → γ.proxy = some t → t = s
  settled {p : Nat} : γ.pool = some p → γ.opening = none

variable {b : Prop} {γ δ : Gate} {s : Nat} {w v : World} {S T : Nat → StopPhase → Prop}

/-- Unless a start is under way the supervisor in hand is the one in use. -/
theorem inHand_eq_proxy (h : ∀ s φ, γ.opening ≠ some (.starting s φ)) : γ.inHand = γ.proxy := by
  unfold inHand
  split
  next s φ hs => exact absurd hs (h s φ)
  next => rfl

/-- With none in use, the supervisor in hand is being started. -/
theorem exists_starting_of_inHand (hx : γ.proxy = none) (hs : γ.inHand = some s) :
    ∃ φ, γ.opening = some (.starting s φ) := by
  unfold inHand at hs
  split at hs
  next t φ ho =>
    cases hs
    exact ⟨φ, ho⟩
  next =>
    rw [hx] at hs
    cases hs

namespace IsKept

/-- While a supervisor is started none is in use. -/
theorem opening_ne_starting (h : γ.IsKept b S) {t : Nat} (ht : γ.proxy = some t) (s : Nat)
    (φ : StartPhase) : γ.opening ≠ some (.starting s φ) := by
  intro ho
  rw [(h.starting ho).1] at ht
  cases ht

/-- The supervisor in use is in hand. -/
theorem inHand_of_proxy (h : γ.IsKept b S) (hs : γ.proxy = some s) : γ.inHand = some s :=
  (inHand_eq_proxy (h.opening_ne_starting hs)).trans hs

/-- More stops may be counted as under way. -/
theorem mono (h : γ.IsKept b S) (hT : ∀ s φ, T s φ → S s φ) : γ.IsKept b T :=
  { h with
    custody := h.custody.mono fun _ _ ↦ Or.imp_left (hT _ _)
    starting := fun ho ↦
      ⟨(h.starting ho).1, (h.starting ho).2.1, fun ψ hψ ↦ (h.starting ho).2.2 ψ (hT _ _ hψ)⟩ }

/-- Neither processes and supervisors nor the opening have changed. -/
theorem of_eq (h : γ.IsKept b S) (hc : δ.world.children = γ.world.children)
    (hs : δ.world.supervisors = γ.world.supervisors) (hx : δ.proxy = γ.proxy)
    (ho : δ.opening = γ.opening) (hp : ∀ p, δ.pool = some p → γ.pool = some p) : δ.IsKept b S where
  custody := by
    have := h.custody.of_eq hc hs
    simpa only [inHand, Unwinds, hx, ho] using this
  starting hφ := by
    obtain ⟨h1, h2, h3⟩ := h.starting (ho ▸ hφ)
    exact ⟨hx.trans h1, h2.of_alike (.of_eq hc hs), h3⟩
  unwinding {s t φ} hu ht := h.unwinding (φ := φ) (by rwa [Unwinds, ← ho]) (hx ▸ ht)
  settled hq := ho.trans (h.settled (hp _ hq))

/-- A supervisor works that is not being started. -/
theorem withWorld (h : γ.IsKept b S)
    (hv : v.Custody b γ.inHand fun s φ ↦ S s φ ∨ γ.Unwinds s φ) (hw : γ.world.Works s v)
    (hs : ∀ φ, γ.opening ≠ some (.starting s φ)) : { γ with world := v }.IsKept b S :=
  { h with
    custody := hv
    starting := fun {t φ} ho ↦ by
      obtain ⟨h1, h2, h3⟩ := h.starting ho
      have hts : t ≠ s := by
        rintro rfl
        exact hs φ ho
      exact ⟨h1, h2.of_works hw hts (h.custody.order (h.custody.inHand (by rw [inHand, ho]))), h3⟩ }

end IsKept

/-! ## Openings -/

section Opening

/-- An opening that has ended leaves the proxy in hand. -/
theorem isKept_conclude (h : γ.world.Custody b γ.proxy S) (r : Except Fault Nat) :
    (γ.conclude r).IsKept b S where
  custody := h.mono fun s φ hφ ↦ hφ.resolve_right fun ⟨_, hc⟩ ↦ by cases hc
  starting ho := by cases ho
  unwinding hu := by
    obtain ⟨c, hc⟩ := hu
    cases hc
  settled _ := rfl

/-- An opening that waits for a pool keeps the custody. -/
theorem isKept_await (h : γ.world.Custody b γ.proxy S) (hp : γ.pool = none) {φ : OpenPhase}
    (hs : ∀ s ψ, φ ≠ .starting s ψ) (hu : ∀ s ψ cause, φ ≠ .unwindingProxy s ψ cause) :
    (γ.await φ).IsKept b S where
  custody := by
    rw [inHand_eq_proxy (γ := γ.await φ) fun s ψ hψ ↦ hs s ψ (Option.some_inj.mp hψ)]
    exact h.mono fun s ψ hψ ↦ hψ.resolve_right fun ⟨c, hc⟩ ↦ hu s ψ c (Option.some_inj.mp hc)
  starting ho := absurd (Option.some_inj.mp ho) (hs _ _)
  unwinding := by
    rintro s t ψ ⟨c, hc⟩
    exact absurd (Option.some_inj.mp hc) (hu _ _ _)
  settled hq := by
    rw [show (γ.await φ).pool = γ.pool from rfl, hp] at hq
    cases hq

/-- An opening that has failed lets go of a supervisor when that has stopped. -/
theorem isKept_afterUnwinding (h : γ.world.Custody b γ.proxy S) (hp : γ.pool = none)
    (hx : ∀ t, γ.proxy = some t → t = s) {π : Stopping} (hπ : StopFits s (γ.world, π))
    (cause : Fault) : (γ.afterUnwinding s cause π).IsKept b S := by
  unfold afterUnwinding
  split
  next φ =>
    have hk := (hπ.waiting rfl).knows hπ.order
    have hc := h.insert hπ.order.known hk fun _ t ht hne ↦ absurd (hx t ht) hne
    refine
      { custody := hc.mono fun t ψ hψ ↦ hψ.imp_right ?_
        starting := by rintro t ψ ⟨⟩
        unwinding := ?_
        settled := fun hq ↦ ?_ }
    · rintro ⟨c, hc⟩
      cases hc
      exact ⟨rfl, rfl⟩
    · rintro u t ψ ⟨c, hc⟩ ht
      cases hc
      exact hx t ht
    · rw [show (γ.await _).pool = γ.pool from rfl, hp] at hq
      cases hq
  · refine isKept_conclude (γ := { γ with proxy := none }) (h.drop fun _ t ht ↦ ?_) _
    rw [hx t ht]
    exact hπ.done rfl
  · exact isKept_conclude h _

/-- An opening that is undone keeps the custody. -/
theorem isKept_unwindProxy (h : γ.world.Custody b γ.proxy S) (hp : γ.pool = none) (cause : Fault) :
    (γ.unwindProxy cause).IsKept b S := by
  unfold unwindProxy
  split
  · exact isKept_conclude h _
  next s hs =>
    have ho := h.order (h.inHand hs)
    have hv := h.of_stillStops (γ.world.works_stop s) ho.stop.order (World.stillStops_stop ho)
    refine isKept_afterUnwinding (γ := { γ with world := (γ.world.stop s).1 }) hv hp ?_ ho.stop _
    rintro t ht
    exact Option.some_inj.mp (ht.symm.trans hs)

/-- An opening whose pool did not answer keeps the custody. -/
theorem isKept_afterPoolClosed (h : γ.world.Custody b γ.proxy S) (hp : γ.pool = none) (cause : Fault)
    (o : Option Fault) : (γ.afterPoolClosed cause o).IsKept b S := by
  cases o with
  | some φ => exact isKept_conclude h _
  | none => exact isKept_unwindProxy h hp cause

/-- An opening whose pool was asked keeps the custody. -/
theorem isKept_afterPing (h : γ.world.Custody b γ.proxy S) (hp : γ.pool = none) (τ : Target) (p : Nat)
    (o : Option Fault) : (γ.afterPing τ p o).IsKept b S := by
  cases o with
  | some φ =>
    have hc : γ.closePool.1.world.Custody b γ.closePool.1.proxy S := h.of_eq rfl rfl
    unfold afterPing
    dsimp only
    split
    · exact isKept_afterPoolClosed hc hp _ _
    · exact isKept_await hc hp (by simp) (by simp)
  | none =>
    refine isKept_conclude ?_ _
    exact h.of_eq rfl rfl

/-- An opening that asked for a pool keeps the custody. -/
theorem isKept_afterConnect (h : γ.world.Custody b γ.proxy S) (hp : γ.pool = none) (τ : Target)
    (o : Option Fault) : (γ.afterConnect τ o).IsKept b S := by
  cases o with
  | some φ => exact isKept_unwindProxy h hp _
  | none =>
    unfold afterConnect
    dsimp only
    split
    · exact isKept_afterPing (γ := { γ.emit .ping with
        pools := γ.pools ++ [Pool.fresh], database.pings := γ.database.pings.tail })
        (h.of_eq rfl rfl) hp τ _ _
    · exact isKept_await (γ := { γ.emit .ping with
        pools := γ.pools ++ [Pool.fresh], database.pings := γ.database.pings.tail })
        (h.of_eq rfl rfl) hp (by simp) (by simp)

/-- An opening that asks for a pool keeps the custody. -/
theorem isKept_createPool (h : γ.world.Custody b γ.proxy S) (hp : γ.pool = none) :
    γ.createPool.IsKept b S := by
  unfold createPool
  dsimp only
  split
  · exact isKept_afterConnect h hp _ _
  next timeout _ =>
    split
    · exact isKept_afterConnect (γ := { γ.emit (.createPool (poolOptions γ.settings γ.target timeout))
        with database.connects := γ.database.connects.tail }) (h.of_eq rfl rfl) hp _ _
    · exact isKept_await (γ := { γ.emit (.createPool (poolOptions γ.settings γ.target timeout))
        with database.connects := γ.database.connects.tail }) (h.of_eq rfl rfl) hp (by simp) (by simp)

/-- The supervisor that an opening has started is in use, or in no hand when that failed. -/
theorem isKept_afterStart (h : γ.world.Custody b (some s) S) (hp : γ.pool = none)
    (hx : γ.proxy = none) (hS : ∀ ψ, ¬ S s ψ) {π : Starting} (hf : StartFits s (γ.world, π))
    (he : StartEnds s (γ.world, π)) : (γ.afterStart s π).IsKept b S := by
  unfold afterStart
  split
  next φ =>
    refine
      { custody := h.mono fun t ψ hψ ↦ hψ.resolve_right fun ⟨_, hc⟩ ↦ by cases hc
        starting := ?_
        unwinding := by rintro u t ψ ⟨c, ⟨⟩⟩
        settled := fun hq ↦ ?_ }
    · rintro t ψ ⟨⟩
      exact ⟨hx, hf.waiting rfl, hS⟩
    · rw [show (γ.await _).pool = γ.pool from rfl, hp] at hq
      cases hq
  · exact isKept_createPool (γ := { γ with proxy := some s }) h hp
  · refine isKept_conclude ?_ _
    rw [hx]
    refine h.drop fun _ t ht ↦ ?_
    cases ht
    exact he.error rfl

/-- What a pending opening holds when it is not starting the proxy. -/
theorem IsKept.custody_proxy (h : γ.IsKept b S) (hs : ∀ s φ, γ.opening ≠ some (.starting s φ)) :
    γ.world.Custody b γ.proxy S :=
  inHand_eq_proxy hs ▸ h.custody.mono fun _ _ ↦ Or.inl

/-- While an opening is pending no pool is in use. -/
theorem IsKept.pool_eq_none (h : γ.IsKept b S) {φ : OpenPhase} (ho : γ.opening = some φ) :
    γ.pool = none := by
  cases hp : γ.pool with
  | none => rfl
  | some p =>
    rw [h.settled hp] at ho
    cases ho

/-- The supervisor that an opening makes when it begins. -/
theorem IsKept.inOrder_addSupervisor (h : γ.IsKept b S) (ho : γ.opening = none)
    (hx : γ.proxy = none) (κ : Config) :
    (γ.world.addSupervisor κ).InOrder γ.world.supervisors.length := by
  have hc : γ.world.Custody False none S :=
    { hx ▸ h.custody_proxy (by simp [ho]) with
      inHand := by rintro t ⟨⟩
      held := False.elim
      unseen := False.elim }
  have ha := hc.addSupervisor κ False.elim
  exact ha.order (ha.inHand rfl)

/-- An opening is begun; if others are not to hold a process, then only while no stop that is under
way has seen the end of its own. -/
theorem IsKept.beginOpening (h : γ.IsKept b S) (hp : γ.pool = none) (ho : γ.opening = none)
    (hS : b → ∀ s φ, S s φ → γ.world.hasSeen φ.child = false) : γ.beginOpening.IsKept b S := by
  have hc := h.custody_proxy (by simp [ho])
  unfold Gate.beginOpening
  split
  next hx =>
    have hx : γ.proxy = none := by simpa using (Bool.and_eq_true_iff.mp hx).2
    split
    · exact isKept_conclude hc _
    next κ _ =>
      rw [hx] at hc
      set n := γ.world.supervisors.length with hn
      have ha := hc.addSupervisor κ hS
      have hfresh : ((γ.world.addSupervisor κ).supervisor n).child = none := by
        simp [World.addSupervisor, World.supervisor, hn]
      have hord := ha.order (ha.inHand rfl)
      have hf := hord.start (.of_child hfresh)
      have hSn (ψ : StopPhase) : ¬ S n ψ := fun hψ ↦ Nat.lt_irrefl n (hc.known hψ)
      refine isKept_afterStart (γ := { γ with world := ((γ.world.addSupervisor κ).start n).1 })
        ?_ hp hx hSn hf hord.ends_start
      exact ha.of_works (World.works_start _ n) hf.order (fun _ _ _ ↦ rfl)
        fun ψ hψ ↦ absurd hψ (hSn ψ)
  · exact isKept_createPool hc hp

/-- The start of an opening goes on, or is given up. -/
theorem IsKept.afterStart (h : γ.IsKept b S) {φ : StartPhase} (ho : γ.opening = some (.starting s φ))
    {r : World × Starting} (hw : γ.world.Works s r.1) (hf : StartFits s r) (he : StartEnds s r) :
    ({ γ with world := r.1 }.afterStart s r.2).IsKept b S := by
  have hx : γ.inHand = some s := by rw [inHand, ho]
  obtain ⟨hn, -, hS⟩ := h.starting ho
  have hc : γ.world.Custody b (some s) S := hx ▸ h.custody.mono fun _ _ ↦ Or.inl
  refine isKept_afterStart (γ := { γ with world := r.1 }) ?_ (h.pool_eq_none ho) hn hS hf he
  exact hc.of_works hw hf.order (fun _ _ _ ↦ rfl) fun ψ hψ ↦ absurd hψ (hS ψ)

/-- The stop of an opening that has failed goes on, or is given up. -/
theorem IsKept.afterUnwinding (h : γ.IsKept b S) {φ : StopPhase} {cause : Fault}
    (ho : γ.opening = some (.unwindingProxy s φ cause)) {r : World × Stopping}
    (hw : γ.world.Works s r.1) (hf : StopFits s r) (hs : World.StillStops s γ.world r.1) :
    ({ γ with world := r.1 }.afterUnwinding s cause r.2).IsKept b S := by
  have hc := h.custody_proxy (by rw [ho]; simp)
  exact isKept_afterUnwinding (γ := { γ with world := r.1 }) (hc.of_stillStops hw hf.order hs)
    (h.pool_eq_none ho) (fun t ht ↦ h.unwinding ⟨cause, ho⟩ ht) hf cause

/-- An opening that goes on leaves the gate kept. -/
theorem IsKept.resumeOpening (h : γ.IsKept b S) {φ : OpenPhase} (ho : γ.opening = some φ) :
    (φ.resume γ).IsKept b S := by
  have hp := h.pool_eq_none ho
  cases φ with
  | starting s φ =>
    have hk := h.custody.order (h.custody.inHand (s := s) (by rw [inHand, ho]))
    have hφ := (h.starting ho).2.1
    exact h.afterStart ho (φ.works_resume s γ.world) (hk.resumeStart hφ) (hk.ends_resume hφ)
  | connecting τ t o => exact isKept_afterConnect (h.custody_proxy (by rw [ho]; simp)) hp τ o
  | pinging τ p t o => exact isKept_afterPing (h.custody_proxy (by rw [ho]; simp)) hp τ p o
  | unwindingPool t o cause =>
    exact isKept_afterPoolClosed (h.custody_proxy (by rw [ho]; simp)) hp cause o
  | unwindingProxy s φ cause =>
    have hS : S s φ ∨ γ.Unwinds s φ := .inr ⟨cause, ho⟩
    have hk := h.custody.order (h.custody.known hS)
    have hφ := h.custody.knows hS
    exact h.afterUnwinding ho (φ.works_resume s γ.world) (hk.resume_of_knows hφ)
      (StopPhase.stillStops_resume hk hφ)

/-- An opening that is given up leaves the gate kept. -/
theorem IsKept.cancelOpening (h : γ.IsKept b S) : γ.cancelOpening.IsKept b S := by
  unfold Gate.cancelOpening
  split
  next φ ho =>
    cases φ with
    | starting s φ =>
      have hk := h.custody.order (h.custody.inHand (s := s) (by rw [inHand, ho]))
      have hφ := (h.starting ho).2.1
      exact h.afterStart ho (φ.works_cancel s γ.world) (hk.cancelStart hφ) (hk.ends_cancel hφ)
    | connecting τ t o => exact isKept_conclude (h.custody_proxy (by rw [ho]; simp)) _
    | pinging τ p t o => exact isKept_conclude (h.custody_proxy (by rw [ho]; simp)) _
    | unwindingPool t o cause => exact isKept_conclude (h.custody_proxy (by rw [ho]; simp)) _
    | unwindingProxy s φ cause =>
      have hk := h.custody.order (h.custody.known (.inr ⟨cause, ho⟩))
      exact h.afterUnwinding ho (StopPhase.works_cancel s γ.world) hk.cancel
        (StopPhase.stillStops_cancel hk)
  next => exact h

end Opening

/-! ## Closings -/

section Closing

/-- The stops under way when a closing has come to a point. -/
def Adds (S : Nat → StopPhase → Prop) {α : Type} (π : Progress ClosePhase α) (s : Nat)
    (φ : StopPhase) : Prop := S s φ ∨ π = .waiting (.stoppingProxy s φ)

/-- A closing has come to a point, and the gate is kept. -/
def Keeps (b : Prop) (S : Nat → StopPhase → Prop) {α : Type} (r : Gate × Progress ClosePhase α) :
    Prop :=
  r.1.IsKept b (Adds S r.2)

/-- A closing that stops no supervisor adds no stop. -/
theorem IsKept.keeps (h : γ.IsKept b S) {α : Type} {π : Progress ClosePhase α}
    (hπ : ∀ s φ, π ≠ .waiting (.stoppingProxy s φ)) : Keeps b S (γ, π) :=
  h.mono fun s φ hφ ↦ hφ.resolve_right (hπ s φ)

/-- A closing has stopped the supervisor `s`, or stops it.  If that ends well then no other one is
in use. -/
theorem IsKept.keeps_afterStop (h : γ.IsKept b S) {π : Stopping} (hπ : StopFits s (γ.world, π))
    (hs : ∀ φ, γ.opening ≠ some (.starting s φ))
    (hx : b → π = .done (.ok ()) → ∀ t, γ.proxy = some t → t = s) : Keeps b S (γ.afterStop s π) := by
  unfold afterStop
  split
  next φ =>
    have hφ := hπ.waiting rfl
    have hk := hφ.knows hπ.order
    have hin (hb : b) : γ.inHand = some s := h.custody.held hb hφ.child_eq
    have hc := h.custody.insert hπ.order.known hk fun hb t ht hne ↦
      absurd (Option.some_inj.mp (ht.symm.trans (hin hb))) hne
    refine { h with custody := hc.mono fun t ψ hψ ↦ ?_, starting := fun {t ψ} ho ↦ ?_ }
    · obtain (hψ | hψ) | hψ := hψ
      · exact .inl (.inl hψ)
      · cases hψ
        exact .inr ⟨rfl, rfl⟩
      · exact .inl (.inr hψ)
    · obtain ⟨h1, h2, h3⟩ := h.starting ho
      refine ⟨h1, h2, fun ω hω ↦ ?_⟩
      obtain hω | hω := hω
      · exact h3 ω hω
      · cases hω
        exact hs ψ ho
  next =>
    refine IsKept.keeps ?_ (by simp)
    have hc : γ.world.Custody b { γ with proxy := none }.inHand fun s φ ↦ S s φ ∨ γ.Unwinds s φ := by
      by_cases ho : ∃ t ψ, γ.opening = some (.starting t ψ)
      · obtain ⟨t, ψ, ho⟩ := ho
        have := h.custody
        rwa [inHand, ho] at this ⊢
      · have ho (t : Nat) (ψ : StartPhase) : γ.opening ≠ some (.starting t ψ) :=
          fun hψ ↦ ho ⟨t, ψ, hψ⟩
        rw [inHand_eq_proxy (γ := { γ with proxy := none }) ho]
        refine h.custody.drop fun hb t ht ↦ ?_
        rw [hx hb rfl t (inHand_eq_proxy ho ▸ ht)]
        exact hπ.done rfl
    exact { h with
      custody := hc
      starting := fun ho ↦ ⟨rfl, (h.starting ho).2⟩
      unwinding := by rintro _ _ _ - ⟨⟩ }
  next => exact h.keeps (by simp)

/-- A stop begins or goes on, of a supervisor that is not being started. -/
theorem IsKept.stillStops (h : γ.IsKept b S) (hs : ∀ φ, γ.opening ≠ some (.starting s φ))
    (hw : γ.world.Works s w) (ho : w.InOrder s) (hv : World.StillStops s γ.world w) :
    { γ with world := w }.IsKept b S :=
  h.withWorld (h.custody.of_stillStops hw ho hv) hw hs

/-- A closing that stops the supervisor adds a stop. -/
theorem IsKept.keeps_stopProxy (h : γ.IsKept b S) : Keeps b S γ.stopProxy := by
  unfold stopProxy
  split
  · exact h.keeps (by simp)
  next s hx =>
    have hn := h.opening_ne_starting hx s
    have ho := h.custody.order (h.custody.inHand (h.inHand_of_proxy hx))
    have hk := h.stillStops hn (γ.world.works_stop s) ho.stop.order (World.stillStops_stop ho)
    exact hk.keeps_afterStop ho.stop hn fun _ _ t ht ↦ Option.some_inj.mp (ht.symm.trans hx)

/-- A closing whose pool has closed keeps the gate. -/
theorem IsKept.keeps_afterClosingPool (h : γ.IsKept b S) (o : Option Fault) :
    Keeps b S (γ.afterClosingPool o) := by
  cases o with
  | some φ => exact h.keeps (by simp)
  | none =>
    have hδ : ({ γ with pool := none }.log .info .pool "DB pool closed").IsKept b S :=
      h.of_eq rfl rfl rfl rfl (by rintro _ ⟨⟩)
    exact hδ.keeps_stopProxy

/-- A closing that lets go of what is in use keeps the gate. -/
theorem IsKept.keeps_release (h : γ.IsKept b S) : Keeps b S γ.release := by
  have hδ : γ.closePool.1.IsKept b S := h.of_eq rfl rfl rfl rfl fun _ ↦ id
  unfold release
  split
  · exact h.keeps_stopProxy
  · dsimp only
    split
    · exact hδ.keeps_afterClosingPool _
    · exact hδ.keeps (by simp)

/-- A closing whose opening has ended keeps the gate. -/
theorem IsKept.keeps_afterOpening (h : γ.IsKept b S) (r : Except Fault Nat) :
    Keeps b S (γ.afterOpening r) := by
  cases r with
  | ok p => exact h.keeps_release
  | error φ =>
    unfold afterOpening
    dsimp only
    split
    · exact h.keeps (by simp)
    · refine IsKept.keeps_release ?_
      exact h.of_eq rfl rfl rfl rfl fun _ ↦ id

/-- A closing that waits for the opening keeps the gate. -/
theorem IsKept.keeps_awaitOpening (h : γ.IsKept b S) (n : Nat) : Keeps b S (γ.awaitOpening n) := by
  unfold awaitOpening
  split
  · exact h.keeps_afterOpening _
  · exact h.keeps (by simp)

/-- A closing that begins keeps the gate. -/
theorem IsKept.keeps_close (h : γ.IsKept b S) : Keeps b S γ.close := by
  unfold Gate.close
  split
  · exact h.keeps_awaitOpening _
  · exact h.keeps_release

variable {φ : ClosePhase}

/-- A closing goes on in time. -/
theorem IsKept.keeps_resume (h : γ.IsKept b (Adds S (α := Unit) (.waiting φ)))
    (hr : φ.isReady γ = true) : Keeps b S (φ.resume γ) := by
  have hS : γ.IsKept b S := h.mono fun _ _ ↦ Or.inl
  cases φ with
  | awaitingOpening n => exact hS.keeps_awaitOpening n
  | awaitingPool t o => exact hS.keeps_afterClosingPool o
  | stoppingProxy s φ =>
    have hφ : Adds S (α := Unit) (.waiting (.stoppingProxy s φ)) s φ := .inr rfl
    have hk := h.custody.knows (.inl hφ)
    have ho := h.custody.order (h.custody.known (.inl hφ))
    have hn (ψ : StartPhase) : γ.opening ≠ some (.starting s ψ) :=
      fun hψ ↦ (h.starting hψ).2.2 φ hφ
    have hv := hS.stillStops hn (φ.works_resume s γ.world) (ho.resume_of_knows hk).order
      (StopPhase.stillStops_resume ho hk)
    refine hv.keeps_afterStop (ho.resume_of_knows hk) hn fun hb hd t ht ↦ ?_
    -- a stop of a supervisor that is not in use has lost its process, and cannot end well in time
    by_contra hne
    have hin := h.inHand_of_proxy ht
    have hc : (γ.world.supervisor s).child = none := by
      cases hc : (γ.world.supervisor s).child with
      | none => rfl
      | some p => exact absurd (Option.some_inj.mp (hin.symm.trans (h.custody.held hb hc))) hne
    have hu := h.custody.unseen hb (.inl hφ) hin hne
    rw [StopPhase.hasSeen_of_lost ho hc hr hd] at hu
    cases hu

/-- A closing is given up. -/
theorem IsKept.keeps_cancel (h : γ.IsKept b (Adds S (α := Unit) (.waiting φ))) :
    Keeps b S (φ.cancel γ) := by
  have hS : γ.IsKept b S := h.mono fun _ _ ↦ Or.inl
  cases φ with
  | awaitingOpening n => exact hS.cancelOpening.keeps_awaitOpening n
  | awaitingPool t o => exact hS.keeps (by simp)
  | stoppingProxy s φ =>
    have hφ : Adds S (α := Unit) (.waiting (.stoppingProxy s φ)) s φ := .inr rfl
    have ho := h.custody.order (h.custody.known (.inl hφ))
    have hn (ψ : StartPhase) : γ.opening ≠ some (.starting s ψ) :=
      fun hψ ↦ (h.starting hψ).2.2 φ hφ
    have hv := hS.stillStops hn (StopPhase.works_cancel s γ.world) ho.cancel.order
      (StopPhase.stillStops_cancel ho)
    exact hv.keeps_afterStop ho.cancel hn (by rintro - ⟨⟩)

end Closing

/-! ## What happens beside -/

/-- To kill the proxy leaves the gate kept. -/
theorem IsKept.abort (h : γ.IsKept b S) : γ.abort.IsKept b S := by
  unfold Gate.abort
  split
  next s hs =>
    have ha (t : Nat) : γ.world.Alike t (γ.world.killChild s) := by
      unfold World.killChild
      split
      · split
        · exact World.alike_kill ..
        · exact .refl _
      · exact .refl _
    have hin := h.inHand_of_proxy hs
    refine h.withWorld (h.custody.of_works (World.works_killChild _ s)
      ((h.custody.order (h.custody.inHand hin)).of_akin (ha s).toAkin) (fun _ _ _ ↦ hin)
      fun φ hφ ↦ (h.custody.knows hφ).of_alike (ha s)) (World.works_killChild _ s)
      (h.opening_ne_starting hs s)
  next => exact h

/-- Whatever processes do, the gate stays kept. -/
theorem IsKept.act (h : γ.IsKept b S) (q : Nat) : { γ with world := γ.world.act q }.IsKept b S :=
  { h with
    custody := h.custody.act q
    starting := fun {s φ} ho ↦ by
      obtain ⟨h1, h2, h3⟩ := h.starting ho
      have hk := h.custody.order (h.custody.inHand (s := s) (by rw [inHand, ho]))
      exact ⟨h1, h2.act hk q, h3⟩ }

end Sluice.Gate
