import Sluice.Proofs.Gate.Custody
import Sluice.Proofs.Gate.Pools
import Sluice.Proofs.Proxy.Descent
import Sluice.Proofs.Proxy.Tending

/-!
# Openings and closings that nobody gives up

An opening that goes on in time lets go of no process that has not ended, and comes closer to its
end (`IsKept.carries_resume`); if it has failed then the process that it stops is the one that the
supervisor holds.  A closing lets go of no other process either (`IsKept.tends_resume`).
-/

namespace Sluice.Gate

open Proxy

/-! ## How far an opening still has to go -/

namespace OpenPhase

/-- The number of kinds of waits that an opening may still come to. -/
def stage : OpenPhase → Nat
  | starting _ φ => 5 + φ.stage
  | connecting .. => 5
  | pinging .. => 4
  | unwindingPool .. => 3
  | unwindingProxy _ φ _ => φ.rank

def fuel : OpenPhase → Nat
  | starting _ φ => φ.fuel
  | _ => 0

/-- An opening at `ψ` has less before it than one at `φ`. -/
def Descends (φ ψ : OpenPhase) : Prop :=
  ψ.stage < φ.stage ∨ ψ.stage = φ.stage ∧ ψ.fuel < φ.fuel

end OpenPhase

/-! ## Openings -/

/-- From `γ` an opening has come to `δ`: nothing that lived was let go of, and what it stops is
held. If it waits then it has come to some stage. -/
structure Proceeds (n : Nat) (γ δ : Gate) : Prop where
  tends : γ.world.Tends δ.world
  fits {s : Nat} {φ : StopPhase} : δ.Unwinds s φ → φ.Fits δ.world s
  stage {φ : OpenPhase} : δ.opening = some φ → φ.stage ≤ n
  answers {o : Outcome} : o ∈ δ.database.closings → o ∈ γ.database.closings

section Proceeds

variable {n : Nat} {γ γ' δ : Gate} {s : Nat}

theorem Proceeds.after (h : Proceeds n γ' δ) (ht : γ.world.Tends γ'.world)
    (ha : ∀ o ∈ γ'.database.closings, o ∈ γ.database.closings) : Proceeds n γ δ :=
  { h with
    tends := ht.trans h.tends
    answers := fun ho ↦ ha _ (h.answers ho) }

theorem Proceeds.mono {m : Nat} (h : Proceeds n γ δ) (hm : n ≤ m) : Proceeds m γ δ :=
  { h with stage := fun hφ ↦ Nat.le_trans (h.stage hφ) hm }

theorem proceeds_conclude (γ : Gate) (r : Except Fault Nat) : Proceeds n γ (γ.conclude r) where
  tends := .refl _
  fits hu := by
    obtain ⟨c, hc⟩ := hu
    cases hc
  stage := by rintro φ ⟨⟩
  answers := id

theorem proceeds_await (γ : Gate) {φ : OpenPhase} (hn : φ.stage ≤ n)
    (hφ : ∀ s ψ cause, φ ≠ .unwindingProxy s ψ cause) : Proceeds n γ (γ.await φ) where
  tends := .refl _
  fits hu := by
    obtain ⟨c, hc⟩ := hu
    exact absurd (Option.some_inj.mp hc) (hφ _ _ c)
  stage := by
    rintro ψ ⟨⟩
    exact hn
  answers := id

theorem proceeds_afterUnwinding {π : Stopping} (hπ : StopFits s (γ.world, π))
    (hn : ∀ φ, π = .waiting φ → φ.rank ≤ n) (cause : Fault) :
    Proceeds n γ (γ.afterUnwinding s cause π) := by
  unfold afterUnwinding
  split
  next φ =>
    refine ⟨.refl _, ?_, ?_, id⟩
    · rintro t ψ ⟨c, hc⟩
      cases hc
      exact hπ.waiting rfl
    · rintro ψ ⟨⟩
      exact hn φ rfl
  · exact (proceeds_conclude { γ with proxy := none } _).after (.refl _) fun _ ↦ id
  · exact γ.proceeds_conclude _

/-- The supervisor in use is in order. -/
def IsOrdered (γ : Gate) : Prop := ∀ s, γ.proxy = some s → γ.world.InOrder s

theorem IsOrdered.of_eq (h : γ.IsOrdered) (hc : δ.world.children = γ.world.children)
    (hs : δ.world.supervisors = γ.world.supervisors) (hx : δ.proxy = γ.proxy) : δ.IsOrdered :=
  fun s hδ ↦ (h s (hx ▸ hδ)).of_akin (World.Alike.of_eq hc hs).toAkin

variable (h : γ.IsOrdered)

include h

theorem proceeds_unwindProxy (cause : Fault) : Proceeds 2 γ (γ.unwindProxy cause) := by
  unfold unwindProxy
  split
  · exact γ.proceeds_conclude _
  next s hs =>
    have hu := proceeds_afterUnwinding (γ := { γ with world := (γ.world.stop s).1 }) (h s hs).stop
      (fun φ _ ↦ φ.rank_le) cause
    exact hu.after (h s hs).tends_stop fun _ ↦ id

theorem proceeds_afterPoolClosed (cause : Fault) (o : Option Fault) :
    Proceeds 2 γ (γ.afterPoolClosed cause o) := by
  cases o with
  | some φ => exact γ.proceeds_conclude _
  | none => exact proceeds_unwindProxy h cause

theorem proceeds_afterPing (τ : Target) (p : Nat) (o : Option Fault) :
    Proceeds 3 γ (γ.afterPing τ p o) := by
  cases o with
  | some φ =>
    have ht : γ.world.Tends γ.closePool.1.world := .of_eq rfl rfl rfl
    have hc : γ.closePool.1.IsOrdered := h.of_eq rfl rfl rfl
    have ha (o : Outcome) : o ∈ γ.closePool.1.database.closings → o ∈ γ.database.closings :=
      List.mem_of_mem_tail
    unfold afterPing
    dsimp only
    split
    · exact ((proceeds_afterPoolClosed hc _ _).after ht ha).mono (Nat.le_succ 2)
    · exact (proceeds_await _ (Nat.le_refl 3) (by simp)).after ht ha
  | none =>
    refine (proceeds_conclude _ _).after ?_ fun _ ↦ id
    exact .of_eq rfl rfl rfl

theorem proceeds_afterConnect (τ : Target) (o : Option Fault) :
    Proceeds 4 γ (γ.afterConnect τ o) := by
  cases o with
  | some φ => exact (proceeds_unwindProxy h _).mono (by omega)
  | none =>
    unfold afterConnect
    dsimp only
    set δ : Gate := { γ.emit .ping with
      pools := γ.pools ++ [Pool.fresh], database.pings := γ.database.pings.tail } with hδ
    have ht : γ.world.Tends δ.world := .of_eq rfl rfl rfl
    have hc : δ.IsOrdered := h.of_eq rfl rfl rfl
    split
    · exact ((proceeds_afterPing hc ..).after ht fun _ ↦ id).mono (Nat.le_succ 3)
    · exact (proceeds_await δ (Nat.le_refl 4) (by simp)).after ht fun _ ↦ id

theorem proceeds_createPool : Proceeds 5 γ γ.createPool := by
  unfold createPool
  dsimp only
  split
  · exact (proceeds_afterConnect h _ _).mono (Nat.le_succ 4)
  next timeout _ =>
    set δ : Gate := { γ.emit (.createPool (poolOptions γ.settings γ.target timeout)) with
      database.connects := γ.database.connects.tail } with hδ
    have ht : γ.world.Tends δ.world := .of_eq rfl rfl rfl
    have hc : δ.IsOrdered := h.of_eq rfl rfl rfl
    split
    · exact ((proceeds_afterConnect hc ..).after ht fun _ ↦ id).mono (Nat.le_succ 4)
    · exact (proceeds_await δ (Nat.le_refl 5) (by simp)).after ht fun _ ↦ id

end Proceeds

/-! ## Openings that begin -/

section Beginning

variable {b : Prop} {γ : Gate} {s : Nat} {S : Nat → StopPhase → Prop}

theorem tends_afterStart (h : γ.world.InOrder s) (π : Starting) :
    γ.world.Tends (γ.afterStart s π).world := by
  unfold afterStart
  split
  · exact .refl _
  · refine (proceeds_createPool (γ := { γ with proxy := some s }) fun t hs ↦ ?_).tends
    cases hs
    exact h
  · exact .refl _

/-- An opening that begins lets go of nothing that lives. -/
theorem IsKept.tends_beginOpening (h : γ.IsKept b S) (ho : γ.opening = none) :
    γ.world.Tends γ.beginOpening.world := by
  unfold Gate.beginOpening
  split
  next hx =>
    have hx : γ.proxy = none := by simpa using (Bool.and_eq_true_iff.mp hx).2
    cases γ.settings.proxy with
    | error φ => exact .refl _
    | ok κ =>
      have ha := h.inOrder_addSupervisor ho hx κ
      have hf := ha.start (.of_child (by simp [World.addSupervisor, World.supervisor]))
      exact ((γ.world.tends_addSupervisor κ).trans ha.tends_start).trans
        (tends_afterStart (γ := { γ with world := _ }) hf.order _)
  · refine (proceeds_createPool fun s hs ↦ ?_).tends
    exact h.custody.order (h.custody.inHand (h.inHand_of_proxy hs))

end Beginning

/-- What an opening that went on in time has come to. -/
structure Carries (γ : Gate) (φ : OpenPhase) (δ : Gate) : Prop where
  tends : γ.world.Tends δ.world
  fits {s : Nat} {ψ : StopPhase} : δ.Unwinds s ψ → ψ.Fits δ.world s
  descends {ψ : OpenPhase} : δ.opening = some ψ → φ.Descends ψ
  answers {o : Outcome} : o ∈ δ.database.closings → o ∈ γ.database.closings

section Carries

variable {b : Prop} {n : Nat} {γ δ : Gate} {S : Nat → StopPhase → Prop}

theorem Proceeds.carries (h : Proceeds n γ δ) {φ : OpenPhase} (hn : n < φ.stage) :
    Carries γ φ δ :=
  ⟨h.tends, h.fits, fun hψ ↦ .inl (Nat.lt_of_le_of_lt (h.stage hψ) hn), h.answers⟩

theorem IsKept.carries_resume (h : γ.IsKept b S) {φ : OpenPhase} (ho : γ.opening = some φ)
    (hr : φ.isReady γ.world = true) : Carries γ φ (φ.resume γ) := by
  have horder (hs : ∀ s ψ, φ ≠ .starting s ψ) : γ.IsOrdered := fun s hx ↦ by
    have hc := h.custody_proxy (by rw [ho]; simpa using hs)
    exact hc.order (hc.inHand hx)
  cases φ with
  | starting s φ =>
    have hk := h.custody.order (h.custody.inHand (s := s) (by rw [inHand, ho]))
    have hφ := (h.starting ho).2.1
    have ht := StartPhase.tends_resume hk hφ hr
    have hf := hk.resumeStart hφ
    have hd (ψ : StartPhase) := StartPhase.descends_resume (ψ := ψ) hr
    change Carries γ _ ({ γ with world := (φ.resume s γ.world).1 }.afterStart s
      (φ.resume s γ.world).2)
    generalize φ.resume s γ.world = r at ht hf hd
    obtain ⟨v, ψ | ε | _⟩ := r
    · refine ⟨ht, ?_, ?_, id⟩
      · rintro t ω ⟨c, ⟨⟩⟩
      · rintro ω ⟨⟩
        exact (hd ψ rfl).imp (Nat.add_lt_add_left · 5) (And.imp_left (congrArg (5 + ·)))
    · exact ((proceeds_conclude { γ with world := v } _).after ht fun _ ↦ id).carries (n := 0)
        (Nat.add_pos_left (Nat.succ_pos 4) _)
    · have hp := proceeds_createPool (γ := { γ with world := v, proxy := some s }) fun t hs ↦ by
        cases hs
        exact hf.order
      exact (hp.after ht fun _ ↦ id).carries (Nat.lt_add_of_pos_right φ.stage_pos)
  | connecting τ t o =>
    exact (proceeds_afterConnect (horder (by simp)) τ o).carries (Nat.lt_succ_self 4)
  | pinging τ p t o =>
    exact (proceeds_afterPing (horder (by simp)) τ p o).carries (Nat.lt_succ_self 3)
  | unwindingPool t o cause =>
    exact (proceeds_afterPoolClosed (horder (by simp)) cause o).carries (Nat.lt_succ_self 2)
  | unwindingProxy s φ cause =>
    have hS : S s φ ∨ γ.Unwinds s φ := .inr ⟨cause, ho⟩
    have hk := h.custody.order (h.custody.known hS)
    have hφ := h.custody.knows hS
    have hp := proceeds_afterUnwinding (γ := { γ with world := (φ.resume s γ.world).1 })
      (n := φ.rank - 1) (hk.resume_of_knows hφ)
      (fun ψ hψ ↦ Nat.le_sub_one_of_lt (StopPhase.rank_resume hψ)) cause
    exact (hp.after (StopPhase.tends_resume hk hφ hr) fun _ ↦ id).carries
      (Nat.sub_one_lt_of_lt φ.rank_pos)

end Carries

/-! ## Closings -/

section Closing

variable {b : Prop} {γ : Gate} {S : Nat → StopPhase → Prop} {φ : ClosePhase}

theorem tends_afterStop (γ : Gate) (s : Nat) (π : Stopping) :
    γ.world.Tends (γ.afterStop s π).1.world := by
  unfold afterStop
  split <;> exact .refl _

theorem IsKept.tends_stopProxy (h : γ.IsKept b S) : γ.world.Tends γ.stopProxy.1.world := by
  unfold stopProxy
  split
  · exact .refl _
  next s hx =>
    have ho := h.custody.order (h.custody.inHand (h.inHand_of_proxy hx))
    exact ho.tends_stop.trans (tends_afterStop { γ with world := (γ.world.stop s).1 } s _)

theorem IsKept.tends_afterClosingPool (h : γ.IsKept b S) (o : Option Fault) :
    γ.world.Tends (γ.afterClosingPool o).1.world := by
  cases o with
  | some φ => exact .refl _
  | none =>
    have hδ : ({ γ with pool := none }.log .info .pool "DB pool closed").IsKept b S :=
      h.of_eq rfl rfl rfl rfl (by rintro _ ⟨⟩)
    have ht : γ.world.Tends ({ γ with pool := none }.log .info .pool "DB pool closed").world :=
      .of_eq rfl rfl rfl
    exact ht.trans hδ.tends_stopProxy

theorem IsKept.tends_release (h : γ.IsKept b S) : γ.world.Tends γ.release.1.world := by
  have hδ : γ.closePool.1.IsKept b S := h.of_eq rfl rfl rfl rfl fun _ ↦ id
  have ht : γ.world.Tends γ.closePool.1.world := .of_eq rfl rfl rfl
  unfold release
  split
  · exact h.tends_stopProxy
  · dsimp only
    split
    · exact ht.trans (hδ.tends_afterClosingPool _)
    · exact ht

theorem IsKept.tends_awaitOpening (h : γ.IsKept b S) (n : Nat) :
    γ.world.Tends (γ.awaitOpening n).1.world := by
  unfold awaitOpening
  split
  next r _ =>
    cases r with
    | ok p => exact h.tends_release
    | error φ =>
      unfold afterOpening
      dsimp only
      split
      · exact .refl _
      · have hδ : (γ.log .warning .pool
            ("Pending initialization failed during close: " ++ φ.message)).IsKept b S :=
          h.of_eq rfl rfl rfl rfl fun _ ↦ id
        have ht : γ.world.Tends (γ.log .warning .pool
            ("Pending initialization failed during close: " ++ φ.message)).world :=
          .of_eq rfl rfl rfl
        exact ht.trans hδ.tends_release
  · exact .refl _

theorem IsKept.tends_close (h : γ.IsKept b S) : γ.world.Tends γ.close.1.world := by
  unfold Gate.close
  split
  · exact h.tends_awaitOpening _
  · exact h.tends_release

/-- A closing goes on in time. -/
theorem IsKept.tends_resume (h : γ.IsKept b (Adds S (α := Unit) (.waiting φ)))
    (hr : φ.isReady γ = true) : γ.world.Tends (φ.resume γ).1.world := by
  have hS : γ.IsKept b S := h.mono fun _ _ ↦ Or.inl
  cases φ with
  | awaitingOpening n => exact hS.tends_awaitOpening n
  | awaitingPool t o => exact hS.tends_afterClosingPool o
  | stoppingProxy s φ =>
    have hφ : Adds S (α := Unit) (.waiting (.stoppingProxy s φ)) s φ := .inr rfl
    have hk := h.custody.knows (.inl hφ)
    have ho := h.custody.order (h.custody.known (.inl hφ))
    exact (StopPhase.tends_resume ho hk hr).trans
      (tends_afterStop { γ with world := (φ.resume s γ.world).1 } s _)

end Closing

/-! ## Queries -/

theorem Aloof.tends {γ δ : Gate} (h : γ.Aloof δ) : γ.world.Tends δ.world :=
  .of_eq (by rw [← h.world]) h.children h.supervisors

/-! ## What was let go of -/

/-- With neither an opening pending nor a supervisor in use no process is held: what was held
before, or was launched since, has ended. -/
theorem IsKept.isAlive_of_minds {b : Prop} {γ : Gate} {S : Nat → StopPhase → Prop} {w : World}
    (h : γ.IsKept b S) (hb : b) (hm : w.Minds γ.world) (ho : γ.opening = none) (hx : γ.proxy = none)
    {p : Nat} (hp : p < γ.world.children.length) (hw : p < w.children.length → w.IsHeld p) :
    (γ.world.child p).isAlive = false := by
  have hn : ¬ γ.world.IsHeld p := fun hc ↦ by
    have hs := h.custody.held hb hc
    rw [inHand_eq_proxy (by simp [ho]), hx] at hs
    cases hs
  exact (hm p hp hn).resolve_right fun ⟨hl, hn⟩ ↦ hn (hw hl)

end Sluice.Gate
