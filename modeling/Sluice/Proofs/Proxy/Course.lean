import Mathlib.Logic.Relation
import Sluice.Proofs.Proxy.Record
import Sluice.Proofs.Proxy.Startup

/-!
# The course of a start or a stop

A start or a stop that waits goes on in steps (`Manner.Step`): a process acts whose time has come,
the wait at hand is over, or nothing is to be done and time passes.  How much time passes is open,
as is what becomes of the network meanwhile; but nothing that is due is passed over.

What a start or a stop is bound to come to, it comes to however this goes on (`Inevitably`).
-/

namespace Sluice

/-! ## What is bound to come -/

/-- However things go on from here by `R`, they come to `P`; until then they do go on. -/
inductive Inevitably {α : Type} (R : α → α → Prop) (P : α → Prop) : α → Prop
  | now {a : α} (h : P a) : Inevitably R P a
  | next {a : α} (hn : ∃ b, R a b) (h : ∀ b, R a b → Inevitably R P b) : Inevitably R P a

namespace Inevitably

variable {α β : Type} {R : α → α → Prop} {P I : α → Prop}

/-- It is enough that each step comes to `P`, or closer to it as told by a measure. -/
theorem of_descent {r : β → β → Prop} (hr : WellFounded r) (m : α → β)
    (hI : ∀ a, I a → P a ∨ (∃ b, R a b) ∧ ∀ b, R a b → P b ∨ I b ∧ r (m b) (m a)) {a : α}
    (h : I a) : Inevitably R P a := by
  induction hn : m a using hr.induction generalizing a with
  | _ n ih =>
    subst hn
    obtain hP | ⟨hb, hR⟩ := hI a h
    · exact .now hP
    · refine .next hb fun b hab ↦ ?_
      obtain hP | ⟨hI, hlt⟩ := hR b hab
      · exact .now hP
      · exact ih (m b) hlt hI rfl

theorem mono {Q : α → Prop} {a : α} (h : Inevitably R P a) (hQ : ∀ b, P b → Q b) :
    Inevitably R Q a := by
  induction h with
  | now h => exact .now (hQ _ h)
  | next hn _ ih => exact .next hn ih

end Inevitably

namespace Proxy

open Child

/-! ## Steps -/

/-- How work that waits at a point of `φ` goes on. -/
structure Manner (φ : Type) where
  /-- When it goes on of itself. -/
  due? : φ → Option Time
  /-- Whether it can go on. -/
  isReady : World → φ → Bool
  resume : World → φ → World × Progress φ (Except Fault Unit)

/-- How the supervisor `s` stops its process. -/
def StopPhase.manner (s : Nat) : Manner StopPhase where
  due? := due?
  isReady := isReady
  resume := resume s

/-- How the supervisor `s` starts the proxy. -/
def StartPhase.manner (s : Nat) : Manner StartPhase where
  due? := due?
  isReady := isReady s
  resume := resume s

/-- From `w` to `v` time passes, not beyond the moment `d`, if that is one.  Meanwhile the site, the
network and the processes to come may have changed. -/
structure World.Passes (w v : World) (d : Option Time) : Prop where
  now : w.now < v.now
  children : v.children = w.children
  supervisors : v.supervisors = w.supervisors
  events : v.events = w.events
  le_due {t : Time} : d = some t → v.now ≤ t

namespace Manner

variable {φ : Type}

/-- How work goes on.  Processes that have something to do act first. -/
inductive Step (μ : Manner φ) : World × Progress φ (Except Fault Unit) →
    World × Progress φ (Except Fault Unit) → Prop
  | act {w u : World} {x : φ} (h : w.act? = some u) : Step μ (w, .waiting x) (u, .waiting x)
  | resume {w : World} {x : φ} (h : w.act? = none) (hx : μ.isReady w x = true) :
    Step μ (w, .waiting x) (μ.resume w x)
  | pass {w v : World} {x : φ} (h : w.act? = none) (hx : μ.isReady w x = false)
    (hv : w.Passes v (Time.earlier w.due? (μ.due? x))) : Step μ (w, .waiting x) (v, .waiting x)

/-- Where work may stand some steps later. -/
abbrev Leads (μ : Manner φ) : World × Progress φ (Except Fault Unit) →
    World × Progress φ (Except Fault Unit) → Prop := Relation.ReflTransGen μ.Step

/-- What holds at first and is kept up by each step holds all along. -/
theorem Leads.invariant {μ : Manner φ} {I : World × Progress φ (Except Fault Unit) → Prop}
    (hI : ∀ r r', I r → μ.Step r r' → I r') {r r' : World × Progress φ (Except Fault Unit)}
    (h : μ.Leads r r') (hr : I r) : I r' := by
  induction h with
  | refl => exact hr
  | tail _ hs ih => exact hI _ _ ih hs

end Manner

namespace World

variable {s p q : Nat} {t : Time} {w v u : World}

/-- Whoever acts has something to do, and its time has come. -/
theorem exists_of_act? (h : w.act? = some u) :
    ∃ p t a, (w.child p).nextAct? = some (t, a) ∧ t ≤ w.now ∧ u = w.act p := by
  unfold act? at h
  split at h
  next t p hp =>
    split at h
    next ht =>
      cases h
      obtain ⟨a, ha⟩ := exists_nextAct? hp
      exact ⟨p, t, a, ha, ht, rfl⟩
    next => cases h
  next => cases h

theorem lt_of_due? (h : w.act? = none) (hd : w.due? = some t) : w.now < t := by
  obtain ⟨⟨t', p⟩, hp, rfl⟩ := Option.map_eq_some_iff.mp hd
  unfold act? at h
  rw [hp] at h
  dsimp only at h
  split at h
  next => cases h
  next hlt => exact Int.not_le.mp hlt

/-- A process that lives acts no later than it ends. -/
theorem exists_due? (ha : (w.child p).isAlive = true) {ε : Time × Int}
    (hε : ε ∈ (w.child p).ends) : ∃ t, w.due? = some t ∧ t ≤ ε.1 := by
  obtain ⟨t, a, ht, hle⟩ := Child.exists_nextAct? ha hε
  obtain ⟨b, hb, hbt⟩ := exists_nextActor? ht
  exact ⟨b.1, by rw [due?, hb]; rfl, Int.le_trans hbt hle⟩

/-! ## What passing time leaves alone -/

namespace Passes

variable {d : Option Time}

theorem child (h : w.Passes v d) (p : Nat) : v.child p = w.child p := by
  rw [World.child, h.children, World.child]

theorem alike (h : w.Passes v d) (s : Nat) : w.Alike s v := .of_eq h.children h.supervisors

theorem acts (h : w.Passes v d) : v.acts = w.acts := by rw [World.acts, h.children, World.acts]

theorem records (h : w.Passes v d) (f : Event → Bool) : w.Records f v [] := .of_eq h.events

/-- Nothing that is due is passed over. -/
theorem le_earlier {e d : Option Time} (h : w.Passes v (Time.earlier e d)) :
    (∀ t, e = some t → v.now ≤ t) ∧ ∀ t, d = some t → v.now ≤ t := by
  have hle := @h.le_due
  cases e with
  | none => exact ⟨nofun, fun t ht ↦ hle ht⟩
  | some a =>
    cases d with
    | none => exact ⟨fun t ht ↦ hle ht, nofun⟩
    | some b =>
      have hm : v.now ≤ min a b := hle rfl
      refine ⟨fun t ht ↦ ?_, fun t ht ↦ ?_⟩
      · cases ht
        exact Int.le_trans hm (Int.min_le_left a b)
      · cases ht
        exact Int.le_trans hm (Int.min_le_right a b)

end Passes

theorem passes_tick {d : Option Time} (h : ∀ t, d = some t → w.now < t) :
    w.Passes { w with now := w.now + 1 } d :=
  ⟨Int.lt_add_one_of_le (Int.le_refl _), rfl, rfl, rfl, fun ht ↦ h _ ht⟩

end World

/-! ## Work that waits goes on -/

/-- Work goes on when its time has come. -/
def Manner.IsPunctual {φ : Type} (μ : Manner φ) : Prop :=
  ∀ w x t, μ.due? x = some t → t ≤ w.now → μ.isReady w x = true

theorem StopPhase.isPunctual (s : Nat) : (manner s).IsPunctual :=
  fun _ _ _ ↦ StopPhase.isReady_of_due?

theorem StartPhase.isPunctual (s : Nat) : (manner s).IsPunctual :=
  fun _ _ _ ↦ StartPhase.isReady_of_due?

theorem Manner.IsPunctual.exists_step {φ : Type} {μ : Manner φ} (hμ : μ.IsPunctual) (w : World)
    (x : φ) : ∃ r, μ.Step (w, .waiting x) r := by
  cases h : w.act? with
  | some u => exact ⟨_, .act h⟩
  | none =>
    cases hx : μ.isReady w x with
    | true => exact ⟨_, .resume h hx⟩
    | false =>
      refine ⟨_, .pass h hx (World.passes_tick fun t ht ↦ ?_)⟩
      obtain hd | hd := Time.earlier_eq_some ht
      · exact World.lt_of_due? h hd
      · by_contra hlt
        rw [hμ w x t hd (Int.not_lt.mp hlt)] at hx
        cases hx

/-- What is left of work that waits at `x`: its rank, and what processes and the clock may still do
until the wait is over. -/
def Manner.rest {φ : Type} (rank : φ → Nat × Nat) (limit : World → φ → Time) :
    World × Progress φ (Except Fault Unit) → (Nat × Nat) × Nat
  | (w, .waiting x) => (rank x, w.acts + timeLeft (limit w x) w.now)
  | (_, .done _) => ((0, 0), 0)

/-- Work comes to `P` if it is bounded: its rank falls whenever a wait is over, and while it waits
the clock keeps within a limit. -/
theorem Manner.IsPunctual.inevitably {φ : Type} {μ : Manner φ} (hμ : μ.IsPunctual)
    {I P : World × Progress φ (Except Fault Unit) → Prop} (rank : φ → Nat × Nat)
    (limit : World → φ → Time) (hdone : ∀ w ρ, I (w, .done ρ) → P (w, .done ρ))
    (hact : ∀ w u x, I (w, .waiting x) → w.act? = some u →
      I (u, .waiting x) ∧ limit u x = limit w x)
    (hresume : ∀ w x, I (w, .waiting x) → w.act? = none → μ.isReady w x = true →
      P (μ.resume w x) ∨ I (μ.resume w x) ∧
        ∀ y, (μ.resume w x).2 = .waiting y → Prod.Lex (· < ·) (· < ·) (rank y) (rank x))
    (hpass : ∀ w v x, I (w, .waiting x) → w.act? = none → μ.isReady w x = false →
      w.Passes v (Time.earlier w.due? (μ.due? x)) →
      I (v, .waiting x) ∧ v.now ≤ limit w x ∧ limit v x = limit w x)
    {r : World × Progress φ (Except Fault Unit)} (h : I r) : Inevitably μ.Step P r := by
  have hwf : WellFounded
      (Prod.Lex (Prod.Lex (α := Nat) (β := Nat) (· < ·) (· < ·)) (β := Nat) (· < ·)) :=
    (Prod.lex ⟨_, (Prod.lex Nat.lt_wfRel Nat.lt_wfRel).wf⟩ Nat.lt_wfRel).wf
  refine .of_descent hwf (rest rank limit) (I := I) (fun r hI ↦ ?_) h
  obtain ⟨w, x | ρ⟩ := r
  · refine .inr ⟨hμ.exists_step w x, fun r' hs ↦ ?_⟩
    cases hs with
    | act hu =>
      obtain ⟨hI', hl⟩ := hact w _ x hI hu
      obtain ⟨q, t, a, ha, -, rfl⟩ := World.exists_of_act? hu
      -- the clock stands still, and one act fewer is left
      refine .inr ⟨hI', .right _ ?_⟩
      rw [hl, (w.stays_act q).now]
      exact Nat.add_lt_add_right (World.acts_act (by simp [ha])) _
    | resume hn hx =>
      obtain hP | ⟨hI', hlt⟩ := hresume w x hI hn hx
      · exact .inl hP
      · generalize μ.resume w x = r' at hI' hlt
        obtain ⟨v, y | ρ⟩ := r'
        · exact .inr ⟨hI', .left _ _ (hlt y rfl)⟩
        · exact .inl (hdone v ρ hI')
    | pass hn hx hv =>
      obtain ⟨hI', hle, hl⟩ := hpass w _ x hI hn hx hv
      -- no act is lost, and the clock comes closer to the limit
      refine .inr ⟨hI', .right _ ?_⟩
      rw [hl, hv.acts]
      exact Nat.add_lt_add_left (timeLeft_lt hv.now (Int.lt_of_lt_of_le hv.now hle)) _
  · exact .inl (hdone w ρ hI)

end Proxy

end Sluice
