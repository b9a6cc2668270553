import Sluice.Gate.Run
import Sluice.Proofs.Proxy.Traffic
import Sluice.Proofs.Proxy.View

/-!
# Openings

A gate makes an effort when it gets a supervisor, launches a process or asks for a pool.  Queries
and processes make none, and they leave the pending opening, the pool and the record of openings as
they are (`Gate.Still`).  An opening that is begun or goes on stays pending, or it ends and leaves
its result behind, and the pool is what it ended with (`Gate.Advances`).
-/

namespace Sluice

/-- Whether an event asks for a pool. -/
def Event.isCreation : Event → Bool
  | createPool _ => true
  | _ => false

/-- Requests for pools are dealings with the database. -/
theorem filter_isCreation_traffic (εs : List Event) :
    (traffic εs).filter Event.isCreation = εs.filter Event.isCreation := by
  rw [traffic, List.filter_filter]
  congr 1
  funext ε
  cases ε <;> rfl

namespace Gate

open Proxy

/-- The supervisors that were made, each of which was started, the processes that were launched, and
the pools that were asked for. -/
def efforts (γ : Gate) : Nat × Nat × List Event :=
  (γ.world.supervisors.length, γ.world.children.length, γ.world.events.filter Event.isCreation)

/-- From `γ` to `δ` no effort was made, and openings stand as they stood. -/
structure Still (γ δ : Gate) : Prop where
  opening : δ.opening = γ.opening
  opened : δ.opened = γ.opened
  pool : δ.pool = γ.pool
  efforts : δ.efforts = γ.efforts

theorem Still.refl (γ : Gate) : γ.Still γ := ⟨rfl, rfl, rfl, rfl⟩

/-- Two parts in which nothing moves make one. -/
theorem Still.trans {γ δ ε : Gate} (h : γ.Still δ) (h' : δ.Still ε) : γ.Still ε :=
  ⟨h'.opening.trans h.opening, h'.opened.trans h.opened, h'.pool.trans h.pool,
    h'.efforts.trans h.efforts⟩

/-! ## What makes no effort -/

/-- A record that asks for no pool is no effort. -/
theorem still_emit (γ : Gate) {ε : Event} (h : ε.isCreation = false) : γ.Still (γ.emit ε) :=
  ⟨rfl, rfl, rfl, by simp [efforts, emit, onWorld, World.emit, h]⟩

/-- Connections are taken and given back without an effort. -/
theorem still_onPool (γ : Gate) (p : Nat) (f : Pool → Pool) : γ.Still (γ.onPool p f) :=
  ⟨rfl, rfl, rfl, rfl⟩

/-- What processes do is no effort of the gate. -/
theorem still_act (γ : Gate) (p : Nat) : γ.Still { γ with world := γ.world.act p } := by
  obtain ⟨hs, hc⟩ := γ.world.length_act p
  have ht := congrArg (List.filter Event.isCreation) (γ.world.traffic_act p)
  rw [World.traffic, World.traffic, filter_isCreation_traffic, filter_isCreation_traffic] at ht
  exact ⟨rfl, rfl, rfl, by rw [efforts, efforts, hs, hc, ht]⟩

/-- A query that is over makes no effort. -/
theorem still_finishRun (γ : Gate) (p : Nat) (budget : Value) (ρ : Reply) :
    γ.Still (γ.finishRun p budget ρ).1 := γ.still_onPool p _

/-- A query makes no effort. -/
theorem still_run (γ : Gate) (p : Nat) (ρ : Request) : γ.Still (γ.run p ρ).1 := by
  unfold run
  split
  · exact .refl γ
  · dsimp only
    split
    · exact .refl γ
    · split
      · exact .refl γ
      · have h : γ.Still ((γ.onPool p Pool.acquire).log .debug .pool
            ("DB pool acquire: used=" ++ toString ((γ.onPool p Pool.acquire).poolAt p).used ++
              " total=" ++ toString ((γ.onPool p Pool.acquire).poolAt p).size)) :=
          (γ.still_onPool p _).trans (still_emit _ rfl)
        generalize (γ.onPool p Pool.acquire).log .debug .pool _ = δ at h ⊢
        split
        · exact h.trans (still_onPool ..)
        next params _ =>
          have hq : γ.Still { δ.emit (.query ρ.text params) with
              database.replies := δ.database.replies.tail } :=
            (h.trans (δ.still_emit rfl)).trans ⟨rfl, rfl, rfl, rfl⟩
          split
          · exact hq.trans (still_finishRun ..)
          · exact hq

/-- A query that has waited for the pool makes no effort. -/
theorem still_afterGetting (γ : Gate) (ρ : Request) (π : Getting) :
    γ.Still (γ.afterGetting ρ π).1 := by
  unfold afterGetting
  split
  · exact .refl γ
  · exact γ.still_run ..
  · exact .refl γ

/-- A query that goes on makes no effort. -/
theorem RunPhase.still_resume (γ : Gate) (φ : RunPhase) : γ.Still (φ.resume γ).1 := by
  cases φ with
  | joining n ρ => exact γ.still_afterGetting ρ _
  | running p t d budget reply =>
    unfold RunPhase.resume
    dsimp only
    split
    · exact γ.still_onPool ..
    · exact γ.still_finishRun ..

/-- A query that is given up makes no effort. -/
theorem RunPhase.still_cancel (γ : Gate) (φ : RunPhase) : γ.Still (φ.cancel γ).1 := by
  cases φ with
  | joining n ρ => exact .refl γ
  | running p t d budget reply => exact γ.still_onPool ..

/-! ## What an opening does -/

/-- An opening is pending in `δ`, or it has ended and `δ` has the pool that it ended with. -/
def Advances (γ δ : Gate) : Prop :=
  (δ.opening.isSome = true ∧ δ.opened = γ.opened ∧ δ.pool = γ.pool) ∨
    δ.opening = none ∧ ∃ r, δ.opened = γ.opened ++ [r] ∧ δ.pool = r.toOption.or γ.pool

/-- An opening that waits is pending. -/
theorem advances_await (γ : Gate) (φ : OpenPhase) : γ.Advances (γ.await φ) :=
  .inl ⟨rfl, rfl, rfl⟩

/-- An opening that has failed has ended without a pool. -/
theorem advances_conclude_error (γ : Gate) (φ : Fault) : γ.Advances (γ.conclude (.error φ)) :=
  .inr ⟨rfl, _, rfl, rfl⟩

/-- An opening that stops its supervisor waits, or has ended. -/
theorem advances_afterUnwinding (γ : Gate) (s : Nat) (cause : Fault) (π : Stopping) :
    γ.Advances (γ.afterUnwinding s cause π) := by
  unfold afterUnwinding
  split
  · exact γ.advances_await _
  · exact advances_conclude_error _ cause
  · exact γ.advances_conclude_error _

/-- An opening that is undone waits, or has ended. -/
theorem advances_unwindProxy (γ : Gate) (cause : Fault) : γ.Advances (γ.unwindProxy cause) := by
  unfold unwindProxy
  split
  · exact γ.advances_conclude_error cause
  next s _ => exact advances_afterUnwinding { γ with world := (γ.world.stop s).1 } s cause _

/-- An opening whose pool did not answer waits, or has ended. -/
theorem advances_afterPoolClosed (γ : Gate) (cause : Fault) (o : Option Fault) :
    γ.Advances (γ.afterPoolClosed cause o) := by
  cases o with
  | some φ => exact γ.advances_conclude_error φ
  | none => exact γ.advances_unwindProxy cause

/-- An opening whose pool has answered waits, or has ended. -/
theorem advances_afterPing (γ : Gate) (τ : Target) (p : Nat) (o : Option Fault) :
    γ.Advances (γ.afterPing τ p o) := by
  cases o with
  | some φ =>
    unfold afterPing
    dsimp only
    split
    · exact advances_afterPoolClosed γ.closePool.1 _ _
    · exact advances_await γ.closePool.1 _
  | none => exact .inr ⟨rfl, .ok p, rfl, rfl⟩

/-- An opening that asked for a pool waits, or has ended. -/
theorem advances_afterConnect (γ : Gate) (τ : Target) (o : Option Fault) :
    γ.Advances (γ.afterConnect τ o) := by
  cases o with
  | some φ => exact γ.advances_unwindProxy _
  | none =>
    unfold afterConnect
    dsimp only
    split
    · exact advances_afterPing { γ.emit .ping with
        pools := γ.pools ++ [Pool.fresh], database.pings := γ.database.pings.tail } τ _ _
    · exact .inl ⟨rfl, rfl, rfl⟩

/-- An opening that asks for a pool waits, or has ended. -/
theorem advances_createPool (γ : Gate) : γ.Advances γ.createPool := by
  unfold createPool
  dsimp only
  split
  · exact γ.advances_afterConnect _ _
  next timeout _ =>
    split
    · exact advances_afterConnect { γ.emit (.createPool (poolOptions γ.settings γ.target timeout))
        with database.connects := γ.database.connects.tail } _ _
    · exact .inl ⟨rfl, rfl, rfl⟩

/-- An opening whose proxy has started waits, or has ended. -/
theorem advances_afterStart (γ : Gate) (s : Nat) (π : Starting) :
    γ.Advances (γ.afterStart s π) := by
  unfold afterStart
  split
  · exact γ.advances_await _
  · exact advances_createPool { γ with proxy := some s }
  · exact γ.advances_conclude_error _

/-- An opening that begins waits, or has ended. -/
theorem advances_beginOpening (γ : Gate) : γ.Advances γ.beginOpening := by
  unfold beginOpening
  split
  · split
    · exact γ.advances_conclude_error _
    · exact advances_afterStart { γ with world := _ } _ _
  · exact γ.advances_createPool

/-- An opening that goes on waits, or has ended. -/
theorem OpenPhase.advances_resume (γ : Gate) (φ : OpenPhase) : γ.Advances (φ.resume γ) := by
  cases φ with
  | starting s φ => exact advances_afterStart { γ with world := _ } s _
  | connecting τ t o => exact γ.advances_afterConnect τ o
  | pinging τ p t o => exact γ.advances_afterPing τ p o
  | unwindingPool t o cause => exact γ.advances_afterPoolClosed cause o
  | unwindingProxy s φ cause => exact advances_afterUnwinding { γ with world := _ } s cause _

/-- An opening that is given up waits, or has ended. -/
theorem OpenPhase.advances_cancel (γ : Gate) (φ : OpenPhase) : γ.Advances (φ.cancel γ) := by
  cases φ with
  | starting s φ => exact advances_afterStart { γ with world := _ } s (φ.cancel s γ.world).2
  | connecting τ t o => exact γ.advances_conclude_error _
  | pinging τ p t o => exact γ.advances_conclude_error _
  | unwindingPool t o cause => exact γ.advances_conclude_error _
  | unwindingProxy s φ cause =>
    exact advances_afterUnwinding { γ with world := _ } s cause (StopPhase.cancel s γ.world).2

/-- An opening that is given up advances, if one is pending. -/
theorem cancelOpening_cases (γ : Gate) :
    γ.Advances γ.cancelOpening ∨ γ.opening = none ∧ γ.cancelOpening = γ := by
  unfold cancelOpening
  split
  next φ _ => exact .inl (φ.advances_cancel γ)
  next ho => exact .inr ⟨ho, rfl⟩

/-! ## Getting the pool -/

section GetPool

variable {γ : Gate}

/-- Whoever asks for the pool gets the one in use. -/
theorem getPool_of_pool {p : Nat} (hp : γ.pool = some p) : γ.getPool = (γ, .done (.ok p)) := by
  rw [getPool, hp]

/-- Whoever asks for the pool while an opening is pending waits for that. -/
theorem getPool_of_pending {φ : OpenPhase} (hp : γ.pool = none) (ho : γ.opening = some φ) :
    γ.getPool = (γ, .waiting γ.nextOpening) := by
  simp [getPool, hp, ho, join, nextOpening]

/-- Whoever asks for the pool otherwise begins an opening. -/
theorem getPool_of_idle (hp : γ.pool = none) (ho : γ.opening = none) :
    γ.getPool = (γ.beginOpening, γ.beginOpening.join γ.nextOpening) := by
  simp [getPool, hp, ho]

end GetPool

/-! ## One opening at a time -/

/-- The pool is what an opening ended with, and with a pool none is pending. -/
structure IsSingle (γ : Gate) : Prop where
  pool {p : Nat} : γ.pool = some p ↔ .ok p ∈ γ.opened
  settled {p : Nat} : γ.pool = some p → γ.opening = none

/-- Where nothing moves there is still one opening at most. -/
theorem IsSingle.of_still {γ δ : Gate} (h : γ.IsSingle) (hs : γ.Still δ) : δ.IsSingle where
  pool := by rw [hs.pool, hs.opened]; exact h.pool
  settled := by rw [hs.pool, hs.opening]; exact h.settled

/-- An opening that has come to a point leaves one pending at most. -/
theorem IsSingle.of_advances {γ δ : Gate} (h : γ.IsSingle) (hγ : γ.pool = none)
    (ha : γ.Advances δ) : δ.IsSingle := by
  have hn {p : Nat} : .ok p ∉ γ.opened := by
    rw [← h.pool, hγ]
    rintro ⟨⟩
  obtain ⟨ho, he, hp⟩ | ⟨ho, r, he, hp⟩ := ha
  · rw [hγ] at hp
    refine ⟨?_, fun hp' ↦ by rw [hp] at hp'; cases hp'⟩
    intro p
    rw [hp, he]
    exact iff_of_false (by rintro ⟨⟩) hn
  · rw [hγ, Option.or_none] at hp
    refine ⟨?_, fun _ ↦ ho⟩
    intro p
    rw [hp, he, List.mem_append, or_iff_right hn, List.mem_singleton]
    cases r <;> simp [Except.toOption, eq_comm]

/-- An opening that is pending finds no pool. -/
theorem IsSingle.pool_eq_none {γ : Gate} (h : γ.IsSingle) {φ : OpenPhase}
    (hφ : γ.opening = some φ) : γ.pool = none := by
  cases hp : γ.pool with
  | none => rfl
  | some p =>
    rw [h.settled hp] at hφ
    cases hφ

/-- Whoever waits for the opening of a number that has not ended waits for the pending one. -/
def Awaits (γ : Gate) (n : Nat) : Prop :=
  γ.opened[n]? = none → n = γ.nextOpening ∧ γ.opening.isSome = true

/-- To wait for an opening is a matter of the openings alone. -/
theorem Awaits.of_eq {γ δ : Gate} {n : Nat} (h : γ.Awaits n) (he : δ.opened = γ.opened)
    (ho : δ.opening = γ.opening) : δ.Awaits n := by
  rw [Awaits, he, nextOpening, he, ho]
  exact h

/-- Where nothing moves everybody waits for what they waited for. -/
theorem Awaits.of_still {γ δ : Gate} {n : Nat} (h : γ.Awaits n) (hs : γ.Still δ) :
    δ.Awaits n := h.of_eq hs.opened hs.opening

/-- An opening that has ended is no longer waited for in vain. -/
theorem Awaits.of_advances {γ δ : Gate} {n : Nat} (h : γ.Awaits n) (ha : γ.Advances δ) :
    δ.Awaits n := by
  intro hn
  obtain ⟨ho, he, -⟩ | ⟨-, r, he, -⟩ := ha
  · rw [he] at hn
    rw [nextOpening, he]
    exact ⟨(h hn).1, ho⟩
  · rw [he, List.getElem?_eq_none_iff, List.length_append, List.length_singleton] at hn
    have := (h (List.getElem?_eq_none_iff.mpr (by omega))).1
    rw [nextOpening] at this
    omega

/-- Openings that have ended keep their results. -/
theorem Advances.prefix_opened {γ δ : Gate} (ha : γ.Advances δ) : γ.opened <+: δ.opened := by
  obtain ⟨-, he, -⟩ | ⟨-, r, he, -⟩ := ha
  · exact he ▸ List.prefix_rfl
  · exact he ▸ List.prefix_append ..

/-- The opening that is begun is awaited under the number that is next. -/
theorem Advances.awaits {γ δ : Gate} (ha : γ.Advances δ) : δ.Awaits γ.nextOpening := by
  intro hn
  obtain ⟨ho, he, -⟩ | ⟨-, r, he, -⟩ := ha
  · rw [nextOpening, nextOpening, he]
    exact ⟨rfl, ho⟩
  · rw [he, nextOpening] at hn
    simp at hn

end Gate

end Sluice
