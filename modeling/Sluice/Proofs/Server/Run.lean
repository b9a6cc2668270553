import Sluice.Server.Desk

/-!
# Runs of a desk

A run is a list of moves: orders come and are given up, jobs, processes and the pending opening go
on, and time passes.  The order of the moves is anybody's choice, and so is when a job goes on; what
a desk does of itself is one such run (`exists_moves_workUntil`, `exists_moves_serve`).
-/

namespace Sluice.Server

open Proxy Gate

/-- What may happen at a desk. -/
inductive Move where
  /-- Work on an order begins. -/
  | take (ω : Order)
  /-- The job of a number is given up, or goes on. -/
  | cancel (i : Nat)
  | resume (i : Nat)
  /-- The process of a number acts. -/
  | act (p : Nat)
  /-- The pending opening goes on. -/
  | proceed
  | advance (t : Time)

theorem act?_eq_some_iff {w v : World} :
    w.act? = some v ↔ ∃ t p, w.nextActor? = some (t, p) ∧ t ≤ w.now ∧ v = w.act p := by
  unfold World.act?
  cases w.nextActor? with
  | none => simp
  | some a =>
    obtain ⟨t, p⟩ := a
    simp only [Option.ite_none_right_eq_some, Option.some.injEq, Prod.mk.injEq]
    constructor
    · rintro ⟨ht, rfl⟩
      exact ⟨t, p, ⟨rfl, rfl⟩, ht, rfl⟩
    · rintro ⟨t, p, ⟨rfl, rfl⟩, ht, rfl⟩
      exact ⟨ht, rfl⟩

theorem resumeOpening?_eq_some_iff {γ δ : Gate} :
    γ.resumeOpening? = some δ ↔
      ∃ φ, γ.opening = some φ ∧ φ.isReady γ.world = true ∧ δ = φ.resume γ := by
  unfold Gate.resumeOpening?
  cases γ.opening with
  | none => simp
  | some φ =>
    simp only [Option.ite_none_right_eq_some, Option.some.injEq]
    constructor
    · rintro ⟨hφ, rfl⟩
      exact ⟨φ, rfl, hφ, rfl⟩
    · rintro ⟨φ', rfl, hφ, rfl⟩
      exact ⟨hφ, rfl⟩

namespace Desk

/-! ## Jobs -/

section Jobs

variable {δ : Desk} {i j : Nat} {π : Working}

theorem job?_put_of_ne (hj : j ≠ i) (r : Gate × Working) : (δ.put j r).job? i = δ.job? i := by
  simp [put, job?, hj]

theorem job?_put_self (hi : δ.job? i = some π) (r : Gate × Working) :
    (δ.put i r).job? i = some r.2 := by
  simp [put, job?, (List.getElem?_eq_some_iff.mp hi).1]

theorem job?_put_cases {r : Gate × Working} (hj : (δ.put i r).job? j = some π) :
    (j ≠ i ∧ δ.job? j = some π) ∨ (j = i ∧ π = r.2) := by
  by_cases h : j = i
  · subst h
    simp only [put, job?, List.getElem?_set, if_true] at hj
    split at hj <;> cases hj
    exact .inr ⟨rfl, rfl⟩
  · rw [job?_put_of_ne (Ne.symm h)] at hj
    exact .inl ⟨h, hj⟩

theorem job?_append (hi : δ.job? i = some π) (γ : Gate) (ψ : Working) :
    job? ⟨γ, δ.jobs ++ [ψ]⟩ i = some π := by
  rw [job?, List.getElem?_append_left (List.getElem?_eq_some_iff.mp hi).1]
  exact hi

theorem job?_append_cases {γ : Gate} {ψ : Working} (hj : job? ⟨γ, δ.jobs ++ [ψ]⟩ j = some π) :
    δ.job? j = some π ∨ (j = δ.jobs.length ∧ π = ψ) := by
  rw [job?, List.getElem?_append] at hj
  split at hj
  · exact .inl hj
  · obtain ⟨hl, rfl⟩ := List.getElem?_eq_some_iff.mp hj
    simp only [List.length_singleton] at hl
    exact .inr ⟨by omega, by simp⟩

theorem result?_of_done {r : Except Fault Answer} (h : δ.job? i = some (.done r)) :
    δ.result? i = some r := by rw [result?, h]

theorem isOver_of_done {r : Except Fault Answer} (h : δ.job? i = some (.done r)) :
    δ.isOver i = true := by
  rw [isOver, result?_of_done h]
  rfl

theorem isOver_of_waiting {ψ : JobPhase} (h : δ.job? i = some (.waiting ψ)) :
    δ.isOver i = false := by
  rw [isOver, result?, h]
  rfl

end Jobs

/-! ## Moves -/

/-- Goes on with the pending opening. -/
def proceed (δ : Desk) : Desk :=
  match δ.gate.opening with
  | some φ => { δ with gate := φ.resume δ.gate }
  | none => δ

def move (δ : Desk) : Move → Desk
  | .take ω => (δ.take ω).1
  | .cancel i => δ.cancel i
  | .resume i => δ.resume i
  | .act p => { δ with gate.world := δ.gate.world.act p }
  | .proceed => δ.proceed
  | .advance t => δ.advance t

/-- What becomes of a desk in a run. -/
def moves (δ : Desk) (ms : List Move) : Desk := ms.foldl move δ

@[simp] theorem moves_nil (δ : Desk) : δ.moves [] = δ := rfl

@[simp] theorem moves_cons (δ : Desk) (m : Move) (ms : List Move) :
    δ.moves (m :: ms) = (δ.move m).moves ms := rfl

/-! ## What a desk does of itself -/

/-- A desk does one thing by a move that begins nothing. -/
theorem exists_move_step? {δ ε : Desk} (h : δ.step? = some ε) :
    ∃ m, ε = δ.move m ∧ ∀ ω, m ≠ .take ω := by
  unfold step? at h
  split at h
  next w hw =>
    cases h
    obtain ⟨t, p, -, -, rfl⟩ := act?_eq_some_iff.mp hw
    exact ⟨.act p, rfl, by simp⟩
  next =>
    split at h
    next γ hγ =>
      cases h
      obtain ⟨φ, hφ, -, rfl⟩ := resumeOpening?_eq_some_iff.mp hγ
      exact ⟨.proceed, by simp [move, proceed, hφ], by simp⟩
    next =>
      obtain ⟨i, -, rfl⟩ := Option.map_eq_some_iff.mp h
      exact ⟨.resume i, rfl, by simp⟩

theorem exists_moves_workUntil (enough : Desk → Bool) (n : Nat) (δ : Desk) :
    ∃ ms, δ.workUntil enough n = δ.moves ms ∧ ∀ ω, .take ω ∉ ms := by
  induction n generalizing δ with
  | zero => exact ⟨[], rfl, by simp⟩
  | succ n ih =>
    unfold workUntil
    split
    · exact ⟨[], rfl, by simp⟩
    · split
      next ε hε =>
        obtain ⟨m, rfl, hm⟩ := exists_move_step? hε
        obtain ⟨ms, hms, ht⟩ := ih (δ.move m)
        exact ⟨m :: ms, hms, fun ω hω ↦ by simp [ht, (hm ω).symm] at hω⟩
      next =>
        split
        next t _ =>
          obtain ⟨ms, hms, ht⟩ := ih (δ.advance t)
          exact ⟨.advance t :: ms, hms, by simpa using ht⟩
        next => exact ⟨[], rfl, by simp⟩

/-- To serve an order is to take it and to begin nothing else. -/
theorem exists_moves_serve (δ : Desk) (ω : Order) :
    ∃ ms, (δ.serve ω).1 = δ.moves (.take ω :: ms) ∧ ∀ ω', .take ω' ∉ ms :=
  exists_moves_workUntil _ _ (δ.take ω).1

end Desk

end Sluice.Server
