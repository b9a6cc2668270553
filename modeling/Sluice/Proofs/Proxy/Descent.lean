import Sluice.Proxy.Start

/-!
# How far a start and a stop still have to go

A stop that goes on comes closer to its end (`StopPhase.rank_resume`), and so does a start: it comes
to a later stage, or it looks for the process once more and has less time left for that
(`StartPhase.descends_resume`).
-/

namespace Sluice.Proxy

/-! ## Stops -/

/-- The number of waits that a stop may still come to. -/
def StopPhase.rank : StopPhase → Nat
  | grace .. => 2
  | killed _ => 1

theorem StopPhase.rank_le (φ : StopPhase) : φ.rank ≤ 2 := by
  cases φ <;> simp [rank]

theorem StopPhase.rank_pos (φ : StopPhase) : 0 < φ.rank := by
  cases φ <;> simp [rank]

variable {s p : Nat} {w : World}

theorem StopPhase.rank_resume {φ ψ : StopPhase} (h : (φ.resume s w).2 = .waiting ψ) :
    ψ.rank < φ.rank := by
  cases φ with
  | killed p => cases h
  | grace p t =>
    simp only [resume] at h
    split at h
    · cases h
    · split at h
      · split at h
        · cases h
        · cases h
          exact Nat.lt_succ_self 1
      · cases h

/-! ## Starts -/

/-- How much time is left at `t` until a deadline. -/
def timeLeft (deadline t : Int) : Nat := (deadline - t).toNat

theorem timeLeft_le {d t u : Int} (h : t ≤ u) : timeLeft d u ≤ timeLeft d t := by
  unfold timeLeft
  omega

theorem timeLeft_lt {d t u : Int} (h : t < u) (hd : t < d) : timeLeft d u < timeLeft d t := by
  unfold timeLeft
  omega

theorem lt_add_checkInterval (t : Time) : t < t + checkInterval :=
  Int.lt_add_of_pos_right t (by decide)

namespace StartPhase

/-- The number of kinds of waits that a start may still come to. -/
def stage : StartPhase → Nat
  | clearing φ => 5 + φ.rank
  | fetching _ => 5
  | connecting .. | pausing .. => 4
  | draining .. => 3
  | cleaning φ _ => φ.rank

/-- The time that is left to look for the process; a try to connect comes before a pause. -/
def fuel : StartPhase → Nat
  | connecting _ deadline α => 2 * timeLeft deadline α.ends + 2
  | pausing _ deadline t => 2 * timeLeft deadline t + 1
  | _ => 0

theorem stage_pos (φ : StartPhase) : 0 < φ.stage := by
  cases φ with
  | clearing φ => exact Nat.add_pos_left (Nat.succ_pos 4) _
  | cleaning φ _ => exact φ.rank_pos
  | _ => exact Nat.succ_pos _

/-- A start at `ψ` has less before it than one at `φ`. -/
def Descends (φ ψ : StartPhase) : Prop :=
  ψ.stage < φ.stage ∨ ψ.stage = φ.stage ∧ ψ.fuel < φ.fuel

end StartPhase

namespace World

/-- A start that waits has come to a stage. -/
structure Within (n : Nat) (π : Starting) : Prop where
  stage {φ : StartPhase} : π = .waiting φ → φ.stage ≤ n

theorem Within.mono {n m : Nat} {π : Starting} (h : Within n π) (hm : n ≤ m) : Within m π :=
  ⟨fun hφ ↦ Nat.le_trans (h.stage hφ) hm⟩

theorem within_done {n : Nat} (r : Except Fault Unit) : Within n (.done r) := ⟨by rintro φ ⟨⟩⟩

theorem within_waiting {n : Nat} {φ : StartPhase} (h : φ.stage ≤ n) : Within n (.waiting φ) :=
  ⟨by rintro ψ ⟨⟩; exact h⟩

theorem within_settle (w : World) (s : Nat) (cause : Fault) (π : Stopping) :
    Within 2 (w.settle s cause π).2 := by
  unfold settle
  split
  next φ => exact within_waiting φ.rank_le
  · exact within_done _
  · exact within_done _

theorem within_fail (w : World) (s : Nat) (cause : Fault) : Within 2 (w.fail s cause).2 :=
  within_settle ..

theorem within_afterAttempt (w : World) (s p : Nat) (deadline : Time) (b : Bool) :
    Within 4 (w.afterAttempt s p deadline b).2 := by
  unfold afterAttempt
  split
  · exact within_done _
  · exact within_waiting (Nat.le_refl 4)

theorem within_poll (w : World) (s p : Nat) (deadline : Time) :
    Within 4 (w.poll s p deadline).2 := by
  have hf (cause : Fault) := (w.within_fail s cause).mono (m := 4) (by omega)
  unfold poll
  split
  · exact hf _
  · split
    · split
      · exact within_waiting (Nat.le_succ 3)
      · exact hf _
    · dsimp only
      split
      · exact within_afterAttempt ..
      · exact within_waiting (Nat.le_refl 4)

theorem within_awaitReady (w : World) (s p : Nat) : Within 4 (w.awaitReady s p).2 := by
  unfold awaitReady
  dsimp only
  split
  · exact (within_fail ..).mono (by omega)
  · exact within_poll ..

theorem within_launchProxy (w : World) (s : Nat) (path : File.Path) :
    Within 4 (w.launchProxy s path).2 := by
  unfold launchProxy
  dsimp only
  split
  · split <;> exact within_done _
  · exact within_awaitReady ..

theorem within_obtain (w : World) (s : Nat) : Within 4 (w.obtain s).2 := by
  unfold obtain
  split
  · exact within_done _
  · exact within_launchProxy ..

theorem within_provide (w : World) (s : Nat) : Within 5 (w.provide s).2 := by
  unfold provide
  split
  · exact within_done _
  · split
    · exact within_waiting (Nat.le_refl 5)
    · exact (within_obtain ..).mono (by omega)

/-- Time that is left to look for the process grows less with each try. -/
theorem descends_afterAttempt {deadline : Time} {b : Bool} {φ ψ : StartPhase}
    (hs : φ.stage = 4) (hf : 2 * timeLeft deadline (w.now + checkInterval) + 1 < φ.fuel)
    (h : (w.afterAttempt s p deadline b).2 = .waiting ψ) : φ.Descends ψ := by
  unfold afterAttempt at h
  split at h
  · cases h
  · cases h
    exact .inr ⟨hs.symm, hf⟩

theorem descends_poll {deadline t : Time} {ψ : StartPhase} (ht : t ≤ w.now)
    (h : (w.poll s p deadline).2 = .waiting ψ) : (StartPhase.pausing p deadline t).Descends ψ := by
  have hf (cause : Fault) (h : (w.fail s cause).2 = .waiting ψ) :
      (StartPhase.pausing p deadline t).Descends ψ :=
    .inl (Nat.lt_of_le_of_lt ((w.within_fail s cause).stage h) (by simp [StartPhase.stage]))
  unfold poll at h
  split at h
  · exact hf _ h
  next hd =>
    have hd : t < deadline := Int.lt_of_le_of_lt ht (Int.not_le.mp hd)
    split at h
    · split at h
      · cases h
        exact .inl (Nat.lt_succ_self 3)
      · exact hf _ h
    · dsimp only at h
      split at h
      · refine descends_afterAttempt rfl ?_ h
        have hl := timeLeft_lt (Int.lt_of_le_of_lt ht (lt_add_checkInterval w.now)) hd
        simp only [StartPhase.fuel]
        exact Nat.succ_lt_succ (Nat.mul_lt_mul_of_pos_left hl (by decide))
      next hα =>
        cases h
        refine .inr ⟨rfl, ?_⟩
        have hl := timeLeft_lt (Int.lt_of_le_of_lt ht (Int.not_le.mp hα)) hd
        simp only [StartPhase.fuel]
        omega

end World

/-- A start that goes on in time has less before it. -/
theorem StartPhase.descends_resume {φ ψ : StartPhase} (hr : φ.isReady s w = true)
    (h : (φ.resume s w).2 = .waiting ψ) : φ.Descends ψ := by
  cases φ with
  | clearing φ =>
    simp only [resume, World.cleared] at h
    split at h
    next χ hχ =>
      cases h
      exact .inl (Nat.add_lt_add_left (StopPhase.rank_resume hχ) 5)
    · refine .inl (Nat.lt_of_le_of_lt ((World.within_provide _ s).stage h) ?_)
      cases φ <;> simp [stage, StopPhase.rank]
    · cases h
  | fetching t => exact .inl (Nat.lt_succ_of_le ((World.within_obtain w s).stage h))
  | connecting p deadline α =>
    have hα : α.ends ≤ w.now := by simpa [isReady] using hr
    refine World.descends_afterAttempt rfl ?_ h
    have hl := timeLeft_le (d := deadline)
      (Int.le_of_lt (Int.lt_of_le_of_lt hα (lt_add_checkInterval w.now)))
    simp only [fuel]
    omega
  | pausing p deadline t => exact World.descends_poll (by simpa [isReady] using hr) h
  | draining p n t => exact .inl (Nat.lt_succ_of_le ((World.within_fail _ s _).stage h))
  | cleaning φ cause =>
    simp only [resume, World.settle] at h
    split at h
    next χ hχ =>
      cases h
      exact .inl (StopPhase.rank_resume hχ)
    · cases h
    · cases h

end Sluice.Proxy
