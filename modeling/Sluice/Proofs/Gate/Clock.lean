import Sluice.Proofs.Gate.Pools

/-!
# Work takes no time

Whatever a gate does, whether it begins, goes on or is given up, the clock stands where it stood
before.  Time passes only when somebody lets it pass.
-/

namespace Sluice.Gate

open Proxy

@[simp] theorem now_emit (γ : Gate) (ε : Event) : (γ.emit ε).now = γ.now := rfl

@[simp] theorem now_log (γ : Gate) (ι : Level) (κ : Logger) (m : String) :
    (γ.log ι κ m).now = γ.now := rfl

@[simp] theorem now_closePool (γ : Gate) : γ.closePool.1.now = γ.now := rfl

@[simp] theorem now_conclude (γ : Gate) (r : Except Fault Nat) : (γ.conclude r).now = γ.now := rfl

@[simp] theorem now_await (γ : Gate) (φ : OpenPhase) : (γ.await φ).now = γ.now := rfl

/-- Who stays aloof takes no time. -/
theorem Aloof.now {γ δ : Gate} (h : γ.Aloof δ) : δ.now = γ.now := by
  rw [Gate.now, Gate.now, ← h.world]

@[simp] theorem now_abort (γ : Gate) : γ.abort.now = γ.now := by
  unfold abort
  split
  next s _ => exact (γ.world.works_killChild s).now
  next => rfl

/-! ## Openings -/

@[simp] theorem now_afterUnwinding (γ : Gate) (s : Nat) (cause : Fault) (π : Stopping) :
    (γ.afterUnwinding s cause π).now = γ.now := by
  unfold afterUnwinding
  split <;> rfl

@[simp] theorem now_unwindProxy (γ : Gate) (cause : Fault) :
    (γ.unwindProxy cause).now = γ.now := by
  unfold unwindProxy
  split
  · rfl
  next s _ => exact (now_afterUnwinding ..).trans (γ.world.works_stop s).now

@[simp] theorem now_afterPoolClosed (γ : Gate) (cause : Fault) (o : Option Fault) :
    (γ.afterPoolClosed cause o).now = γ.now := by
  cases o with
  | some φ => rfl
  | none => exact γ.now_unwindProxy cause

@[simp] theorem now_afterPing (γ : Gate) (τ : Target) (p : Nat) (o : Option Fault) :
    (γ.afterPing τ p o).now = γ.now := by
  cases o with
  | some φ =>
    unfold afterPing
    dsimp only
    split <;> simp
  | none => rfl

@[simp] theorem now_afterConnect (γ : Gate) (τ : Target) (o : Option Fault) :
    (γ.afterConnect τ o).now = γ.now := by
  cases o with
  | some φ => exact γ.now_unwindProxy _
  | none =>
    unfold afterConnect
    dsimp only
    split
    · exact now_afterPing ..
    · rfl

/-- To ask for a pool takes no time until the answer comes. -/
@[simp] theorem now_createPool (γ : Gate) : γ.createPool.now = γ.now := by
  unfold createPool
  dsimp only
  split
  · exact γ.now_afterConnect ..
  · split
    · exact now_afterConnect ..
    · rfl

@[simp] theorem now_afterStart (γ : Gate) (s : Nat) (π : Starting) :
    (γ.afterStart s π).now = γ.now := by
  unfold afterStart
  split
  · rfl
  · exact now_createPool _
  · rfl

/-- To begin an opening takes no time. -/
@[simp] theorem now_beginOpening (γ : Gate) : γ.beginOpening.now = γ.now := by
  unfold beginOpening
  split
  · split
    · rfl
    next κ _ =>
      exact (now_afterStart ..).trans
        ((γ.world.addSupervisor κ).works_start γ.world.supervisors.length).now
  · exact γ.now_createPool

@[simp] theorem now_getPool (γ : Gate) : γ.getPool.1.now = γ.now := by
  unfold getPool
  split
  · rfl
  · dsimp only
    split
    · rfl
    · exact γ.now_beginOpening

/-- To go on with an opening takes no time. -/
@[simp] theorem OpenPhase.now_resume (γ : Gate) (φ : OpenPhase) : (φ.resume γ).now = γ.now := by
  cases φ with
  | starting s φ => exact (now_afterStart ..).trans (φ.works_resume s γ.world).now
  | connecting τ t o => exact γ.now_afterConnect τ o
  | pinging τ p t o => exact γ.now_afterPing τ p o
  | unwindingPool t o cause => exact γ.now_afterPoolClosed cause o
  | unwindingProxy s φ cause =>
    exact (now_afterUnwinding ..).trans (φ.works_resume s γ.world).now

/-- To give up an opening takes no time. -/
@[simp] theorem OpenPhase.now_cancel (γ : Gate) (φ : OpenPhase) : (φ.cancel γ).now = γ.now := by
  cases φ with
  | starting s φ => exact (now_afterStart ..).trans (φ.works_cancel s γ.world).now
  | connecting τ t o => rfl
  | pinging τ p t o => rfl
  | unwindingPool t o cause => rfl
  | unwindingProxy s φ cause =>
    exact (now_afterUnwinding _ s cause (StopPhase.cancel s γ.world).2).trans
      (StopPhase.works_cancel s γ.world).now

@[simp] theorem now_cancelOpening (γ : Gate) : γ.cancelOpening.now = γ.now := by
  unfold cancelOpening
  split
  next φ _ => exact φ.now_cancel γ
  next => rfl

/-! ## Closings -/

@[simp] theorem now_afterStop (γ : Gate) (s : Nat) (π : Stopping) :
    (γ.afterStop s π).1.now = γ.now := by
  unfold afterStop
  split <;> rfl

@[simp] theorem now_stopProxy (γ : Gate) : γ.stopProxy.1.now = γ.now := by
  unfold stopProxy
  split
  · rfl
  next s _ => exact (now_afterStop ..).trans (γ.world.works_stop s).now

@[simp] theorem now_afterClosingPool (γ : Gate) (o : Option Fault) :
    (γ.afterClosingPool o).1.now = γ.now := by
  cases o with
  | some φ => rfl
  | none => exact now_stopProxy _

@[simp] theorem now_release (γ : Gate) : γ.release.1.now = γ.now := by
  unfold release
  split
  · exact γ.now_stopProxy
  · dsimp only
    split <;> simp

@[simp] theorem now_afterOpening (γ : Gate) (r : Except Fault Nat) :
    (γ.afterOpening r).1.now = γ.now := by
  cases r with
  | ok p => exact γ.now_release
  | error φ =>
    unfold afterOpening
    dsimp only
    split <;> simp

@[simp] theorem now_awaitOpening (γ : Gate) (n : Nat) : (γ.awaitOpening n).1.now = γ.now := by
  unfold awaitOpening
  split
  · exact γ.now_afterOpening _
  · rfl

/-- To begin a closing takes no time. -/
@[simp] theorem now_close (γ : Gate) : γ.close.1.now = γ.now := by
  unfold close
  split
  · exact γ.now_awaitOpening _
  · exact γ.now_release

/-- To go on with a closing takes no time. -/
@[simp] theorem ClosePhase.now_resume (γ : Gate) (φ : ClosePhase) :
    (φ.resume γ).1.now = γ.now := by
  cases φ with
  | awaitingOpening n => exact γ.now_awaitOpening n
  | awaitingPool t o => exact γ.now_afterClosingPool o
  | stoppingProxy s φ => exact (now_afterStop ..).trans (φ.works_resume s γ.world).now

/-- To give up a closing takes no time. -/
@[simp] theorem ClosePhase.now_cancel (γ : Gate) (φ : ClosePhase) :
    (φ.cancel γ).1.now = γ.now := by
  cases φ with
  | awaitingOpening n => exact (now_awaitOpening ..).trans γ.now_cancelOpening
  | awaitingPool t o => rfl
  | stoppingProxy s φ =>
    exact (now_afterStop _ s (StopPhase.cancel s γ.world).2).trans
      (StopPhase.works_cancel s γ.world).now

/-! ## Shutdowns -/

@[simp] theorem now_settle (γ : Gate) (grace : Value) (ε : Ending) :
    (γ.settle grace ε).1.now = γ.now := by
  cases ε with
  | closed => rfl
  | late => exact now_abort _
  | failed φ => exact now_abort _

@[simp] theorem now_duringShutdown (γ : Gate) (d : Option Time) (grace : Value) (π : Closing) :
    (γ.duringShutdown d grace π).1.now = γ.now := by
  unfold duringShutdown
  split
  · rfl
  · exact γ.now_settle ..
  · split
    · rfl
    · exact γ.now_settle ..

@[simp] theorem now_afterExpiry (γ : Gate) (grace : Value) (π : Closing) :
    (γ.afterExpiry grace π).1.now = γ.now := by
  unfold afterExpiry
  split
  · rfl
  · exact γ.now_settle ..
  · split <;> exact γ.now_settle ..

@[simp] theorem now_afterAbandoning (γ : Gate) (π : Closing) :
    (γ.afterAbandoning π).1.now = γ.now := by
  unfold afterAbandoning
  split <;> rfl

/-- To begin a shutdown takes no time. -/
@[simp] theorem now_shutdown (γ : Gate) (grace : Value) : (γ.shutdown grace).1.now = γ.now := by
  unfold shutdown
  split
  · exact γ.now_settle ..
  · split
    · exact γ.now_settle ..
    · exact (now_duringShutdown ..).trans γ.now_close

/-- To go on with a shutdown takes no time. -/
@[simp] theorem ShutdownPhase.now_resume (γ : Gate) (φ : ShutdownPhase) :
    (φ.resume γ).1.now = γ.now := by
  cases φ with
  | closing d grace φ =>
    unfold ShutdownPhase.resume
    dsimp only
    split <;> simp
  | overdue grace φ => exact (now_afterExpiry ..).trans (φ.now_resume γ)
  | abandoned φ => exact (now_afterAbandoning ..).trans (φ.now_resume γ)

/-- To give up a shutdown takes no time. -/
@[simp] theorem ShutdownPhase.now_cancel (γ : Gate) (φ : ShutdownPhase) :
    (φ.cancel γ).1.now = γ.now := by
  cases φ <;> exact (now_afterAbandoning ..).trans (ClosePhase.now_cancel ..)

end Sluice.Gate
