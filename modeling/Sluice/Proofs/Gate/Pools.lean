import Sluice.Gate.Close
import Sluice.Proofs.Gate.Opening
import Sluice.Proofs.Proxy.Work

/-!
# Accounts of the pools

Every pool that was made is in use, or it is being tried by the pending opening, or it was told to
close: an opening that goes on keeps the books (`Gate.Tally`), and makes one more pool at most.  A
closing tells the pool in use to close, and makes none (`closings_release`).

What goes on beside openings keeps the books too: queries leave everything that counts as it is
(`Gate.Aloof`), and closings only let go of things (`Gate.Withdraws`).
-/

namespace Sluice

/-- Whether an event tells a pool to close. -/
def Event.isClosing : Event → Bool
  | closePool => true
  | _ => false

namespace Gate

open Proxy

/-- How many times a pool was told to close. -/
def closings (γ : Gate) : Nat := γ.world.events.countP Event.isClosing

/-- The closings are among the dealings with the database, so the rest of the record does not
matter. -/
theorem closings_eq (γ : Gate) : γ.closings = γ.world.traffic.countP Event.isClosing := by
  rw [World.traffic, traffic, List.countP_filter, closings]
  congr 1
  funext ε
  cases ε <;> rfl

/-- Work in the world that deals with no database tells no pool to close. -/
theorem closings_withWorld {γ : Gate} {w : World} (h : w.traffic = γ.world.traffic) :
    { γ with world := w }.closings = γ.closings := by
  rw [closings_eq, closings_eq, h]

/-- An event counts if it tells a pool to close. -/
@[simp] theorem closings_emit (γ : Gate) (ε : Event) :
    (γ.emit ε).closings = γ.closings + if ε.isClosing then 1 else 0 := by
  simp [closings, emit, onWorld, World.emit, List.countP_singleton]

@[simp] theorem closings_log (γ : Gate) (ι : Level) (κ : Logger) (s : String) :
    (γ.log ι κ s).closings = γ.closings := γ.closings_emit _

/-- Closing the pool is one closing more. -/
@[simp] theorem closings_closePool (γ : Gate) : γ.closePool.1.closings = γ.closings + 1 := by
  change ((γ.emit .closePool).emit .awaitPool).closings = _
  simp [Event.isClosing]

/-- The answer that a pool gives next when it is closed. -/
theorem fault_closePool {γ : Gate} (h : ∀ o ∈ γ.database.closings, o.fault = none) :
    γ.closePool.2.fault = none := by
  change (γ.database.closings.headD {}).fault = none
  cases hd : γ.database.closings with
  | nil => rfl
  | cons o os => exact h o (by rw [hd]; exact List.mem_cons_self)

/-- The pools that were asked for. -/
def creations (γ : Gate) : List Event := γ.world.events.filter Event.isCreation

/-- Work in the world that deals with no database asks for no pool. -/
theorem creations_withWorld {γ : Gate} {w : World} (h : w.traffic = γ.world.traffic) :
    { γ with world := w }.creations = γ.creations := by
  have hw := congrArg (List.filter Event.isCreation) h
  rwa [World.traffic, World.traffic, filter_isCreation_traffic, filter_isCreation_traffic] at hw

/-- Other events ask for no pool. -/
@[simp] theorem creations_emit (γ : Gate) {ε : Event} (h : ε.isCreation = false) :
    (γ.emit ε).creations = γ.creations := by
  simp [creations, emit, onWorld, World.emit, h]

/-- The pool in use, and the pool that the pending opening tries. -/
def atHand (γ : Gate) : Nat :=
  (if γ.pool.isSome then 1 else 0) +
    match γ.opening with
    | some (.pinging ..) => 1
    | _ => 0

/-- The pool that the pending opening may still make. -/
def ahead (γ : Gate) : Nat :=
  match γ.opening with
  | some (.starting ..) | some (.connecting ..) => 1
  | _ => 0

/-- The pool that is tried at a point of an opening. -/
def OpenPhase.atHand : OpenPhase → Nat
  | pinging .. => 1
  | _ => 0

/-- The pool that may still be made from a point of an opening. -/
def OpenPhase.ahead : OpenPhase → Nat
  | starting .. | connecting .. => 1
  | _ => 0

/-- While an opening is pending the pool at hand is the one that the opening tries. -/
theorem atHand_of_opening {γ : Gate} {φ : OpenPhase} (hp : γ.pool = none)
    (ho : γ.opening = some φ) : γ.atHand = φ.atHand := by
  simp only [atHand, hp, ho]
  cases φ <;> rfl

/-- While an opening is pending what is ahead is what the opening may still make. -/
theorem ahead_of_opening {γ : Gate} {φ : OpenPhase} (ho : γ.opening = some φ) :
    γ.ahead = φ.ahead := by
  simp only [ahead, ho]
  cases φ <;> rfl

/-- From `γ`, with `n` pools at hand, to `δ` the books are kept: the pools that were made are at
hand or were told to close.  One more was made at most if `k` is one, none if it is zero. -/
structure Tally (n k : Nat) (γ δ : Gate) : Prop where
  books : δ.closings + δ.atHand + γ.pools.length = γ.closings + n + δ.pools.length
  made : δ.pools.length + δ.ahead ≤ γ.pools.length + k
  grown : γ.pools.length ≤ δ.pools.length

/-- A gate that does nothing keeps its books. -/
theorem Tally.refl (γ : Gate) : γ.Tally γ.atHand γ.ahead γ := ⟨rfl, Nat.le_refl _, Nat.le_refl _⟩

/-- The books are kept over work in two parts. -/
theorem Tally.trans {n k : Nat} {γ δ ε : Gate} (h : γ.Tally n k δ)
    (h' : δ.Tally δ.atHand δ.ahead ε) : γ.Tally n k ε where
  books := by have := h.books; have := h'.books; omega
  made := by have := h.made; have := h'.made; omega
  grown := Nat.le_trans h.grown h'.grown

/-- The books go on from a gate to which they were kept. -/
theorem Tally.after {n n' k k' : Nat} {γ γ' δ : Gate} (h : γ'.Tally n' k' δ)
    (hc : γ'.closings + n' + γ.pools.length = γ.closings + n + γ'.pools.length)
    (hk : γ'.pools.length + k' ≤ γ.pools.length + k) (hg : γ.pools.length ≤ γ'.pools.length) :
    γ.Tally n k δ where
  books := by have := h.books; omega
  made := Nat.le_trans h.made hk
  grown := Nat.le_trans hg h.grown

/-- The books are kept from a gate with the same pools and closings. -/
theorem Tally.of_eq {n k : Nat} {γ γ' δ : Gate} (h : γ'.Tally n k δ)
    (hc : γ'.closings = γ.closings) (hp : γ'.pools.length = γ.pools.length) : γ.Tally n k δ :=
  h.after (by rw [hc, hp]) (Nat.le_of_eq (by rw [hp])) (Nat.le_of_eq hp.symm)

/-! ## Openings -/

section Opening

variable {γ : Gate}

/-- The pending opening comes to a point with `n` pools at hand. -/
theorem tally_await (γ : Gate) (φ : OpenPhase) {n k : Nat} (hn : (γ.await φ).atHand = n)
    (hk : (γ.await φ).ahead ≤ k) : γ.Tally n k (γ.await φ) :=
  ⟨by rw [hn]; rfl, Nat.add_le_add_left hk _, Nat.le_refl _⟩

/-- An opening that ends has the pool that the gate had, if it had one. -/
theorem tally_conclude (γ : Gate) (r : Except Fault Nat) {n : Nat}
    (hn : (if γ.pool.isSome then 1 else 0) = n) : γ.Tally n 0 (γ.conclude r) :=
  ⟨by rw [← hn]; rfl, Nat.le_refl _, Nat.le_refl _⟩

/-- An opening that failed has no pool, however its supervisor is stopped. -/
theorem tally_afterUnwinding (hp : γ.pool = none) (s : Nat) (cause : Fault) (π : Stopping) :
    γ.Tally 0 0 (γ.afterUnwinding s cause π) := by
  unfold afterUnwinding
  split
  · exact γ.tally_await _ (by simp [atHand, await, hp]) (Nat.le_refl _)
  · exact (tally_conclude { γ with proxy := none } _ (by simp [hp])).of_eq rfl rfl
  · exact γ.tally_conclude _ (by simp [hp])

/-- To undo an opening makes no pool. -/
theorem tally_unwindProxy (hp : γ.pool = none) (cause : Fault) :
    γ.Tally 0 0 (γ.unwindProxy cause) := by
  unfold unwindProxy
  split
  · exact γ.tally_conclude _ (by simp [hp])
  next s _ =>
    have h := tally_afterUnwinding (γ := { γ with world := (γ.world.stop s).1 }) hp s cause
      (γ.world.stop s).2
    exact h.of_eq (closings_withWorld (γ.world.traffic_stop s)) rfl

/-- What follows the closing of a pool that did not answer makes no pool. -/
theorem tally_afterPoolClosed (hp : γ.pool = none) (cause : Fault) (o : Option Fault) :
    γ.Tally 0 0 (γ.afterPoolClosed cause o) := by
  cases o with
  | some φ => exact γ.tally_conclude _ (by simp [hp])
  | none => exact tally_unwindProxy hp cause

/-- The pool that was tried is in use, or it is told to close. -/
theorem tally_afterPing (hp : γ.pool = none) (τ : Target) (p : Nat) (o : Option Fault) :
    γ.Tally 1 0 (γ.afterPing τ p o) := by
  cases o with
  | some φ =>
    have hδ : γ.closePool.1.pool = none := hp
    have hc : γ.closePool.1.closings + 0 + γ.pools.length =
      γ.closings + 1 + γ.closePool.1.pools.length := by rw [closings_closePool]; rfl
    unfold afterPing
    dsimp only
    split
    · exact (tally_afterPoolClosed hδ _ _).after hc (Nat.le_refl _) (Nat.le_refl _)
    · have hn (φ : OpenPhase) (hφ : ∀ τ p t f, φ ≠ .pinging τ p t f) :
          (γ.closePool.1.await φ).atHand = 0 := by
        simp [atHand, await, hδ, hφ]
      exact (tally_await _ _ (hn _ (by simp)) (Nat.le_refl _)).after hc (Nat.le_refl _) (Nat.le_refl _)
  | none =>
    refine Tally.of_eq (tally_conclude _ _ rfl) ?_ rfl
    exact closings_log { γ with pool := some p } ..

/-- A pool that was asked for is at hand, and a failure has none. -/
theorem tally_afterConnect (hp : γ.pool = none) (τ : Target) (o : Option Fault) :
    γ.Tally 0 1 (γ.afterConnect τ o) := by
  cases o with
  | some φ => exact (tally_unwindProxy hp _).after rfl (Nat.le_succ _) (Nat.le_refl _)
  | none =>
    have hc : (γ.emit .ping).closings = γ.closings := γ.closings_emit _
    unfold afterConnect
    dsimp only
    set δ : Gate := { γ.emit .ping with
      pools := γ.pools ++ [Pool.fresh], database.pings := γ.database.pings.tail } with hδ
    have hb : δ.closings + 1 + γ.pools.length = γ.closings + 0 + δ.pools.length := by
      rw [show δ.closings = γ.closings from hc]
      simp [hδ]
      omega
    have hl : δ.pools.length = γ.pools.length + 1 := by simp [hδ]
    have hδp : δ.pool = none := hp
    split
    · exact (tally_afterPing hδp ..).after hb (Nat.le_of_eq hl) (by omega)
    · refine Tally.after (tally_await δ _ ?_ (Nat.le_refl _)) hb (Nat.le_of_eq hl) (by omega)
      simp [atHand, await, hδp]

/-- An opening that asks for a pool makes one at most. -/
theorem tally_createPool (hp : γ.pool = none) : γ.Tally 0 1 γ.createPool := by
  unfold createPool
  dsimp only
  split
  · exact tally_afterConnect hp ..
  next timeout _ =>
    have hc : (γ.emit (.createPool (poolOptions γ.settings γ.target timeout))).closings =
      γ.closings := γ.closings_emit _
    split
    · exact Tally.of_eq (tally_afterConnect (γ := { γ.emit (.createPool
        (poolOptions γ.settings γ.target timeout)) with
          database.connects := γ.database.connects.tail }) hp ..) hc rfl
    · refine Tally.of_eq (tally_await { γ.emit (.createPool
        (poolOptions γ.settings γ.target timeout)) with
          database.connects := γ.database.connects.tail } _ ?_ (Nat.le_refl _)) hc rfl
      simp [atHand, await, emit, onWorld, hp]

/-- An opening whose proxy has started makes one pool at most. -/
theorem tally_afterStart (hp : γ.pool = none) (s : Nat) (π : Starting) :
    γ.Tally 0 1 (γ.afterStart s π) := by
  unfold afterStart
  split
  · exact γ.tally_await _ (by simp [atHand, await, hp]) (Nat.le_refl _)
  · exact (tally_createPool (γ := { γ with proxy := some s }) hp).of_eq rfl rfl
  · exact (γ.tally_conclude _ (by simp [hp])).after rfl (Nat.le_succ _) (Nat.le_refl _)

/-- An opening that begins keeps the books. -/
theorem tally_beginOpening (hp : γ.pool = none) : γ.Tally 0 1 γ.beginOpening := by
  unfold beginOpening
  split
  · cases γ.settings.proxy with
    | error φ =>
      exact (γ.tally_conclude _ (by simp [hp])).after rfl (Nat.le_succ _) (Nat.le_refl _)
    | ok κ =>
      set r := (γ.world.addSupervisor κ).start γ.world.supervisors.length with hr
      have h := tally_afterStart (γ := { γ with world := r.1 }) hp γ.world.supervisors.length r.2
      refine h.of_eq (closings_withWorld ?_) rfl
      exact (World.traffic_start _ _).trans (γ.world.traffic_addSupervisor κ)
  · exact tally_createPool hp

/-- An opening that goes on keeps the books. -/
theorem OpenPhase.tally_resume (hp : γ.pool = none) {φ : OpenPhase} (hφ : γ.opening = some φ) :
    γ.Tally γ.atHand γ.ahead (φ.resume γ) := by
  rw [atHand_of_opening hp hφ, ahead_of_opening hφ]
  cases φ with
  | starting s φ =>
    have h := tally_afterStart (γ := { γ with world := (φ.resume s γ.world).1 }) hp s
      (φ.resume s γ.world).2
    exact h.of_eq (closings_withWorld (φ.traffic_resume s γ.world)) rfl
  | connecting τ t o => exact tally_afterConnect hp τ o
  | pinging τ p t o => exact tally_afterPing hp τ p o
  | unwindingPool t o cause => exact tally_afterPoolClosed hp cause o
  | unwindingProxy s φ cause =>
    have h := tally_afterUnwinding (γ := { γ with world := (φ.resume s γ.world).1 }) hp s cause
      (φ.resume s γ.world).2
    exact h.of_eq (closings_withWorld (φ.traffic_resume s γ.world)) rfl

end Opening

/-! ## Closings -/

/-- From `γ` to `δ` nothing is begun or made, and things may be let go of. -/
structure Withdraws (γ δ : Gate) : Prop where
  opening : δ.opening = γ.opening
  opened : δ.opened = γ.opened
  pools : δ.pools = γ.pools
  pool {p : Nat} : δ.pool = some p → γ.pool = some p
  proxy {s : Nat} : δ.proxy = some s → γ.proxy = some s
  children : δ.world.children.length = γ.world.children.length
  signalled {p : Nat} : p < γ.world.children.length →
    (γ.world.child p).Signalled (δ.world.child p)
  creations : δ.creations = γ.creations
  answers {o : Outcome} : o ∈ δ.database.closings → o ∈ γ.database.closings

section Withdraws

variable {γ δ ε : Gate}

/-- Work that leaves the pools and the openings alone withdraws at most. -/
theorem Withdraws.of_eq (ho : δ.opening = γ.opening) (he : δ.opened = γ.opened)
    (hp : δ.pools = γ.pools) (hq : ∀ p, δ.pool = some p → γ.pool = some p)
    (hx : ∀ s, δ.proxy = some s → γ.proxy = some s)
    (hc : δ.world.children = γ.world.children) (hr : δ.creations = γ.creations)
    (ha : ∀ o ∈ δ.database.closings, o ∈ γ.database.closings) : γ.Withdraws δ where
  opening := ho
  opened := he
  pools := hp
  pool := hq _
  proxy := hx _
  children := by rw [hc]
  signalled {p} _ := by
    have hχ : δ.world.child p = γ.world.child p := by rw [World.child, hc, World.child]
    exact hχ ▸ .refl _
  creations := hr
  answers := ha _

/-- Who does nothing withdraws nothing. -/
theorem Withdraws.refl (γ : Gate) : γ.Withdraws γ :=
  .of_eq rfl rfl rfl (fun _ ↦ id) (fun _ ↦ id) rfl rfl fun _ ↦ id

/-- Withdrawals add up. -/
theorem Withdraws.trans (h : γ.Withdraws δ) (h' : δ.Withdraws ε) : γ.Withdraws ε where
  opening := h'.opening.trans h.opening
  opened := h'.opened.trans h.opened
  pools := h'.pools.trans h.pools
  pool hp := h.pool (h'.pool hp)
  proxy hs := h.proxy (h'.proxy hs)
  children := h'.children.trans h.children
  signalled hp := (h.signalled hp).trans (h'.signalled (h.children ▸ hp))
  creations := h'.creations.trans h.creations
  answers ho := h.answers (h'.answers ho)

/-- A supervisor stops its process. -/
theorem withdraws_withWorld {s : Nat} {w : World} (hw : γ.world.Works s w)
    (hl : w.children.length = γ.world.children.length) (ht : w.traffic = γ.world.traffic) :
    γ.Withdraws { γ with world := w } where
  opening := rfl
  opened := rfl
  pools := rfl
  pool := id
  proxy := id
  children := hl
  signalled := hw.signalled
  creations := creations_withWorld ht
  answers := id

/-- To make a record brings nothing up, unless it asks for a pool. -/
theorem withdraws_emit (γ : Gate) {ε : Event} (h : ε.isCreation = false) :
    γ.Withdraws (γ.emit ε) :=
  .of_eq rfl rfl rfl (fun _ ↦ id) (fun _ ↦ id) rfl (γ.creations_emit h) fun _ ↦ id

/-- To tell the pool to close brings nothing up. -/
theorem withdraws_closePool (γ : Gate) : γ.Withdraws γ.closePool.1 := by
  refine .of_eq rfl rfl rfl (fun _ ↦ id) (fun _ ↦ id) rfl ?_ fun _ ↦ List.mem_of_mem_tail
  exact ((γ.emit .closePool).creations_emit rfl).trans (γ.creations_emit rfl)

/-- After the stop of the supervisor nothing is brought up. -/
theorem withdraws_afterStop (γ : Gate) (s : Nat) (π : Stopping) :
    γ.Withdraws (γ.afterStop s π).1 := by
  unfold afterStop
  split
  · exact .refl γ
  · exact .of_eq rfl rfl rfl (fun _ ↦ id) (by rintro _ ⟨⟩) rfl rfl fun _ ↦ id
  · exact .refl γ

/-- To stop the supervisor brings nothing up. -/
theorem withdraws_stopProxy (γ : Gate) : γ.Withdraws γ.stopProxy.1 := by
  unfold stopProxy
  split
  · exact .refl γ
  next s _ =>
    exact (withdraws_withWorld (γ.world.works_stop s) (γ.world.length_stop s)
      (γ.world.traffic_stop s)).trans (withdraws_afterStop ..)

/-- After the pool has closed nothing is brought up. -/
theorem withdraws_afterClosingPool (γ : Gate) (o : Option Fault) :
    γ.Withdraws (γ.afterClosingPool o).1 := by
  cases o with
  | some φ => exact .refl γ
  | none =>
    have h : γ.Withdraws ({ γ with pool := none }.log .info .pool "DB pool closed") :=
      .of_eq rfl rfl rfl (by rintro _ ⟨⟩) (fun _ ↦ id) rfl
        (creations_emit { γ with pool := none } rfl) fun _ ↦ id
    exact h.trans (withdraws_stopProxy _)

/-- To let go of the pool and the supervisor brings nothing up. -/
theorem withdraws_release (γ : Gate) : γ.Withdraws γ.release.1 := by
  unfold release
  split
  · exact γ.withdraws_stopProxy
  · dsimp only
    split
    · exact γ.withdraws_closePool.trans (withdraws_afterClosingPool ..)
    · exact γ.withdraws_closePool

/-- However the pending opening has ended, a closing brings nothing up then. -/
theorem withdraws_afterOpening (γ : Gate) (r : Except Fault Nat) :
    γ.Withdraws (γ.afterOpening r).1 := by
  cases r with
  | ok p => exact γ.withdraws_release
  | error φ =>
    unfold afterOpening
    dsimp only
    split
    · exact .refl γ
    · exact (γ.withdraws_emit rfl).trans (withdraws_release _)

/-- To wait for the pending opening brings nothing up. -/
theorem withdraws_awaitOpening (γ : Gate) (n : Nat) : γ.Withdraws (γ.awaitOpening n).1 := by
  unfold awaitOpening
  split
  · exact γ.withdraws_afterOpening _
  · exact .refl γ

/-- A closing that begins brings nothing up. -/
theorem withdraws_close (γ : Gate) : γ.Withdraws γ.close.1 := by
  unfold close
  split
  · exact γ.withdraws_awaitOpening _
  · exact γ.withdraws_release

/-- A closing that goes on brings nothing up. -/
theorem ClosePhase.withdraws_resume (γ : Gate) (φ : ClosePhase) : γ.Withdraws (φ.resume γ).1 := by
  cases φ with
  | awaitingOpening n => exact γ.withdraws_awaitOpening n
  | awaitingPool t o => exact γ.withdraws_afterClosingPool o
  | stoppingProxy s φ =>
    exact (withdraws_withWorld (φ.works_resume s γ.world) (φ.length_resume s γ.world)
      (φ.traffic_resume s γ.world)).trans (withdraws_afterStop ..)

/-- A closing that is given up while it waits for an opening gives that up first. -/
theorem ClosePhase.withdraws_cancel (γ : Gate) (φ : ClosePhase) :
    γ.Withdraws (φ.cancel γ).1 ∨ ∃ n, φ = .awaitingOpening n ∧
      γ.cancelOpening.Withdraws (φ.cancel γ).1 := by
  cases φ with
  | awaitingOpening n => exact .inr ⟨n, rfl, withdraws_awaitOpening ..⟩
  | awaitingPool t o => exact .inl (.refl γ)
  | stoppingProxy s φ =>
    exact .inl ((withdraws_withWorld (StopPhase.works_cancel s γ.world)
      (StopPhase.length_cancel s γ.world) (StopPhase.traffic_cancel s γ.world)).trans
        (withdraws_afterStop _ s (StopPhase.cancel s γ.world).2))

/-- Whoever waits for an opening still does when a closing is given up. -/
theorem Awaits.cancel {n : Nat} (h : γ.Awaits n) (φ : ClosePhase) : (φ.cancel γ).1.Awaits n := by
  obtain hw | ⟨m, -, hw⟩ := φ.withdraws_cancel γ
  · exact h.of_eq hw.opened hw.opening
  · obtain ha | ⟨-, ha⟩ := γ.cancelOpening_cases
    · exact (h.of_advances ha).of_eq hw.opened hw.opening
    · rw [ha] at hw
      exact h.of_eq hw.opened hw.opening

/-- To kill the proxy brings nothing up. -/
theorem withdraws_abort (γ : Gate) : γ.Withdraws γ.abort := by
  unfold abort
  split
  next s _ =>
    exact withdraws_withWorld (γ.world.works_killChild s) (γ.world.length_killChild s)
      (γ.world.traffic_killChild s)
  next => exact .refl γ

end Withdraws

/-! ### What a closing tells the pool -/

section Release

variable {γ : Gate}

/-- To stop the supervisor tells no pool to close. -/
@[simp] theorem closings_afterStop (γ : Gate) (s : Nat) (π : Stopping) :
    (γ.afterStop s π).1.closings = γ.closings := by
  unfold afterStop
  split <;> rfl

@[simp] theorem closings_stopProxy (γ : Gate) : γ.stopProxy.1.closings = γ.closings := by
  unfold stopProxy
  split
  · rfl
  next s _ => exact (closings_afterStop ..).trans (closings_withWorld (γ.world.traffic_stop s))

/-- What follows the closing of a pool tells no other one to close. -/
@[simp] theorem closings_afterClosingPool (γ : Gate) (o : Option Fault) :
    (γ.afterClosingPool o).1.closings = γ.closings := by
  cases o with
  | some φ => rfl
  | none => exact (closings_stopProxy _).trans (closings_log { γ with pool := none } ..)

/-- A closing tells the pool in use to close, once. -/
theorem closings_release (γ : Gate) :
    γ.release.1.closings = γ.closings + if γ.pool.isSome then 1 else 0 := by
  unfold release
  split
  next hp => simp [hp]
  next p hp =>
    dsimp only
    split <;> simp [hp]

/-- A closing that waits for no opening tells no pool to close when it goes on. -/
theorem ClosePhase.closings_resume {φ : ClosePhase} (hφ : ∀ n, φ ≠ .awaitingOpening n) :
    (φ.resume γ).1.closings = γ.closings := by
  cases φ with
  | awaitingOpening n => exact absurd rfl (hφ n)
  | awaitingPool t o => exact closings_afterClosingPool ..
  | stoppingProxy s φ =>
    exact (closings_afterStop ..).trans (closings_withWorld (φ.traffic_resume s γ.world))

/-- Where a closing stands that has done with openings. -/
structure IsReleasing (r : Gate × Closing) : Prop where
  past (n : Nat) : r.2 ≠ .waiting (.awaitingOpening n)
  stopping {s : Nat} {φ : StopPhase} : r.2 = .waiting (.stoppingProxy s φ) → r.1.pool = none
  done : r.2 = .done (.ok ()) → r.1.pool = none ∧ r.1.proxy = none

/-- A closing that has stopped the supervisor is done with openings. -/
theorem isReleasing_afterStop (hp : γ.pool = none) (s : Nat) (π : Stopping) :
    IsReleasing (γ.afterStop s π) := by
  unfold afterStop
  split
  · exact ⟨by simp, fun _ ↦ hp, by simp⟩
  · exact ⟨by simp, by simp, fun _ ↦ ⟨hp, rfl⟩⟩
  · exact ⟨by simp, by simp, by simp⟩

/-- A closing that stops the supervisor is done with openings. -/
theorem isReleasing_stopProxy (hp : γ.pool = none) : IsReleasing γ.stopProxy := by
  unfold stopProxy
  split
  next hx => exact ⟨by simp, by simp, fun _ ↦ ⟨hp, hx⟩⟩
  next s _ => exact isReleasing_afterStop (γ := { γ with world := (γ.world.stop s).1 }) hp s _

/-- A closing whose pool has closed is done with openings. -/
theorem isReleasing_afterClosingPool (γ : Gate) (o : Option Fault) :
    IsReleasing (γ.afterClosingPool o) := by
  cases o with
  | some φ => exact ⟨by simp [afterClosingPool], by simp [afterClosingPool], by simp [afterClosingPool]⟩
  | none => exact isReleasing_stopProxy rfl

/-- A closing that lets go of what is in use is done with openings. -/
theorem isReleasing_release (γ : Gate) : IsReleasing γ.release := by
  unfold release
  split
  next hp => exact isReleasing_stopProxy hp
  · dsimp only
    split
    · exact isReleasing_afterClosingPool ..
    · exact ⟨by simp, by simp, by simp⟩

/-- A closing whose opening has ended is done with openings. -/
theorem isReleasing_afterOpening (γ : Gate) (r : Except Fault Nat) :
    IsReleasing (γ.afterOpening r) := by
  cases r with
  | ok p => exact γ.isReleasing_release
  | error φ =>
    unfold afterOpening
    dsimp only
    split
    · exact ⟨by simp, by simp, by simp⟩
    · exact isReleasing_release _

/-- A closing that waits for an opening waits for one that has not ended. -/
theorem eq_of_awaitOpening {n m : Nat}
    (h : (γ.awaitOpening n).2 = .waiting (.awaitingOpening m)) :
    m = n ∧ (γ.awaitOpening n).1 = γ ∧ γ.opened[n]? = none := by
  unfold awaitOpening at h ⊢
  split at h
  next r hr => exact absurd h ((γ.isReleasing_afterOpening r).past m)
  next hn =>
    cases h
    exact ⟨rfl, rfl, hn⟩

/-- A closing that begins to wait for an opening waits for the pending one and has done nothing
else. -/
theorem eq_of_close {m : Nat} (h : γ.close.2 = .waiting (.awaitingOpening m)) :
    m = γ.nextOpening ∧ γ.close.1 = γ ∧ γ.opening.isSome = true := by
  unfold close at h ⊢
  split at h
  next ho =>
    rw [if_pos ho]
    exact ⟨(eq_of_awaitOpening h).1, (eq_of_awaitOpening h).2.1, ho⟩
  next => exact absurd h (γ.isReleasing_release.past m)

/-- A closing that stops the supervisor does not wait for an opening. -/
theorem afterStop_ne_awaiting (γ : Gate) (s : Nat) (π : Stopping) (n : Nat) :
    (γ.afterStop s π).2 ≠ .waiting (.awaitingOpening n) := by
  unfold afterStop
  split <;> simp

/-- A closing that waits for an opening when it has gone on has waited for it before. -/
theorem ClosePhase.eq_of_resume {φ : ClosePhase} {n : Nat}
    (h : (φ.resume γ).2 = .waiting (.awaitingOpening n)) : φ = .awaitingOpening n := by
  cases φ with
  | awaitingOpening m => rw [(eq_of_awaitOpening h).1]
  | awaitingPool t o => exact absurd h ((γ.isReleasing_afterClosingPool o).past n)
  | stoppingProxy s φ => exact absurd h (afterStop_ne_awaiting _ _ _ _)

/-- Nor does a closing that is given up come to wait for another opening. -/
theorem ClosePhase.eq_of_cancel {φ : ClosePhase} {n : Nat}
    (h : (φ.cancel γ).2 = .waiting (.awaitingOpening n)) : φ = .awaitingOpening n := by
  cases φ with
  | awaitingOpening m => rw [(eq_of_awaitOpening h).1]
  | awaitingPool t o => cases h
  | stoppingProxy s φ => exact absurd h (afterStop_ne_awaiting _ _ _ _)

/-- A closing that no longer waits for an opening is done with openings. -/
theorem ClosePhase.isReleasing_resume {φ : ClosePhase} (hφ : ∀ n, φ ≠ .awaitingOpening n)
    (hs : ∀ s ψ, φ = .stoppingProxy s ψ → γ.pool = none) : IsReleasing (φ.resume γ) := by
  cases φ with
  | awaitingOpening n => exact absurd rfl (hφ n)
  | awaitingPool t o => exact isReleasing_afterClosingPool ..
  | stoppingProxy s φ =>
    exact isReleasing_afterStop (γ := { γ with world := (φ.resume s γ.world).1 }) (hs s φ rfl) s _

end Release

/-! ## Queries -/

/-- From `γ` to `δ` only records were made, connections taken and given back, and replies got. -/
structure Aloof (γ δ : Gate) : Prop where
  world : { δ.world with events := γ.world.events } = γ.world
  settings : δ.settings = γ.settings
  answers : δ.database.closings = γ.database.closings
  pools : δ.pools.length = γ.pools.length
  pool : δ.pool = γ.pool
  proxy : δ.proxy = γ.proxy
  opening : δ.opening = γ.opening
  opened : δ.opened = γ.opened
  closings : δ.closings = γ.closings
  creations : δ.creations = γ.creations

namespace Aloof

variable {γ δ ε : Gate}

/-- Who does nothing stays aloof. -/
theorem refl (γ : Gate) : γ.Aloof γ := ⟨rfl, rfl, rfl, rfl, rfl, rfl, rfl, rfl, rfl, rfl⟩

/-- Aloofness adds up. -/
theorem trans (h : γ.Aloof δ) (h' : δ.Aloof ε) : γ.Aloof ε where
  world := by
    rw [← h.world, ← h'.world]
  settings := h'.settings.trans h.settings
  answers := h'.answers.trans h.answers
  pools := h'.pools.trans h.pools
  pool := h'.pool.trans h.pool
  proxy := h'.proxy.trans h.proxy
  opening := h'.opening.trans h.opening
  opened := h'.opened.trans h.opened
  closings := h'.closings.trans h.closings
  creations := h'.creations.trans h.creations

/-- Who stays aloof leaves the processes alone. -/
theorem children (h : γ.Aloof δ) : δ.world.children = γ.world.children := by
  rw [← h.world]

/-- Who stays aloof leaves the supervisors alone. -/
theorem supervisors (h : γ.Aloof δ) : δ.world.supervisors = γ.world.supervisors := by
  rw [← h.world]

end Aloof

/-- A record about no pool changes nothing else. -/
theorem aloof_emit (γ : Gate) {ε : Event} (h : ε.isClosing = false) (h' : ε.isCreation = false) :
    γ.Aloof (γ.emit ε) :=
  { Aloof.refl γ with
    closings := by simp [h]
    creations := γ.creations_emit h' }

/-- Connections of a pool may be taken and given back. -/
theorem aloof_onPool (γ : Gate) (p : Nat) (f : Pool → Pool) : γ.Aloof (γ.onPool p f) :=
  { Aloof.refl γ with pools := List.length_modify .. }

/-- A query that is over gives its connection back. -/
theorem aloof_finishRun (γ : Gate) (p : Nat) (budget : Value) (ρ : Reply) :
    γ.Aloof (γ.finishRun p budget ρ).1 := γ.aloof_onPool p _

/-- A query takes a connection and waits for the reply. -/
theorem aloof_run (γ : Gate) (p : Nat) (ρ : Request) : γ.Aloof (γ.run p ρ).1 := by
  unfold run
  split
  · exact .refl γ
  · dsimp only
    split
    · exact .refl γ
    · split
      · exact .refl γ
      · have h : γ.Aloof ((γ.onPool p Pool.acquire).log .debug .pool
            ("DB pool acquire: used=" ++ toString ((γ.onPool p Pool.acquire).poolAt p).used ++
              " total=" ++ toString ((γ.onPool p Pool.acquire).poolAt p).size)) :=
          (γ.aloof_onPool p _).trans (aloof_emit _ rfl rfl)
        generalize (γ.onPool p Pool.acquire).log .debug .pool _ = δ at h ⊢
        split
        · exact h.trans (aloof_onPool ..)
        next params _ =>
          have hr : (δ.emit (.query ρ.text params)).Aloof { δ.emit (.query ρ.text params) with
              database.replies := δ.database.replies.tail } :=
            ⟨rfl, rfl, rfl, rfl, rfl, rfl, rfl, rfl, rfl, rfl⟩
          have hq := (h.trans (δ.aloof_emit (ε := .query ρ.text params) rfl rfl)).trans hr
          split
          · exact hq.trans (aloof_finishRun ..)
          · exact hq

/-- A query that has waited for a pool goes on with it. -/
theorem aloof_afterGetting (γ : Gate) (ρ : Request) (π : Getting) :
    γ.Aloof (γ.afterGetting ρ π).1 := by
  unfold afterGetting
  split
  · exact .refl γ
  · exact γ.aloof_run ..
  · exact .refl γ

/-- A query that goes on stays aloof. -/
theorem RunPhase.aloof_resume (γ : Gate) (φ : RunPhase) : γ.Aloof (φ.resume γ).1 := by
  cases φ with
  | joining n ρ => exact γ.aloof_afterGetting ρ _
  | running p t d budget reply =>
    unfold RunPhase.resume
    dsimp only
    split
    · exact γ.aloof_onPool ..
    · exact γ.aloof_finishRun ..

/-- A query that is given up stays aloof. -/
theorem RunPhase.aloof_cancel (γ : Gate) (φ : RunPhase) : γ.Aloof (φ.cancel γ).1 := by
  cases φ with
  | joining n ρ => exact .refl γ
  | running p t d budget reply => exact γ.aloof_onPool ..

end Gate

end Sluice
