import Sluice.Proofs.Gate.Custody
import Sluice.Proofs.Gate.Pools

/-!
# A closing from its beginning to its end

While nobody comes, a gate subsides: no opening is begun, and with none pending nothing is brought
up again (`Gate.Subsides`).  A closing that waits for an opening finds the books kept; once it is
past that, each pool that was concerned was told to close, once (`Gate.Told`), and when it has ended
well there is no pool and no supervisor in use (`Gate.Comes`).
-/

namespace Sluice.Gate

open Proxy

/-! ## Pools that are concerned -/

/-- The number of pools that were at hand at `γ` or were made since. -/
def concerned (γ δ : Gate) : Nat := γ.atHand + (δ.pools.length - γ.pools.length)

/-- One pool at most is concerned, and as many were told to close. -/
def Told (γ δ : Gate) : Prop :=
  γ.concerned δ ≤ 1 ∧ δ.closings = γ.closings + γ.concerned δ

/-- With a pool in use no opening is pending; so one pool at most is at hand or ahead. -/
theorem IsKept.atHand_add_ahead_le {b : Prop} {γ : Gate} {S : Nat → StopPhase → Prop} (h : γ.IsKept b S) :
    γ.atHand + γ.ahead ≤ 1 := by
  cases ho : γ.opening with
  | none =>
    simp only [atHand, ahead, ho]
    split <;> omega
  | some φ =>
    have hp := h.pool_eq_none ho
    cases φ <;> simp [atHand, ahead, ho, hp]

/-- Books that are kept: with no opening pending, all is told once the pool in use is. -/
theorem Tally.told {γ γ' δ : Gate} (h : γ.Tally γ.atHand γ.ahead γ')
    (hle : γ.atHand + γ.ahead ≤ 1) (ho : γ'.opening = none)
    (hc : δ.closings = γ'.closings + if γ'.pool.isSome then 1 else 0)
    (hp : δ.pools.length = γ'.pools.length) : γ.Told δ := by
  have h1 := h.books
  have h2 := h.made
  have h3 := h.grown
  have h4 : γ'.atHand = if γ'.pool.isSome then 1 else 0 := by simp [atHand, ho]
  have h5 : γ'.ahead = 0 := by simp [ahead, ho]
  unfold Told concerned
  omega

/-- How many pools were concerned is told by the closings and by how many pools there are. -/
theorem Told.of_eq {γ δ ε : Gate} (h : γ.Told δ) (hc : ε.closings = δ.closings)
    (hp : ε.pools.length = δ.pools.length) : γ.Told ε := by
  unfold Told concerned at h ⊢
  rwa [hc, hp]

/-! ## Gates that subside -/

/-- Every process is over. -/
def IsSpent (γ : Gate) : Prop :=
  ∀ p < γ.world.children.length, (γ.world.child p).IsSpent

/-- From `γ` to `δ` no opening was begun, and with none pending nothing was brought up. -/
structure Subsides (γ δ : Gate) : Prop where
  opening : γ.opening = none → δ.opening = none
  expects {n : Nat} : (γ.opening.isSome = true → γ.opened.length = n) →
    δ.opening.isSome = true → δ.opened.length = n
  pool : γ.opening = none → γ.pool = none → δ.pool = none
  proxy : γ.opening = none → γ.proxy = none → δ.proxy = none
  isSpent : γ.opening = none → γ.IsSpent → δ.IsSpent

/-- From `γ` to `δ` the books were kept, and with no opening pending nothing was made or told. -/
structure Balances (γ δ : Gate) : Prop where
  tally : γ.Tally γ.atHand γ.ahead δ
  closings : γ.opening = none → δ.closings = γ.closings
  pools : γ.opening = none → δ.pools.length = γ.pools.length

variable {b : Prop} {γ δ ε : Gate} {S : Nat → StopPhase → Prop}

/-- What subsides step by step subsides. -/
theorem Subsides.trans (h : γ.Subsides δ) (h' : δ.Subsides ε) : γ.Subsides ε where
  opening ho := h'.opening (h.opening ho)
  expects hn := h'.expects (h.expects hn)
  pool ho hp := h'.pool (h.opening ho) (h.pool ho hp)
  proxy ho hx := h'.proxy (h.opening ho) (h.proxy ho hx)
  isSpent ho hs := h'.isSpent (h.opening ho) (h.isSpent ho hs)

/-- What only lets go of things lets the gate subside. -/
theorem Withdraws.subsides (h : γ.Withdraws δ) : γ.Subsides δ where
  opening ho := h.opening.trans ho
  expects hn := by rwa [h.opening, h.opened]
  pool _ hp := by
    cases hq : δ.pool with
    | none => rfl
    | some p => exact (h.pool hq).symm.trans hp ▸ rfl
  proxy _ hx := by
    cases hq : δ.proxy with
    | none => rfl
    | some s => exact (h.proxy hq).symm.trans hx ▸ rfl
  isSpent _ hs p hp := (h.signalled (h.children ▸ hp)).isSpent (hs p (h.children ▸ hp))

/-- Records and replies begin nothing as long as they make no pool. -/
theorem Aloof.withdraws (h : γ.Aloof δ) (hp : δ.pools = γ.pools) : γ.Withdraws δ :=
  .of_eq h.opening h.opened hp (fun _ hq ↦ h.pool ▸ hq) (fun _ hx ↦ h.proxy ▸ hx) h.children
    h.creations fun _ ho ↦ h.answers ▸ ho

/-- A gate subsides if it holds what it held and no process comes to life. -/
theorem subsides_of_eq (ho : δ.opening = γ.opening) (he : δ.opened = γ.opened)
    (hp : δ.pool = γ.pool) (hx : δ.proxy = γ.proxy) (hs : γ.IsSpent → δ.IsSpent) :
    γ.Subsides δ where
  opening h := ho.trans h
  expects hn := by rwa [ho, he]
  pool _ h := hp.trans h
  proxy _ h := hx.trans h
  isSpent _ := hs

/-- Whether every process is over is told by the processes. -/
theorem IsSpent.of_eq (h : γ.IsSpent) (hc : δ.world.children = γ.world.children) : δ.IsSpent := by
  intro p hp
  have hχ : δ.world.child p = γ.world.child p := by rw [World.child, hc, World.child]
  rw [hχ]
  exact h p (hc ▸ hp)

/-- Records and replies let the gate subside. -/
theorem Aloof.subsides (h : γ.Aloof δ) : γ.Subsides δ :=
  subsides_of_eq h.opening h.opened h.pool h.proxy (·.of_eq h.children)

/-- The books are balanced as long as no pool is made or told to close. -/
theorem balances_of_eq (ho : δ.opening = γ.opening) (hp : δ.pool = γ.pool)
    (hl : δ.pools.length = γ.pools.length) (hc : δ.closings = γ.closings) : γ.Balances δ where
  tally := by
    have hn : δ.atHand = γ.atHand := by rw [atHand, hp, ho, atHand]
    have hk : δ.ahead = γ.ahead := by rw [ahead, ho, ahead]
    exact ⟨by rw [hn, hc, hl], Nat.le_of_eq (by rw [hk, hl]), Nat.le_of_eq hl.symm⟩
  closings _ := hc
  pools _ := hl

/-- Records and replies do not change the books. -/
theorem Aloof.balances (h : γ.Aloof δ) : γ.Balances δ :=
  balances_of_eq h.opening h.pool h.pools h.closings

/-- A gate subsides when a process acts. -/
theorem subsides_act (γ : Gate) (p : Nat) : γ.Subsides { γ with world := γ.world.act p } :=
  subsides_of_eq rfl rfl rfl rfl fun hs q hq ↦ by
    have ha := γ.world.alike_act_absent p
    exact (hs q (ha.children ▸ hq)).imp (ha.ended q) (ha.killed q)

/-- The books do not change when a process acts. -/
theorem balances_act (γ : Gate) (p : Nat) : γ.Balances { γ with world := γ.world.act p } :=
  balances_of_eq rfl rfl rfl (closings_withWorld (γ.world.traffic_act p))

/-- An opening that ends leaves none pending. -/
theorem Advances.subsides (h : γ.Advances δ) (ho : γ.opening ≠ none) : γ.Subsides δ where
  opening hn := absurd hn ho
  expects hn hs := by
    obtain ⟨-, he, -⟩ | ⟨hd, -⟩ := h
    · rw [he]
      exact hn (Option.ne_none_iff_isSome.mp ho)
    · rw [hd] at hs
      cases hs
  pool hn := absurd hn ho
  proxy hn := absurd hn ho
  isSpent hn := absurd hn ho

/-- A gate subsides when its opening goes on. -/
theorem OpenPhase.subsides_resume {φ : OpenPhase} (ho : γ.opening = some φ) :
    γ.Subsides (φ.resume γ) := (φ.advances_resume γ).subsides (by rw [ho]; simp)

/-- The books are balanced when an opening goes on. -/
theorem IsKept.balances_resume (h : γ.IsKept b S) {φ : OpenPhase} (ho : γ.opening = some φ) :
    γ.Balances (φ.resume γ) :=
  ⟨OpenPhase.tally_resume (h.pool_eq_none ho) ho, fun hn ↦ absurd hn (by simp [ho]),
    fun hn ↦ absurd hn (by simp [ho])⟩

/-- A gate subsides when its opening is cancelled. -/
theorem subsides_cancelOpening (γ : Gate) : γ.Subsides γ.cancelOpening := by
  obtain ha | ⟨-, ha⟩ := γ.cancelOpening_cases
  · by_cases ho : γ.opening = none
    · rw [cancelOpening, ho]
      exact (Withdraws.refl γ).subsides
    · exact ha.subsides ho
  · rw [ha]
    exact (Withdraws.refl γ).subsides

/-- A gate subsides when a closing is cancelled. -/
theorem ClosePhase.subsides_cancel (γ : Gate) (φ : ClosePhase) : γ.Subsides (φ.cancel γ).1 := by
  obtain h | ⟨n, -, h⟩ := φ.withdraws_cancel γ
  · exact h.subsides
  · exact γ.subsides_cancelOpening.trans h.subsides

/-! ## Where a closing stands -/

/-- Where a closing stands that began at `γ`.  The books count if `a` holds. -/
structure Stands (a : Prop) (γ δ : Gate) (φ : ClosePhase) : Prop where
  /-- The opening that it waits for is pending, or has ended and was the last one. -/
  expects {n : Nat} : φ = .awaitingOpening n → δ.opening.isSome = true → δ.opened.length = n
  tally {n : Nat} : φ = .awaitingOpening n → a → γ.Tally γ.atHand γ.ahead δ
  idle : (∀ n, φ ≠ .awaitingOpening n) → δ.opening = none
  told : (∀ n, φ ≠ .awaitingOpening n) → a → γ.Told δ
  stopping {s : Nat} {ψ : StopPhase} : φ = .stoppingProxy s ψ → δ.pool = none

/-- What a closing that began at `γ` has come to. -/
structure Comes (a : Prop) (γ : Gate) (r : Gate × Closing) : Prop where
  waiting {φ : ClosePhase} : r.2 = .waiting φ → Stands a γ r.1 φ
  idle {ρ : Except Fault Unit} : r.2 = .done ρ → r.1.opening = none
  done : r.2 = .done (.ok ()) → r.1.pool = none ∧ r.1.proxy = none ∧ (a → γ.Told r.1)

section Stands

variable {a : Prop} {φ : ClosePhase} {r : Gate × Closing}

/-- A closing stands where it stood as long as the gate subsides. -/
theorem Stands.mono (h : Stands a γ δ φ) (hs : δ.Subsides ε) (hb : a → δ.Balances ε) :
    Stands a γ ε φ where
  expects hφ := hs.expects (h.expects hφ)
  tally hφ ha := (h.tally hφ ha).trans (hb ha).tally
  idle hφ := hs.opening (h.idle hφ)
  told hφ ha :=
    (h.told hφ ha).of_eq ((hb ha).closings (h.idle hφ)) ((hb ha).pools (h.idle hφ))
  stopping hφ := hs.pool (h.idle (by simp [hφ])) (h.stopping hφ)

/-- A closing that has done with openings and told all. -/
theorem IsReleasing.comes (h : IsReleasing r) (ho : r.1.opening = none) (ht : a → γ.Told r.1) :
    Comes a γ r where
  waiting {φ} hφ := by
    have hn (n : Nat) : φ ≠ .awaitingOpening n := fun hn ↦ h.past n (hn ▸ hφ)
    exact
      { expects := fun hn' ↦ absurd hn' (hn _)
        tally := fun hn' ↦ absurd hn' (hn _)
        idle := fun _ ↦ ho
        told := fun _ ↦ ht
        stopping := fun hs ↦ h.stopping (hs ▸ hφ) }
  idle _ := ho
  done hd := ⟨(h.done hd).1, (h.done hd).2, ht⟩

/-- With no opening pending a closing comes to let go of pool and proxy. -/
theorem comes_release (ho : δ.opening = none) (hle : γ.atHand + γ.ahead ≤ 1)
    (ht : a → γ.Tally γ.atHand γ.ahead δ) : Comes a γ δ.release :=
  δ.isReleasing_release.comes (δ.withdraws_release.opening.trans ho) fun ha ↦
    (ht ha).told hle ho δ.closings_release (by rw [δ.withdraws_release.pools])

/-- A closing comes to that whatever the opening that it waited for has come to. -/
theorem comes_afterOpening (ho : δ.opening = none) (hle : γ.atHand + γ.ahead ≤ 1)
    (ht : a → γ.Tally γ.atHand γ.ahead δ) (ρ : Except Fault Nat) :
    Comes a γ (δ.afterOpening ρ) := by
  cases ρ with
  | ok p => exact comes_release ho hle ht
  | error φ =>
    unfold afterOpening
    dsimp only
    split
    · exact ⟨by simp, fun _ ↦ ho, by simp⟩
    · refine comes_release ?_ hle fun ha ↦ (ht ha).trans (Aloof.balances ?_).tally
      · exact ho
      · exact aloof_emit _ rfl rfl

/-- A closing that waits for an opening stands at the one that is pending. -/
theorem comes_awaitOpening {n : Nat} (hn : δ.opening.isSome = true → δ.opened.length = n)
    (hle : γ.atHand + γ.ahead ≤ 1) (ht : a → γ.Tally γ.atHand γ.ahead δ) :
    Comes a γ (δ.awaitOpening n) := by
  unfold awaitOpening
  split
  next ρ hρ =>
    refine comes_afterOpening ?_ hle ht ρ
    -- the opening has ended, and none was begun since
    cases ho : δ.opening with
    | none => rfl
    | some φ =>
      have hl := hn (by rw [ho]; rfl)
      obtain ⟨hlt, -⟩ := List.getElem?_eq_some_iff.mp hρ
      omega
  next =>
    refine ⟨?_, by simp, by simp⟩
    rintro _ ⟨⟩
    exact
      { expects := by rintro m ⟨⟩; exact hn
        tally := fun _ ↦ ht
        idle := fun hm ↦ absurd rfl (hm n)
        told := fun hm ↦ absurd rfl (hm n)
        stopping := by rintro _ _ ⟨⟩ }

/-- A closing begins. -/
theorem IsKept.comes_close (h : γ.IsKept b S) : Comes a γ γ.close := by
  unfold Gate.close
  split
  · exact comes_awaitOpening (fun _ ↦ rfl) h.atHand_add_ahead_le fun _ ↦ .refl γ
  next ho => exact comes_release (by simpa using ho) h.atHand_add_ahead_le fun _ ↦ .refl γ

/-- A closing goes on. -/
theorem Stands.comes_resume (h : Stands a γ δ φ) (hle : γ.atHand + γ.ahead ≤ 1) :
    Comes a γ (φ.resume δ) := by
  by_cases hφ : ∃ n, φ = .awaitingOpening n
  · obtain ⟨n, rfl⟩ := hφ
    exact comes_awaitOpening (h.expects rfl) hle (h.tally rfl)
  · have hn (n : Nat) : φ ≠ .awaitingOpening n := fun hn ↦ hφ ⟨n, hn⟩
    have hw := φ.withdraws_resume δ
    refine (ClosePhase.isReleasing_resume hn fun s ψ ↦ h.stopping).comes
      (hw.opening.trans (h.idle hn)) fun ha ↦ ?_
    exact (h.told hn ha).of_eq (ClosePhase.closings_resume hn) (by rw [hw.pools])

/-- An opening that is given up keeps the books, or it ends as given up. -/
theorem tally_cancelOpening (hp : δ.opening ≠ none → δ.pool = none) :
    δ.Tally δ.atHand δ.ahead δ.cancelOpening ∨
      δ.cancelOpening = δ.conclude (.error cancelled) := by
  unfold cancelOpening
  split
  next φ ho =>
    have hp := hp (by rw [ho]; simp)
    rw [atHand_of_opening hp ho, ahead_of_opening ho]
    cases φ with
    | starting s φ =>
      refine .inl ?_
      have h := tally_afterStart (γ := { δ with world := (φ.cancel s δ.world).1 }) hp s
        (φ.cancel s δ.world).2
      exact h.of_eq (closings_withWorld (φ.traffic_cancel s δ.world)) rfl
    | connecting τ t o => exact .inr rfl
    | pinging τ p t o => exact .inr rfl
    | unwindingPool t o cause => exact .inr rfl
    | unwindingProxy s φ cause =>
      refine .inl ?_
      have h := tally_afterUnwinding (γ := { δ with world := (StopPhase.cancel s δ.world).1 }) hp s
        cause (StopPhase.cancel s δ.world).2
      exact h.of_eq (closings_withWorld (StopPhase.traffic_cancel s δ.world)) rfl
  next => exact .inl (.refl δ)

/-- A closing is given up. -/
theorem Stands.comes_cancel (h : Stands a γ δ φ) (hle : γ.atHand + γ.ahead ≤ 1)
    (hp : δ.opening ≠ none → δ.pool = none) : Comes a γ (φ.cancel δ) := by
  cases φ with
  | awaitingOpening n =>
    have hn := δ.subsides_cancelOpening.expects (h.expects rfl)
    obtain ht | hc := tally_cancelOpening hp
    · exact comes_awaitOpening hn hle fun ha ↦ (h.tally rfl ha).trans ht
    · by_cases ho : δ.opening = none
      · have hδ : δ.cancelOpening = δ := by rw [cancelOpening, ho]
        refine comes_awaitOpening hn hle fun ha ↦ ?_
        rw [hδ]
        exact h.tally rfl ha
      · -- the opening has ended as given up, and so does the closing
        have hl := h.expects rfl (Option.ne_none_iff_isSome.mp ho)
        have hr : δ.cancelOpening.opened[n]? = some (.error cancelled) := by simp [hc, ← hl]
        have hk : cancelled.kind = .cancelled := rfl
        change Comes a γ (δ.cancelOpening.awaitOpening n)
        simp only [awaitOpening, hr, afterOpening, hk, if_true]
        exact ⟨by simp, fun _ ↦ by rw [hc]; rfl, by simp⟩
  | awaitingPool t o => exact ⟨by rintro _ ⟨⟩, fun _ ↦ h.idle (by simp), by rintro ⟨⟩⟩
  | stoppingProxy s φ => exact ⟨by rintro _ ⟨⟩, fun _ ↦ h.idle (by simp), by rintro ⟨⟩⟩

end Stands

/-- Whatever the supervisor in hand does not hold is over. -/
theorem IsKept.isSpent_child (h : γ.IsKept b S) (hb : b) {p : Nat}
    (hp : p < γ.world.children.length)
    (hs : ∀ s, γ.inHand = some s → (γ.world.supervisor s).child ≠ some p) :
    (γ.world.child p).IsSpent :=
  (h.custody.order (h.custody.owner hp)).spent hp rfl fun hc ↦ hs _ (h.custody.held hb hc) hc

/-- Without a supervisor in use and with no opening pending all is over. -/
theorem IsKept.isSpent (h : γ.IsKept b S) (hb : b) (ho : γ.opening = none)
    (hx : γ.proxy = none) : γ.IsSpent :=
  fun _ hp ↦ h.isSpent_child hb hp (by simp [inHand, ho, hx])

/-- The process that a supervisor holds is over once it has been killed. -/
theorem isSpent_killChild {w : World} {s p : Nat} (hl : p < w.children.length)
    (hp : (w.supervisor s).child = some p) : ((w.killChild s).child p).IsSpent := by
  unfold World.killChild
  rw [hp]
  dsimp only
  split
  · exact .inr (World.killed_kill hl)
  next ha => exact .inl (by simpa using ha)

/-- The process of a proxy in use is killed, and nothing else is held. -/
theorem IsKept.isSpent_abort_of_proxy (h : γ.IsKept b S) (hb : b) {s : Nat}
    (hx : γ.proxy = some s) : γ.abort.IsSpent := by
  have hγ : γ.abort = γ.onWorld (·.killChild s) := by rw [Gate.abort, hx]
  have hl := γ.world.length_killChild s
  rw [hγ]
  intro p (hp : p < (γ.world.killChild s).children.length)
  replace hp : p < γ.world.children.length := hl ▸ hp
  by_cases hs : (γ.world.supervisor s).child = some p
  · exact isSpent_killChild hp hs
  · refine ((γ.world.works_killChild s).signalled hp).isSpent (h.isSpent_child hb hp fun t ht ↦ ?_)
    rwa [← Option.some_inj.mp ((h.inHand_of_proxy hx).symm.trans ht)]

/-- Once the process of the proxy has been killed, all is over but for what is being started. -/
theorem IsKept.isSpent_abort_iff (h : γ.IsKept b S) (hb : b) : γ.abort.IsSpent ↔
    ∀ s φ p, γ.opening = some (.starting s φ) → (γ.world.supervisor s).child = some p →
      (γ.world.child p).IsSpent := by
  cases hx : γ.proxy with
  | some s =>
    refine iff_of_true (h.isSpent_abort_of_proxy hb hx) fun t φ p ho _ ↦ ?_
    exact absurd ho (h.opening_ne_starting hx t φ)
  | none =>
    have hγ : γ.abort = γ := by rw [Gate.abort, hx]
    rw [hγ]
    constructor
    · intro hs s φ p ho hp
      have hin : γ.inHand = some s := by rw [inHand, ho]
      exact hs p ((h.custody.order (h.custody.inHand hin)).launched hp)
    · intro hs p hp
      by_cases hheld : ∃ s, γ.inHand = some s ∧ (γ.world.supervisor s).child = some p
      · obtain ⟨s, hin, hc⟩ := hheld
        obtain ⟨φ, ho⟩ := exists_starting_of_inHand hx hin
        exact hs s φ p ho hc
      · exact h.isSpent_child hb hp fun s hin hc ↦ hheld ⟨s, hin, hc⟩

/-- With no opening pending all is over once the process of the proxy has been killed. -/
theorem IsKept.isSpent_abort (h : γ.IsKept b S) (hb : b) (ho : γ.opening = none) :
    γ.abort.IsSpent := (h.isSpent_abort_iff hb).mpr (by simp [ho])

end Sluice.Gate
