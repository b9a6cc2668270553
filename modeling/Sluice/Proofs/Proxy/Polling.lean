import Mathlib.Algebra.Order.Floor.Ring
import Mathlib.Data.Rat.Floor
import Mathlib.Tactic.Linarith
import Sluice.Proofs.Proxy.Course

/-!
# How long a start looks for its process

A start that has launched its process looks for it every now and then: it tries to connect as long
as there is time and the process has not ended.  Each look comes some time after the one before, so
that there are only so many (`World.Polls`), and the last one comes soon after the deadline at most
(`InOrder.isBounded_awaitReady`).
-/

namespace Sluice

/-- Whether an event is a try to connect. -/
def Event.isConnection : Event → Bool
  | connect .. => true
  | _ => false

theorem Event.skips_isConnection : Skips isConnection where
  say _ _ := rfl
  output _ _ := rfl
  errors _ _ := rfl
  exit _ := rfl
  terminate := rfl
  kill := rfl

/-! ## Seconds -/

namespace Decimal.Binary64

variable {x : Binary64}

/-- The number that a floating point number stands for, if it is finite. -/
def toRat? (x : Binary64) : Option ℚ := x.toFraction?.map fun (n, d) ↦ (n : ℚ) / (d : ℚ)

theorem den_pos {n : Int} {d : Nat} (h : x.toFraction? = some (n, d)) : 0 < d := by
  unfold toFraction? at h
  split at h
  · cases h
    split
    · exact Nat.pow_pos (by decide)
    · exact Nat.one_pos
  · cases h

end Decimal.Binary64

open Decimal

/-- A number of seconds is at most half a unit of time off. -/
theorem Time.exists_ofSeconds? {x : Binary64} {q : ℚ} (h : x.toRat? = some q) (hq : 0 < q) :
    ∃ ℓ, ofSeconds? x = some ℓ ∧ 0 ≤ ℓ ∧ (ℓ : ℚ) ≤ q * (second : ℚ) + 1 / 2 := by
  obtain ⟨⟨n, d⟩, hx, rfl⟩ := Option.map_eq_some_iff.mp h
  have hd := Binary64.den_pos hx
  have hd' : (0 : ℚ) < d := by exact_mod_cast hd
  have hn : 0 < n := by
    have := (div_pos_iff_of_pos_right hd').mp hq
    exact_mod_cast this
  obtain ⟨m, rfl⟩ := Int.eq_ofNat_of_zero_le (Int.le_of_lt hn)
  refine ⟨(roundDiv (m * 1000000) d : Nat), ?_, Int.natCast_nonneg _, ?_⟩
  · rw [ofSeconds?, hx]
    simp
  · have hr := two_mul_roundDiv_mul_le (m * 1000000) d
    have hr : 2 * ((roundDiv (m * 1000000) d : ℚ) * d) ≤ 2 * (m * 1000000) + d := by
      exact_mod_cast hr
    have hm : (m : ℚ) / d * d = m := div_mul_cancel₀ _ hd'.ne'
    refine le_of_mul_le_mul_right ?_ hd'
    norm_num [second]
    linarith

namespace Proxy

/-- A start is no longer waiting for its process to get ready. -/
def HasLeft : Starting → Prop
  | .done _ | .waiting (.cleaning ..) => True
  | .waiting _ => False

namespace World

variable {s p n : Nat} {d : Time} {w v u : World}

/-- Between `w` and `v` there were `n` tries to connect. -/
def Connects (w v : World) (n : Nat) : Prop :=
  ∃ εs, w.Records Event.isConnection v εs ∧ εs.length = n

/-- Tries to connect are not made by what makes none. -/
theorem Connects.trans (h : w.Connects v n) (hu : v.Records Event.isConnection u []) :
    w.Connects u n := by
  obtain ⟨εs, hr, hn⟩ := h
  exact ⟨εs, hr.trans_left hu, hn⟩

/-- One more try to connect counts as one. -/
theorem Connects.connect (h : w.Connects v n) (s : Nat) : w.Connects (v.connect s).1 (n + 1) := by
  obtain ⟨εs, hr, hn⟩ := h
  exact ⟨_, hr.trans (v.records_emit rfl), by simp [hn]⟩

/-- A start that has to do with a deadline `d` since `w` made `n` tries to connect so far. -/
structure HasTried (w : World) (d : Time) (v : World) (n : Nat) : Prop where
  connects : w.Connects v n
  /-- The last try was made before the deadline, and each one some time after the one before. -/
  lt : n * checkInterval < d - w.now + checkInterval

/-- Tries of a start are not made by what makes none. -/
theorem HasTried.trans (h : w.HasTried d v n) (hu : v.Records Event.isConnection u []) :
    w.HasTried d u n := ⟨h.connects.trans hu, h.lt⟩

/-- A try to connect takes only so long. -/
theorem ends_connect_le (w : World) (s : Nat) :
    (w.connect s).2.ends ≤ w.now + connectTimeout := by
  unfold World.connect
  dsimp only
  split
  · split
    next hl => exact Int.add_le_add_left hl _
    · exact Int.le_refl _
  · exact Int.add_le_add_left (w.network.delay_le w.now) _

/-- The latest moment at which a start still looks for its process. -/
def lastLook (d : Time) : Time := d + connectTimeout + checkInterval

/-- Where a start stands that has looked for its process `p` since `w`, with the deadline `d`. -/
inductive Polls (w : World) (s p : Nat) (d : Time) : World × Starting → Prop
  | connecting {v : World} {α : Attempt} {n : Nat} (order : v.InOrder s)
    (holds : v.Holds s p .starting) (tried : w.HasTried d v n)
    (next : w.now + n * checkInterval ≤ α.ends + checkInterval) (lt : α.ends < d + connectTimeout)
    (now : v.now ≤ α.ends) : Polls w s p d (v, .waiting (.connecting p d α))
  | pausing {v : World} {t : Time} {n : Nat} (order : v.InOrder s)
    (holds : v.Holds s p .starting) (tried : w.HasTried d v n)
    (next : w.now + n * checkInterval ≤ t) (lt : t < lastLook d) (now : v.now ≤ t) :
    Polls w s p d (v, .waiting (.pausing p d t))
  | draining {v : World} {k : Int} {t : Time} {n : Nat} (order : v.InOrder s)
    (tried : w.HasTried d v n) (lt : t < lastLook d) (now : v.now ≤ t) :
    Polls w s p d (v, .waiting (.draining p k t))

/-- A start that has looked for its process since `w` does so no more, and it has left off in time.
-/
structure Leaves (w : World) (d : Time) (r : World × Starting) : Prop where
  left : HasLeft r.2
  tried : ∃ n, w.HasTried d r.1 n
  now : r.1.now < lastLook d

/-- A start that fails before its deadline has left off in time. -/
theorem HasTried.leaves_fail (h : w.HasTried d v n) (hlt : v.now < lastLook d) (s : Nat)
    (cause : Fault) : w.Leaves d (v.fail s cause) where
  left := by
    rw [World.fail]
    obtain ⟨u, φ | ρ⟩ := v.stop s
    · trivial
    · cases ρ <;> trivial
  tried := ⟨n, h.trans (records_fail Event.skips_isConnection.toSkipsSignals v s cause)⟩
  now := (v.works_fail s cause).now ▸ hlt

namespace InOrder

variable (h : v.InOrder s) (hp : v.Holds s p .starting)
include h hp

/-- A start that has looked once more leaves off or goes on to poll. -/
theorem polls_afterAttempt (ht : w.HasTried d v n)
    (hn : w.now + n * checkInterval ≤ v.now + checkInterval) (hlt : v.now < d + connectTimeout)
    (b : Bool) : w.Leaves d (v.afterAttempt s p d b) ∨ w.Polls s p d (v.afterAttempt s p d b) := by
  unfold World.afterAttempt
  split
  · refine .inl ⟨trivial, ⟨n, ht.trans ?_⟩, Int.lt_trans hlt (lt_add_checkInterval _)⟩
    exact (Records.of_eq rfl).trans (records_say Event.skips_isConnection.toSkipsTalk ..)
  · exact .inr (.pausing h hp ht hn (Int.add_lt_add_right hlt _) (Int.le_of_lt (lt_add_checkInterval _)))

/-- A look at the process leads to a try to connect only if there is time left. -/
theorem polls_poll (ht : w.HasTried d v n) (hn : w.now + n * checkInterval ≤ v.now)
    (hlt : v.now < lastLook d) :
    w.Leaves d (v.poll s p d) ∨ w.Polls s p d (v.poll s p d) := by
  unfold World.poll
  split
  · exact .inl (ht.leaves_fail hlt s _)
  next hd =>
    have hd : v.now < d := Int.not_le.mp hd
    split
    next k _ =>
      split
      · refine .inr (.draining h ht ?_ (Int.le_add_of_nonneg_right (by decide)))
        unfold Time lastLook drainTimeout connectTimeout checkInterval at *
        omega
      · exact .inl (ht.leaves_fail hlt s _)
    · -- one more try, which begins before the deadline
      have hc := alike_connect (s := s) v s
      have ht : w.HasTried d (v.connect s).1 (n + 1) := ⟨ht.connects.connect s, by
        unfold Time checkInterval at *
        omega⟩
      have hn : w.now + (n + 1 : Nat) * checkInterval ≤ v.now + checkInterval := by
        unfold Time checkInterval at *
        omega
      have hα := v.ends_connect_le s
      replace h := h.of_akin hc.toAkin
      replace hp := hp.of_alike hc
      dsimp only
      split
      · exact h.polls_afterAttempt hp ht hn
          (Int.lt_trans hd (Int.lt_add_of_pos_right d (by decide))) _
      next hlt =>
        have hle : v.now ≤ (v.connect s).2.ends := Int.le_of_lt (Int.not_le.mp hlt)
        exact .inr (.connecting h hp ht (Int.le_trans hn (Int.add_le_add_right hle _))
          (Int.lt_of_le_of_lt hα (Int.add_lt_add_right hd _)) hle)

/-- A start whose process was launched leaves off or polls from the first look on. -/
theorem polls_awaitReady {ℓ : Time} (hℓ : 0 ≤ ℓ)
    (hd : ℓ = (Time.ofSeconds? (v.supervisor s).config.startupTimeout).getD 0) :
    v.Leaves (v.now + ℓ) (v.awaitReady s p) ∨
      v.Polls s p (v.now + ℓ) (v.awaitReady s p) := by
  have ht : v.HasTried (v.now + ℓ) v 0 := ⟨⟨[], .refl v, rfl⟩, by
    unfold Time checkInterval at *
    omega⟩
  have hlt : v.now < lastLook (v.now + ℓ) := by
    unfold Time lastLook connectTimeout checkInterval at *
    omega
  unfold World.awaitReady
  dsimp only
  split
  · exact .inl (ht.leaves_fail hlt s _)
  next ms _ =>
    have ha := alike_say (s := s) v .info
      ("Waiting for proxy to be ready (timeout: " ++ toString ms ++ "ms)...")
    have hr := records_say Event.skips_isConnection.toSkipsTalk v .info
      ("Waiting for proxy to be ready (timeout: " ++ toString ms ++ "ms)...")
    rw [← hd]
    refine (h.of_akin ha.toAkin).polls_poll (hp.of_alike ha) (ht.trans hr) (Int.le_of_eq ?_) hlt
    change v.now + (0 : Nat) * checkInterval = v.now
    simp

end InOrder

namespace Polls

variable {φ : StartPhase}

/-- A start polls on when a process acts. -/
theorem act (h : w.Polls s p d (v, .waiting φ)) (q : Nat) : w.Polls s p d (v.act q, .waiting φ) := by
  have hr := records_act Event.skips_isConnection.toSkipsActs v q
  have hn := (v.stays_act q).now
  cases h with
  | connecting order holds tried next lt now =>
    exact .connecting (order.act q) (holds.act (by decide) order q) (tried.trans hr) next lt
      (hn ▸ now)
  | pausing order holds tried next lt now =>
    exact .pausing (order.act q) (holds.act (by decide) order q) (tried.trans hr) next lt (hn ▸ now)
  | draining order tried lt now =>
    exact .draining (order.act q) (tried.trans hr) lt (hn ▸ now)

/-- A start polls on as time passes up to what comes next. -/
theorem pass (h : w.Polls s p d (v, .waiting φ)) (hu : v.Passes u (Time.earlier v.due? φ.due?)) :
    w.Polls s p d (u, .waiting φ) := by
  have hr := hu.records Event.isConnection
  have ha := hu.alike s
  cases h with
  | connecting order holds tried next lt now =>
    exact .connecting (order.of_akin ha.toAkin) (holds.of_alike ha) (tried.trans hr) next lt
      (hu.le_earlier.2 _ rfl)
  | pausing order holds tried next lt now =>
    exact .pausing (order.of_akin ha.toAkin) (holds.of_alike ha) (tried.trans hr) next lt
      (hu.le_earlier.2 _ rfl)
  | draining order tried lt now =>
    exact .draining (order.of_akin ha.toAkin) (tried.trans hr) lt (hu.le_earlier.2 _ rfl)

/-- A wait that is over is over at the moment at which it was due. -/
theorem resume (h : w.Polls s p d (v, .waiting φ)) (hφ : φ.isReady s v = true) :
    w.Leaves d (φ.resume s v) ∨ w.Polls s p d (φ.resume s v) := by
  cases h with
  | connecting order holds tried next lt now =>
    have hα : _ = v.now := Int.le_antisymm (of_decide_eq_true hφ) now
    exact order.polls_afterAttempt holds tried (hα ▸ next) (hα ▸ lt) _
  | pausing order holds tried next lt now =>
    have ht : _ = v.now := Int.le_antisymm (of_decide_eq_true hφ) now
    exact order.polls_poll holds tried (ht ▸ next) (ht ▸ lt)
  | draining order tried lt now => exact .inl (tried.leaves_fail (Int.lt_of_le_of_lt now lt) s _)

theorem not_done {ρ : Except Fault Unit} : ¬ w.Polls s p d (v, .done ρ) := nofun

/-- A start that polls sleeps past no moment at which it is due. -/
theorem due?_le (h : w.Polls s p d (v, .waiting φ))
    (hu : v.Passes u (Time.earlier v.due? φ.due?)) : u.now ≤ φ.due?.getD 0 := by
  cases h <;> exact hu.le_earlier.2 _ rfl

/-- A start is bound to leave off in time. -/
theorem inevitably {r : World × Starting} (h : w.Polls s p d r) :
    Inevitably (StartPhase.manner s).Step (w.Leaves d) r := by
  refine (StartPhase.isPunctual s).inevitably (I := w.Polls s p d) (fun φ ↦ (φ.stage, φ.fuel))
    (fun _ φ ↦ φ.due?.getD 0) (fun v ρ h ↦ absurd h not_done) (fun v u φ h hu ↦ ?_)
    (fun v φ h hn hφ ↦ ?_) (fun v u φ h hn hφ hu ↦ ⟨h.pass hu, h.due?_le hu, rfl⟩) h
  · obtain ⟨q, -, -, -, -, rfl⟩ := exists_of_act? hu
    exact ⟨h.act q, rfl⟩
  · refine (h.resume hφ).imp_right fun hI ↦ ⟨hI, fun ψ hψ ↦ ?_⟩
    obtain hs | ⟨hs, hf⟩ := StartPhase.descends_resume hφ hψ
    · exact .left _ _ hs
    · rw [hs]
      exact .right _ hf

end Polls

theorem hasLeft_settle (w : World) (s : Nat) (cause : Fault) (π : Stopping) :
    HasLeft (w.settle s cause π).2 := by
  obtain φ | ρ | ρ := π <;> trivial

/-- A start that has left off stays so, and tries to connect no more. -/
theorem hasLeft_step {r r' : World × Starting} (h : HasLeft r.2)
    (hr : (StartPhase.manner s).Step r r') :
    HasLeft r'.2 ∧ r.1.Records Event.isConnection r'.1 [] := by
  cases hr with
  | act hu =>
    obtain ⟨q, -, -, -, -, rfl⟩ := exists_of_act? hu
    exact ⟨h, records_act Event.skips_isConnection.toSkipsActs _ q⟩
  | pass hn hφ hu => exact ⟨h, hu.records _⟩
  | @resume w φ hn hφ =>
    cases φ with
    | cleaning φ cause =>
      exact ⟨hasLeft_settle .., (records_resume Event.skips_isConnection.toSkipsSignals s w φ).trans
        (records_settle ..)⟩
    | _ => exact h.elim

/-- However long a start goes on, it has tried only so often. -/
theorem exists_hasTried {r r' : World × Starting} (h : w.Leaves d r ∨ w.Polls s p d r)
    (hr : (StartPhase.manner s).Leads r r') : ∃ n, w.HasTried d r'.1 n := by
  let I (r : World × Starting) : Prop :=
    (HasLeft r.2 ∧ ∃ n, w.HasTried d r.1 n) ∨ w.Polls s p d r
  have hI : I r' := by
    refine hr.invariant (I := I) (fun r r' hI hs ↦ ?_) (h.imp_left fun hl ↦ ⟨hl.left, hl.tried⟩)
    obtain ⟨hl, n, ht⟩ | hI := hI
    · obtain ⟨hl, hr⟩ := hasLeft_step hl hs
      exact .inl ⟨hl, n, ht.trans hr⟩
    · cases hs with
      | act hu =>
        obtain ⟨q, -, -, -, -, rfl⟩ := exists_of_act? hu
        exact .inr (hI.act q)
      | pass hn hφ hu => exact .inr (hI.pass hu)
      | resume hn hφ => exact (hI.resume hφ).imp_left fun hl ↦ ⟨hl.left, hl.tried⟩
  obtain ⟨-, ht⟩ | hI := hI
  · exact ht
  · cases hI with
    | connecting _ _ tried => exact ⟨_, tried⟩
    | pausing _ _ tried => exact ⟨_, tried⟩
    | draining _ tried => exact ⟨_, tried⟩

/-! ## Bounds in seconds -/

/-- What is true of the tries to connect of a start that may take `x` seconds. -/
structure IsBounded (w : World) (x : ℚ) (s : Nat) (r : World × Starting) : Prop where
  /-- There is at most one to each interval. -/
  tries {r' : World × Starting} : (StartPhase.manner s).Leads r r' →
    ∃ n : Nat, w.Connects r'.1 n ∧ n ≤ ⌈x * (Time.second : ℚ) / (checkInterval : ℚ)⌉
  /-- The last one is over soon after the deadline. -/
  leaves : Inevitably (StartPhase.manner s).Step (fun r' ↦ HasLeft r'.2 ∧ (r'.1.now : ℚ) <
    (w.now : ℚ) + x * (Time.second : ℚ) + (connectTimeout : ℚ) + (checkInterval : ℚ)) r

/-- A start that polls up to a deadline is bounded by the seconds that it was given. -/
theorem isBounded_of_polls {ℓ : Time} {x : ℚ} (hx : (ℓ : ℚ) ≤ x * (Time.second : ℚ) + 1 / 2)
    {r : World × Starting} (h : w.Leaves (w.now + ℓ) r ∨ w.Polls s p (w.now + ℓ) r) :
    w.IsBounded x s r where
  tries hr := by
    obtain ⟨n, hn⟩ := exists_hasTried h hr
    refine ⟨n, hn.connects, ?_⟩
    -- the half unit that the length may be off is made up by the strict bound on the tries
    have hlt : (n : ℤ) * 500000 + 1 ≤ ℓ + 500000 := by
      have := hn.lt
      unfold Time checkInterval at *
      omega
    have hlt : (n : ℚ) * 500000 + 1 ≤ (ℓ : ℚ) + 500000 := by exact_mod_cast hlt
    have hc : (n : ℚ) - 1 < x * (Time.second : ℚ) / (checkInterval : ℚ) := by
      norm_num [Time.second, checkInterval] at hx ⊢
      linarith
    have hn : (n : ℤ) - 1 < ⌈x * (Time.second : ℚ) / (checkInterval : ℚ)⌉ :=
      Int.lt_ceil.mpr (by exact_mod_cast hc)
    omega
  leaves := by
    have hi : Inevitably (StartPhase.manner s).Step (w.Leaves (w.now + ℓ)) r :=
      h.elim .now Polls.inevitably
    refine hi.mono fun r' hr ↦ ⟨hr.left, ?_⟩
    have hlt : r'.1.now + 1 ≤ w.now + ℓ + 1000000 + 500000 := hr.now
    have hlt : (r'.1.now : ℚ) + 1 ≤ (w.now : ℚ) + (ℓ : ℚ) + 1000000 + 500000 := by
      exact_mod_cast hlt
    norm_num [Time.second, checkInterval, connectTimeout] at hx ⊢
    linarith

namespace InOrder

variable (h : v.InOrder s) (hp : v.Holds s p .starting)
include h hp

theorem isBounded_awaitReady {x : ℚ}
    (hx : (v.supervisor s).config.startupTimeout.toRat? = some x) (hpos : 0 < x) :
    v.IsBounded x s (v.awaitReady s p) := by
  obtain ⟨ℓ, hℓ, hnn, hle⟩ := Time.exists_ofSeconds? hx hpos
  exact isBounded_of_polls hle (h.polls_awaitReady hp hnn (by rw [hℓ]; rfl))

end InOrder

/-- A start that may take for ever leaves off at once, without a try to connect. -/
theorem leaves_awaitReady (v : World) (s p : Nat)
    (hx : (v.supervisor s).config.startupTimeout.toRat? = none) :
    HasLeft (v.awaitReady s p).2 ∧ v.Connects (v.awaitReady s p).1 0 := by
  have hf {u : World} (hu : v.Records Event.isConnection u []) (cause : Fault) :
      HasLeft (u.fail s cause).2 ∧ v.Connects (u.fail s cause).1 0 :=
    ⟨hasLeft_settle .., [],
      hu.trans (records_fail Event.skips_isConnection.toSkipsSignals u s cause), rfl⟩
  have hℓ : (Time.ofSeconds? (v.supervisor s).config.startupTimeout).getD 0 = 0 := by
    rw [Time.ofSeconds?, Option.map_eq_none_iff.mp hx]
    rfl
  unfold World.awaitReady
  dsimp only
  rw [hℓ]
  split
  · exact hf (.refl v) _
  next ms _ =>
    unfold World.poll
    rw [if_pos (by exact Int.le_of_eq (Int.add_zero _))]
    exact hf (records_say Event.skips_isConnection.toSkipsTalk ..) _

end World

end Proxy

end Sluice
