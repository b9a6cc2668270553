import Sluice.Proofs.Proxy.Course
import Sluice.Proofs.Proxy.Supervision

/-!
# How a stop comes to its end

A stop that nobody gives up ends, and by then the end of the process has been seen.  It asks the
process to end and kills it exactly if it is still there when the grace period is over; a process
that has ended is sent nothing.  A stop that is given up kills the process first if it is alive.
Either way the supervisor is left with nothing, and another stop does nothing
(`stops_of_run`).

The one thing that is asked of the process is that it ends when it is killed (`Child.Perishes`).
-/

namespace Sluice

/-- Whether an event is a signal to a process. -/
def Event.isSignal : Event → Bool
  | terminate | kill => true
  | _ => false

theorem Event.skipsActs_isSignal : SkipsActs isSignal :=
  ⟨⟨fun _ _ ↦ rfl⟩, fun _ _ ↦ rfl, fun _ _ ↦ rfl, fun _ ↦ rfl⟩

namespace Child

/-- A process that lives will end if it is sent a signal that it cannot ignore. -/
def Perishes (χ : Child) : Prop := χ.isAlive = true → ∀ t, (χ.kill t).ends ≠ []

/-- A process that is asked to end at `t` does so within the grace period. -/
def Yields (χ : Child) (t : Time) : Prop := ∃ ε ∈ (χ.terminate t).ends, ε.1 ≤ t + Proxy.stopGrace

section Ends

variable {χ ψ : Child}

theorem ends_endAfter (χ : Child) (t : Time) (ε : Option (Time × Int)) :
    (χ.endAfter t ε).ends = χ.ends ++ (ε.map fun (u, n) ↦ (t + u, n)).toList := by
  cases ε <;> simp [endAfter]

/-- The ends of a process that is killed. -/
theorem ends_kill (χ : Child) (t : Time) :
    (χ.kill t).ends = χ.ends ++ (if χ.isAlive && !χ.behaviour.escapesKill then
      (χ.behaviour.onKill.map fun (u, n) ↦ (t + u, n)).toList else []) := by
  simp only [kill]
  split
  · exact ends_endAfter ..
  · exact (List.append_nil _).symm

/-- A process that keeps its nature and the ends that are laid down will perish as before. -/
theorem Perishes.mono (h : χ.Perishes) (hb : ψ.behaviour = χ.behaviour)
    (ha : ψ.isAlive = true → χ.isAlive = true) (he : χ.ends ⊆ ψ.ends) : ψ.Perishes := by
  intro hψ t hn
  refine h (ha hψ) t ?_
  rw [ends_kill, List.append_eq_nil_iff, hb, hψ] at hn
  rw [ends_kill, ha hψ, hn.2, List.append_nil]
  exact List.eq_nil_of_subset_nil (hn.1 ▸ he)

/-- A process that is mortal ends if it is sent a signal. -/
theorem Behaviour.IsMortal.perishes (h : χ.behaviour.IsMortal) : χ.Perishes := by
  intro ha t
  obtain ⟨ε, hε⟩ := Option.isSome_iff_exists.mp h.2
  simp [ends_kill, ha, h.1, hε]

/-- A process ends no less for having been sent a signal. -/
theorem Perishes.terminate (h : χ.Perishes) (t : Time) : (χ.terminate t).Perishes := by
  have hs := χ.signalled_terminate t
  refine h.mono hs.behaviour (fun ha ↦ hs.isAlive ▸ ha) ?_
  unfold Child.terminate
  split
  · rw [ends_endAfter]
    exact List.subset_append_left ..
  · exact List.Subset.refl _

/-- The next end of a process is one of its ends. -/
theorem mem_of_nextEnd? {ε : Time × Int} (h : χ.nextEnd? = some ε) : ε ∈ χ.ends := by
  have hm : ∀ ε, χ.nextEnd? = some ε → ε ∈ χ.ends := by
    unfold nextEnd?
    refine List.foldlRecOn χ.ends _ (b := none) (motive := fun b ↦ ∀ ε, b = some ε → ε ∈ χ.ends)
      (by simp) fun b hb a ha ε hε ↦ ?_
    split at hε
    · split at hε
      · cases hε
        exact ha
      · exact hb _ hε
    · cases hε
      exact ha
  exact hm ε h

/-- A process ends by itself at an end that is laid down. -/
theorem mem_ends_of_nextAct? {t : Time} {n : Int} (h : χ.nextAct? = some (t, .exit n)) :
    (t, n) ∈ χ.ends := by
  unfold nextAct? at h
  split at h
  · split at h
    next he =>
      split at h
      · cases h
        exact mem_of_nextEnd? he
      · cases h
    · cases h
    next he =>
      cases h
      exact mem_of_nextEnd? he
    · cases h
  · obtain ⟨x, -, hx⟩ := Option.map_eq_some_iff.mp h
    cases hx

/-- The moment of the first end that is laid down, if there is one. -/
def lastMoment (χ : Child) : Time := (χ.nextEnd?.map Prod.fst).getD 0

theorem lastMoment_congr (h : ψ.ends = χ.ends) : ψ.lastMoment = χ.lastMoment := by
  rw [lastMoment, nextEnd?, h, lastMoment, nextEnd?]

/-- A process that will end has a last moment. -/
theorem exists_lastMoment (h : χ.ends ≠ []) : ∃ ε ∈ χ.ends, χ.lastMoment = ε.1 := by
  obtain ⟨ε, hε⟩ := List.exists_mem_of_ne_nil _ h
  obtain ⟨δ, hδ, -⟩ := exists_nextEnd? hε
  exact ⟨δ, mem_of_nextEnd? hδ, by rw [lastMoment, hδ]; rfl⟩

end Ends

end Child

namespace Proxy

open Child

namespace World

variable {s p : Nat} {w v u : World}

/-! ## What acts leave of a process -/

/-- Acts lay down no ends. -/
@[simp] theorem ends_act (w : World) (q p : Nat) : ((w.act q).child p).ends = (w.child p).ends := by
  obtain h | ⟨-, h | ⟨-, n, o, h⟩⟩ := w.child_act_cases q p
  · rw [h]
  · rw [h, ends_flush]
  · rw [h]
    rfl

/-- A process perishes as it would have whatever another one does. -/
theorem perishes_act (h : (w.child p).Perishes) (q : Nat) : ((w.act q).child p).Perishes := by
  refine h.mono (w.behaviour_act q p) (fun ha ↦ ?_) (by simp)
  by_contra hd
  rw [(w.alike_act_absent q).ended p (by simpa using hd)] at ha
  cases ha

/-- A process that has ended by an act did so at an end that was laid down, when its time had come.
-/
theorem exists_end_of_act? (h : w.act? = some u) (ha : (w.child p).isAlive = true)
    (hd : (u.child p).isAlive = false) : ∃ ε ∈ (w.child p).ends, ε.1 ≤ w.now := by
  obtain ⟨q, t, a, hn, ht, rfl⟩ := exists_of_act? h
  by_cases hq : q = p
  · subst hq
    obtain ⟨x, σ, bs, -, hc⟩ | ⟨x, n, hx, -⟩ | ⟨-, hc⟩ := w.children_act q
    · rw [child_of_children hc] at hd
      split at hd
      · exact absurd (ha.symm.trans ((w.child q).isAlive_flush ▸ hd)) Bool.noConfusion
      · exact absurd (ha.symm.trans hd) Bool.noConfusion
    · cases hx.symm.trans hn
      exact ⟨_, mem_ends_of_nextAct? hn, ht⟩
    · rw [hc] at hd
      exact absurd (ha.symm.trans hd) Bool.noConfusion
  · rw [w.child_act_of_ne hq] at hd
    exact absurd (ha.symm.trans hd) Bool.noConfusion

/-! ## Supervisors that are left with nothing -/

/-- The supervisor has stopped: it holds no process, waits for none and reads nothing. -/
structure IsFree (w : World) (s : Nat) : Prop where
  state : (w.supervisor s).state = .stopped
  child : (w.supervisor s).child = none
  signal : (w.supervisor s).signal = none
  watches : (w.supervisor s).watches = none
  readers : (w.supervisor s).readers = []

/-- To stop it again does nothing. -/
theorem stop_of_child (h : (w.supervisor s).child = none) : w.stop s = (w, .done (.ok ())) := by
  rw [stop, h]

/-- A supervisor that releases its process is free. -/
theorem isFree_release (h : s < w.supervisors.length) : (w.release s).IsFree s := by
  constructor <;> simp [release, h]

/-! ## Stops that are not given up -/

/-- The signals that a stop sends which begins at `t` and finds the process as `χ`. -/
structure IsSent (χ : Child) (t : Time) (εs : List Event) : Prop where
  ended : χ.isAlive = false → εs = []
  yields : χ.isAlive = true → χ.Yields t → εs = [.terminate]
  outlives : χ.isAlive = true → ¬ χ.Yields t → εs = [.terminate, .kill]

/-- A stop of the process `p` that began in `w` is over in `v`. -/
structure HasStopped (w : World) (s p : Nat) (v : World) : Prop where
  free : v.IsFree s
  hasSeen : v.hasSeen p = true
  isAlive : (v.child p).isAlive = false
  sent : ∃ εs, w.Records Event.isSignal v εs ∧ IsSent (w.child p) w.now εs
  /-- To stop it again does nothing. -/
  again : v.stop s = (v, .done (.ok ()))

/-- Where a stop of the process `p` stands that began in `w` and found the process alive. -/
inductive Stops (w : World) (s p : Nat) : World × Stopping → Prop
  /-- The process was asked to end.  If it has done so that was within the grace period. -/
  | grace {v : World} (found : (w.child p).isAlive = true) (order : v.InOrder s)
    (holds : v.Holds s p .stopping) (sent : w.Records Event.isSignal v [.terminate])
    (now : v.now ≤ w.now + stopGrace)
    (ends : (v.child p).ends = ((w.child p).terminate w.now).ends) (perishes : (v.child p).Perishes)
    (yields : (v.child p).isAlive = false → (w.child p).Yields w.now) :
    Stops w s p (v, .waiting (.grace p (w.now + stopGrace)))
  /-- The process was killed since the grace period is over. -/
  | killed {v : World} (found : (w.child p).isAlive = true) (order : v.InOrder s)
    (holds : v.Holds s p .stopping) (sent : w.Records Event.isSignal v [.terminate, .kill])
    (now : w.now + stopGrace ≤ v.now)
    (ends : (v.child p).isAlive = true → (v.child p).ends ≠ [])
    (outlives : ¬ (w.child p).Yields w.now) : Stops w s p (v, .waiting (.killed p))
  | done {v : World} (h : w.HasStopped s p v) : Stops w s p (v, .done (.ok ()))

/-- A stop is over once the process has ended and the supervisor lets go of it. -/
theorem InOrder.hasStopped_release (h : v.InOrder s) (hp : (v.supervisor s).child = some p)
    (hs : v.hasSeen p = true) {εs : List Event} (hr : w.Records Event.isSignal v εs)
    (hε : IsSent (w.child p) w.now εs) : w.HasStopped s p (v.release s) where
  free := isFree_release h.known
  hasSeen := hs
  isAlive := by
    have hd : (v.child p).isAlive = false := by simpa [hs] using h.hasSeen hp
    exact hd
  sent := ⟨εs, hr.trans_left (records_release Event.skipsActs_isSignal.toSkipsTalk v s), hε⟩
  again := stop_of_child (isFree_release h.known).child

/-- A stop begins. -/
theorem InOrder.stops_stop (h : w.InOrder s) (hp : (w.supervisor s).child = some p)
    (hm : (w.child p).Perishes) : w.Stops s p (w.stop s) := by
  let v := (w.say .info "Stopping proxy...").onSupervisor s ({ · with state := .stopping })
  have hs := h.of_akin (alike_say w .info "Stopping proxy...").toAkin
  have hv : v.Holds s p .stopping := hs.holds_setState hp .stopping
  replace hs : v.InOrder s := hs.setState .stopping
  have hr : w.Records Event.isSignal v [] :=
    (records_say Event.skipsActs_isSignal.toSkipsTalk w .info "Stopping proxy...").trans (.of_eq rfl)
  rw [World.stop, hp]
  dsimp only
  rw [hs.signal hv.1, Option.any_some]
  cases hseen : v.hasSeen p with
  | true =>
    rw [if_pos rfl]
    have hd : ¬ (w.child p).isAlive = true := by
      have hd : (v.child p).isAlive = false := by simpa [hseen] using hs.hasSeen hv.1
      exact fun ha ↦ absurd (ha.symm.trans hd) Bool.noConfusion
    exact .done (hs.hasStopped_release hv.1 hseen hr
      ⟨fun _ ↦ rfl, fun ha ↦ absurd ha hd, fun ha ↦ absurd ha hd⟩)
  | false =>
    rw [if_neg Bool.false_ne_true]
    have ha := alike_terminate (s := s) v p
    have hc : (v.terminate p).child p = (w.child p).terminate w.now := by
      rw [World.terminate, child_onChild, if_pos ⟨rfl, hs.launched hv.1⟩]
      rfl
    have hl : (v.child p).isAlive = true := by simpa [hseen] using hs.hasSeen hv.1
    refine .grace hl (hs.of_akin ha.toAkin) (hv.of_alike ha) ?_ ?_ (by rw [hc]) ?_ fun hd ↦ ?_
    · exact hr.trans ((v.records_emit rfl).trans_left (.of_eq rfl))
    · exact Int.le_add_of_nonneg_right (by decide)
    · rw [hc]
      exact hm.terminate _
    · exact absurd (hl.symm.trans ((ha.isAlive hv.1).symm.trans hd)) Bool.noConfusion

namespace Stops

variable {φ : StopPhase}

/-- A stop stands where it stood when a process acts. -/
theorem act (h : w.Stops s p (v, .waiting φ)) (hu : v.act? = some u) :
    w.Stops s p (u, .waiting φ) := by
  have hd {q : Nat} (hd : (v.child p).isAlive = false) : ((v.act q).child p).isAlive = false :=
    (v.alike_act_absent q).ended p hd
  obtain ⟨q, -, -, -, -, rfl⟩ := exists_of_act? hu
  have hr := records_act Event.skipsActs_isSignal v q
  have hn := (v.stays_act q).now
  cases h with
  | grace found order holds sent now ends perishes yields =>
    refine .grace found (order.act q) (holds.act (by decide) order q) (sent.trans_left hr) (hn ▸ now)
      ((v.ends_act q p).trans ends) (perishes_act perishes q) fun hd' ↦ ?_
    cases ha : (v.child p).isAlive with
    | false => exact yields ha
    | true =>
      -- it has ended just now, and the clock is still within the grace period
      obtain ⟨ε, hε, hle⟩ := exists_end_of_act? hu ha hd'
      exact ⟨ε, ends ▸ hε, Int.le_trans hle now⟩
  | killed found order holds sent now ends outlives =>
    refine .killed found (order.act q) (holds.act (by decide) order q) (sent.trans_left hr) (hn ▸ now)
      (fun ha ↦ ?_) outlives
    rw [v.ends_act q p]
    refine ends ?_
    by_contra hne
    rw [hd (by simpa using hne)] at ha
    cases ha

/-- A stop stands where it stood as time passes up to what comes next. -/
theorem pass (h : w.Stops s p (v, .waiting φ))
    (hu : v.Passes u (Time.earlier v.due? φ.due?)) : w.Stops s p (u, .waiting φ) := by
  have hr := hu.records Event.isSignal
  cases h with
  | grace found order holds sent now ends perishes yields =>
    exact .grace found (order.of_akin (hu.alike s).toAkin) (holds.of_alike (hu.alike s))
      (sent.trans_left hr) (hu.le_earlier.2 _ rfl) (hu.child p ▸ ends) (hu.child p ▸ perishes)
      (hu.child p ▸ yields)
  | killed found order holds sent now ends outlives =>
    exact .killed found (order.of_akin (hu.alike s).toAkin) (holds.of_alike (hu.alike s))
      (sent.trans_left hr) (Int.le_trans now (Int.le_of_lt hu.now)) (hu.child p ▸ ends) outlives

/-- The process is killed only if it has outlived the grace period: what was to end it earlier would
have done so. -/
theorem resume (h : w.Stops s p (v, .waiting φ)) (hn : v.act? = none)
    (hφ : φ.isReady v = true) : w.Stops s p (φ.resume s v) := by
  cases h with
  | grace found order holds sent now ends perishes yields =>
    rw [StopPhase.resume]
    cases hs : v.hasSeen p with
    | true =>
      rw [if_pos rfl]
      have hy := yields (by simpa [hs] using order.hasSeen holds.1)
      exact .done (order.hasStopped_release holds.1 hs sent
        ⟨fun hd ↦ absurd (found.symm.trans hd) Bool.noConfusion, fun _ _ ↦ rfl, fun _ hn ↦ absurd hy hn⟩)
    | false =>
      rw [if_neg Bool.false_ne_true]
      have ha : (v.child p).isAlive = true := by simpa [order.hasSeen holds.1] using hs
      have hle : w.now + stopGrace ≤ v.now := by simpa [StopPhase.isReady, hs] using hφ
      have hk : v.Alike s ((v.say .warning "Force killing proxy...").kill p) :=
        (alike_say ..).trans (alike_kill ..)
      have ho := order.of_akin hk.toAkin
      have hh := holds.of_alike hk
      have hc : ((v.say .warning "Force killing proxy...").kill p).child p =
          (v.child p).kill v.now := by
        rw [World.kill, child_onChild, if_pos ⟨rfl, order.launched holds.1⟩]
        rfl
      dsimp only
      rw [ho.signal hh.1]
      dsimp only
      rw [ho.hasSeen hh.1, hk.isAlive holds.1, ha]
      refine .killed found ho hh ?_ hle (fun _ ↦ ?_) ?_
      · exact sent.trans ((records_say Event.skipsActs_isSignal.toSkipsTalk v .warning _).trans_right
          ((records_emit _ rfl).trans_left (.of_eq rfl)))
      · rw [hc]
        exact perishes ha _
      · -- an end within the grace period would have come by now, and nothing is left to act
        rintro ⟨ε, hε, hlt⟩
        exact absurd (lt_of_act? hn ha (ends.symm ▸ hε)) (Int.not_lt.mpr (Int.le_trans hlt hle))
  | killed found order holds sent now ends outlives =>
    have hs : v.hasSeen p = true := hφ
    exact .done (order.hasStopped_release holds.1 hs sent
      ⟨fun hd ↦ absurd (found.symm.trans hd) Bool.noConfusion, fun _ hy ↦ absurd hy outlives,
        fun _ _ ↦ rfl⟩)

end Stops

/-- A stop waits no longer than to the end of the grace period, or to the end of the process that it
has killed. -/
def stopLimit (v : World) : StopPhase → Time
  | .grace _ t => t
  | .killed p => (v.child p).lastMoment

theorem stopLimit_congr {x v : World} (hv : ∀ q, (v.child q).ends = (x.child q).ends)
    (φ : StopPhase) : stopLimit v φ = stopLimit x φ := by
  cases φ with
  | grace q t => rfl
  | killed q => exact lastMoment_congr (hv q)

/-- A stop that is not ready waits no longer than it may. -/
theorem Stops.le_stopLimit {φ : StopPhase} (h : w.Stops s p (v, .waiting φ))
    (hφ : φ.isReady v = false) (hu : v.Passes u (Time.earlier v.due? φ.due?)) :
    u.now ≤ stopLimit v φ := by
  cases h with
  | grace => exact hu.le_earlier.2 _ rfl
  | killed found order holds sent now ends outlives =>
    have ha : (v.child p).isAlive = true := by
      have hs : v.hasSeen p = false := hφ
      simpa [order.hasSeen holds.1] using hs
    obtain ⟨ε, hε, hl⟩ := exists_lastMoment (ends ha)
    obtain ⟨t, ht, hle⟩ := exists_due? ha hε
    rw [stopLimit, hl]
    exact Int.le_trans (hu.le_earlier.1 t ht) hle

/-- A stop that finds its process alive is bound to end. -/
theorem Stops.inevitably {r : World × Stopping} (h : w.Stops s p r) :
    Inevitably (StopPhase.manner s).Step
      (fun r ↦ r.2 = .done (.ok ()) ∧ w.HasStopped s p r.1) r := by
  refine (StopPhase.isPunctual s).inevitably (I := w.Stops s p) (fun φ ↦ (φ.rank, 0)) stopLimit
    (fun v ρ h ↦ ?_) (fun v u φ h hu ↦ ?_) (fun v φ h hn hφ ↦ ?_) (fun v u φ h hn hφ hu ↦ ?_) h
  · cases h with
    | done h => exact ⟨rfl, h⟩
  · refine ⟨h.act hu, stopLimit_congr (fun q ↦ ?_) φ⟩
    obtain ⟨r, -, -, -, -, rfl⟩ := exists_of_act? hu
    exact v.ends_act r q
  · exact .inr ⟨h.resume hn hφ, fun ψ hψ ↦ .left _ _ (StopPhase.rank_resume hψ)⟩
  · exact ⟨h.pass hu, h.le_stopLimit hφ hu, stopLimit_congr (fun q ↦ by rw [hu.child q]) φ⟩

/-- Nor does it ever come to anything else. -/
theorem Stops.leads {r r' : World × Stopping} (h : w.Stops s p r)
    (hr : (StopPhase.manner s).Leads r r') : w.Stops s p r' := by
  refine hr.invariant (fun r r' hI hs ↦ ?_) h
  cases hs with
  | act hu => exact hI.act hu
  | resume hn hφ => exact hI.resume hn hφ
  | pass hn hφ hu => exact hI.pass hu

/-! ## Stops that are given up -/

/-- A stop of the process `p` that waited in `v` was given up, which led to `u`. -/
structure HasGivenUp (v : World) (s p : Nat) (u : World) : Prop where
  free : u.IsFree s
  /-- A process that was alive was killed, -/
  killed : (v.child p).isAlive = true →
    v.Records Event.isSignal u [.kill] ∧ (u.child p).killed = true
  /-- and one that had ended was sent nothing. -/
  ended : (v.child p).isAlive = false → v.Records Event.isSignal u []
  again : u.stop s = (u, .done (.ok ()))

/-- A stop that is cancelled is given up, and the supervisor lets go of the process. -/
theorem InOrder.hasGivenUp (h : v.InOrder s) (hp : (v.supervisor s).child = some p) :
    ∃ u, StopPhase.cancel s v = (u, .done (.error cancelled)) ∧ v.HasGivenUp s p u := by
  have hr (x : World) := records_release Event.skipsActs_isSignal.toSkipsTalk x s
  refine ⟨_, rfl, ?_⟩
  rw [killChild, hp]
  dsimp only
  cases ha : (v.child p).isAlive with
  | true =>
    rw [if_pos rfl]
    have hf := isFree_release (w := v.kill p) h.known
    exact
      { free := hf
        killed := fun _ ↦ ⟨((v.records_emit rfl).trans_left (.of_eq rfl)).trans_left (hr _),
          killed_kill (h.launched hp)⟩
        ended := fun hd ↦ absurd (ha.symm.trans hd) Bool.noConfusion
        again := stop_of_child hf.child }
  | false =>
    rw [if_neg Bool.false_ne_true]
    have hf := isFree_release (w := v) h.known
    exact
      { free := hf
        killed := fun hd ↦ absurd (ha.symm.trans hd) Bool.noConfusion
        ended := fun _ ↦ hr v
        again := stop_of_child hf.child }

end World

/-! ## Stops at any moment -/

open World

/-- How far a stop of the process `p` has come that began in `w` and still waits in `v`: the process
has been killed once the grace period is over, and not before. -/
structure World.IsStopping (w : World) (p : Nat) (v : World) : Prop where
  early : v.now < w.now + stopGrace → w.Records Event.isSignal v [.terminate]
  late : w.now + stopGrace < v.now → w.Records Event.isSignal v [.terminate, .kill]
  sent : w.Records Event.isSignal v [.terminate] ∨
    w.Records Event.isSignal v [.terminate, .kill] ∧ ¬ (w.child p).Yields w.now

/-- A stop that stands somewhere has the process in its hands. -/
theorem World.Stops.isStopping {w v : World} {s p : Nat} {φ : StopPhase}
    (h : w.Stops s p (v, .waiting φ)) : w.IsStopping p v ∧ v.InOrder s ∧
      (v.supervisor s).child = some p := by
  cases h with
  | grace found order holds sent now =>
    exact ⟨⟨fun _ ↦ sent, fun hl ↦ absurd hl (Int.not_lt.mpr now), .inl sent⟩, order, holds.1⟩
  | killed found order holds sent now ends outlives =>
    exact ⟨⟨fun hl ↦ absurd hl (Int.not_lt.mpr now), fun _ ↦ sent, .inr ⟨sent, outlives⟩⟩, order,
      holds.1⟩

/-- Whatever a supervisor that began with nothing has come to: a stop does nothing if it holds no
process.  If it holds one a stop is bound to end with the end of the process seen, and if whoever
asked gives up while it waits, the process is killed if it is alive. -/
theorem stops_of_run {w₀ : World} {s : Nat} (h : w₀.IsFresh s) (μs : List Supervision.Move) :
    let w := (Supervision.run s ⟨w₀, .rest⟩ μs).world
    ((w.supervisor s).child = none → w.stop s = (w, .done (.ok ()))) ∧
      ∀ p, (w.supervisor s).child = some p → (w.child p).Perishes →
        Inevitably (StopPhase.manner s).Step
          (fun r ↦ r.2 = .done (.ok ()) ∧ w.HasStopped s p r.1) (w.stop s) ∧
        ∀ v φ, (StopPhase.manner s).Leads (w.stop s) (v, .waiting φ) → w.IsStopping p v ∧
          ∃ u, StopPhase.cancel s v = (u, .done (.error cancelled)) ∧ v.HasGivenUp s p u := by
  intro w
  refine ⟨stop_of_child, fun p hp hm ↦ ?_⟩
  have hs : w.Stops s p (w.stop s) := (h.isSound.run μs).1.stops_stop hp hm
  refine ⟨hs.inevitably, fun v φ hv ↦ ?_⟩
  obtain ⟨hw, ho, hc⟩ := (hs.leads hv).isStopping
  exact ⟨hw, ho.hasGivenUp hc⟩

/-- A process that is alive and never ends by itself is stopped while it starts. -/
theorem stops_of_run_stubborn :
    let w := (Supervision.run 0 ⟨stubborn, .rest⟩ [.start, .start]).world
    stubborn.IsFresh 0 ∧ (w.supervisor 0).child = some 0 ∧ (w.child 0).isAlive = true ∧
      Inevitably (StopPhase.manner 0).Step
        (fun r ↦ r.2 = .done (.ok ()) ∧ w.HasStopped 0 0 r.1) (w.stop 0) := by
  intro w
  have hw : stubborn.IsFresh 0 := ⟨⟨_, rfl⟩, by simp [stubborn]⟩
  have hc : (w.supervisor 0).child = some 0 := by decide +kernel
  have hm : (w.child 0).behaviour.IsMortal := ⟨by decide +kernel, by decide +kernel⟩
  exact ⟨hw, hc, by decide +kernel, ((stops_of_run hw [.start, .start]).2 0 hc hm.perishes).1⟩

end Proxy
end Sluice
