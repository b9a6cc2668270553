import Sluice.Proofs.Proxy.Descent
import Sluice.Proofs.Proxy.Pending

/-!
# Starts whose process ends

As long as the port is closed a start looks at its process again some time after each try to connect
has failed (`Network.look`).  A process that ends is found out by the next look, provided that this
comes before the deadline: a look that comes later goes by the clock alone.  What becomes of such a
start is told by its `Outlook`, which is kept up by what processes do (`Nears.act`), by the clock
(`Nears.pass`) and by each look (`Stands.resume`).
-/

namespace Sluice

namespace Child

/-- A process that accepts connections goes on to do so. -/
theorem accepts_of_le {χ : Child} {t u : Time} (ht : t ≤ u) (h : χ.accepts t = true) :
    χ.accepts u = true := by
  unfold accepts at h ⊢
  split at h
  next l hl =>
    simp only [Bool.and_eq_true, decide_eq_true_eq] at h ⊢
    exact ⟨h.1, Int.le_trans h.2 ht⟩
  next hl => simp at h

theorem accepts_flush (χ : Child) (t : Time) : χ.flush.accepts t = χ.accepts t := by
  unfold flush
  split <;> rfl

/-- What a process does next if one end is laid down. -/
theorem nextAct?_of_ends {χ : Child} {T u : Time} {n m : Int} (h : χ.ends = [(T, n)])
    (ha : χ.nextAct? = some (u, .exit m)) : u = T ∧ m = n := by
  have hn : χ.nextEnd? = some (T, n) := by simp [nextEnd?, h]
  unfold nextAct? at ha
  split at ha
  · rw [hn] at ha
    split at ha
    next hk =>
      cases hk
      split at ha
      · cases ha
        exact ⟨rfl, rfl⟩
      · cases ha
    next hk => cases hk
    next hk =>
      cases hk
      cases ha
      exact ⟨rfl, rfl⟩
    next hk => cases hk
  · obtain ⟨x, -, hx⟩ := Option.map_eq_some_iff.mp ha
    cases hx

/-- A process is launched and ends by itself after `u` with the code `n`, and it does not accept
connections before. -/
structure Behaviour.Expires (β : Behaviour) (u : Time) (n : Int) : Prop where
  refusal : β.refusal = none
  ending : β.ending = some (u, n)
  listens {t : Time} : β.listens = some t → u < t

end Child

namespace Proxy

open Child

/-- The moment of the `k`-th look after one at `t`, as long as the port is closed. -/
def Network.look (ν : Network) (t : Time) : Nat → Time
  | 0 => t
  | k + 1 => ν.look t k + ν.delay (ν.look t k) + checkInterval

/-- One look comes after the other. -/
theorem Network.look_mono (ν : Network) (t : Time) {j k : Nat} (h : j ≤ k) :
    ν.look t j ≤ ν.look t k := by
  induction h with
  | refl => exact Int.le_refl _
  | @step k _ ih =>
    have hd := Int.le_add_of_nonneg_right (a := ν.look t k) (ν.delay_nonneg (ν.look t k))
    exact Int.le_trans ih (Int.le_trans hd (Int.le_of_lt (lt_add_checkInterval _)))

/-- Where connections are refused at once the looks come at regular intervals. -/
theorem Network.look_eq {ν : Network} (h : ∀ t, ν.delay t = 0) (t : Time) (k : Nat) :
    ν.look t k = t + k * checkInterval := by
  induction k with
  | zero => simp [look]
  | succ k ih =>
    rw [look, h, ih, Int.add_zero, Int.add_assoc, Int.natCast_succ, Int.add_mul, Int.one_mul]

/-! ## Reports -/

/-- A process ended with a code, and what went wrong last. -/
def exitReport (n : Int) (e : String) : Fault :=
  startupFailure ("Cloud SQL Proxy exited unexpectedly (code: " ++ toString n ++ "). Error: " ++ e)

/-- A process was not ready in time. -/
def lateReport (ms : Int) (details : String) : Fault :=
  startupFailure ("Cloud SQL Proxy failed to start within " ++ toString ms ++ "ms." ++ details ++
    " Check credentials and instance connection name.")

/-- The two reports differ in the seventeenth letter. -/
theorem exitReport_ne_lateReport (n ms : Int) (e details : String) :
    exitReport n e ≠ lateReport ms details := by
  intro h
  simp only [exitReport, lateReport, startupFailure, Fault.saying, Fault.mk.injEq, List.cons.injEq,
    Value.text.injEq, true_and, and_true] at h
  have hl := congrArg (fun s : String ↦ s.toList[16]?) h
  simp [String.toList_append] at hl

namespace StartPhase

/-- The start is about the process `p` up to the deadline `d`, and looks at it next at `u`. -/
def Looks (p : Nat) (d u : Time) : StartPhase → Prop
  | connecting q e α => q = p ∧ e = d ∧ α.succeeds = false ∧ α.ends + checkInterval = u
  | pausing q e t => q = p ∧ e = d ∧ t = u
  | _ => False

/-- The start has not overslept. -/
def IsOnTime (φ : StartPhase) (now : Time) : Prop := ∀ t, φ.due? = some t → now ≤ t

variable {φ : StartPhase} {p s : Nat} {d u : Time}

/-- A look that is in time is not over. -/
theorem Looks.le (h : φ.Looks p d u) {now : Time} (ht : φ.IsOnTime now) : now ≤ u := by
  cases φ with
  | connecting q e α =>
    obtain ⟨-, -, -, rfl⟩ := h
    exact Int.le_trans (ht _ rfl) (Int.le_of_lt (lt_add_checkInterval _))
  | pausing q e t =>
    obtain ⟨-, -, rfl⟩ := h
    exact ht _ rfl
  | _ => exact h.elim

end StartPhase

namespace World

variable {s p q : Nat} {t u : Time} {w v : World}

/-! ## Closed ports -/

/-- Nothing that there is accepts connections up to a moment. -/
structure IsShut (w : World) (t : Time) : Prop where
  alwaysOpen : w.network.alwaysOpen = false
  accepts (q : Nat) : (w.child q).accepts t = false

/-- A port that is shut up to a moment is not open before. -/
theorem IsShut.isOpen (h : w.IsShut t) (hw : w.now ≤ t) : w.isOpen = false := by
  have hc : w.children.any (·.accepts w.now) = false := by
    refine List.any_eq_false.mpr fun χ hχ ha ↦ ?_
    obtain ⟨q, hq, rfl⟩ := List.mem_iff_getElem.mp hχ
    have hn := h.accepts q
    rw [World.child, List.getD_eq_getElem _ _ hq, accepts_of_le hw ha] at hn
    cases hn
  rw [World.isOpen, h.alwaysOpen, hc]
  rfl

/-- A port stays shut whatever a process does. -/
theorem IsShut.act (h : w.IsShut t) (q : Nat) : (w.act q).IsShut t where
  alwaysOpen := (w.stays_act q).network ▸ h.alwaysOpen
  accepts p := by
    have hp := h.accepts p
    obtain hc | ⟨-, hc | ⟨-, n, o, hc⟩⟩ := w.child_act_cases q p
    · rwa [hc]
    · rw [hc, accepts_flush]
      exact hp
    · rw [hc]
      rfl

/-! ## Processes that act -/

/-- What was seen of a process that has ended does not change. -/
theorem seen_act_of_isAlive (h : (w.child p).isAlive = false) (q : Nat) :
    ((w.act q).child p).seen = (w.child p).seen := by
  obtain hc | ⟨-, hc | ⟨ha, -⟩⟩ := w.child_act_cases q p
  · rw [hc]
  · rw [hc, seen_flush]
  · cases ha.symm.trans h

/-- A process that a supervisor holds and that is to end goes on until it ends, and its end is seen.
-/
theorem InOrder.child_act_of_ends (h : w.InOrder s) (hp : (w.supervisor s).child = some p)
    (ha : (w.child p).isAlive = true) {T : Time} {n : Int} (he : (w.child p).ends = [(T, n)])
    (q : Nat) :
    (((w.act q).child p).isAlive = true ∧ ((w.act q).child p).ends = [(T, n)]) ∨
      ∃ a, (w.child q).nextAct? = some (T, a) ∧ ((w.act q).child p).seen = some n := by
  have ho := h.owner hp
  obtain ⟨x, σ, bs, -, hc⟩ | ⟨x, m, hn, hc⟩ | ⟨-, hc⟩ := w.children_act q
  · refine .inl ?_
    rw [child_of_children hc]
    split
    · rw [isAlive_flush, ends_flush]
      exact ⟨ha, he⟩
    · exact ⟨ha, he⟩
  · by_cases hq : q = p
    · subst hq
      obtain ⟨rfl, rfl⟩ := nextAct?_of_ends he hn
      obtain ⟨hw, -⟩ | ⟨-, hc⟩ := hc
      · rw [ho] at hw
        exact absurd (h.watched hp ha).1 hw
      · refine .inr ⟨_, hn, ?_⟩
        rw [child_of_children hc, if_pos ⟨rfl, h.launched hp⟩]
    · refine .inl ?_
      obtain ⟨-, hc⟩ | ⟨-, hc⟩ := hc
      all_goals
        rw [child_of_children hc, if_neg fun hp ↦ hq hp.1]
        exact ⟨ha, he⟩
  · rw [hc]
    exact .inl ⟨ha, he⟩

/-- As long as nothing can be done a process that is to end has not come to that moment. -/
theorem lt_of_act? (hn : w.act? = none) (ha : (w.child p).isAlive = true) {ε : Time × Int}
    (he : ε ∈ (w.child p).ends) : w.now < ε.1 := by
  obtain ⟨x, a, hx, hle⟩ := Child.exists_nextAct? ha he
  obtain ⟨⟨y, r⟩, hy, hyx⟩ := exists_nextActor? hx
  unfold act? at hn
  rw [hy] at hn
  dsimp only at hn
  split at hn
  · cases hn
  next hlt => exact Int.lt_of_lt_of_le (Int.not_le.mp hlt) (Int.le_trans hyx hle)

/-! ## Looks -/

/-- A failed start whose process has ended is over at once. -/
theorem InOrder.fail_of_hasSeen (h : w.InOrder s) (hp : (w.supervisor s).child = some p)
    (hs : w.hasSeen p = true) (cause : Fault) :
    ∃ v, w.fail s cause = (v, .done (.error cause)) ∧
      ∀ e, v.lastErrorOr s e = w.lastErrorOr s e := by
  let v := (w.say .info "Stopping proxy...").onSupervisor s ({ · with state := .stopping })
  have hv : (v.supervisor s).signal.any v.hasSeen = true := by
    have hσ : (v.supervisor s).signal = some p := by simp [v, h.known, h.signal hp]
    rw [hσ]
    exact hs
  refine ⟨(v.release s).onSupervisor s ({ · with state := .failed }), ?_, fun e ↦ ?_⟩
  · rw [World.fail, World.stop, hp]
    dsimp only
    rw [if_pos hv]
    rfl
  · simp [v, lastErrorOr, World.release, h.known]

/-- A process that lives at a closed port is looked at again. -/
theorem poll_of_isShut {d : Time} (hd : w.now < d) (hs : w.hasSeen p = false)
    (ho : w.isOpen = false) :
    ∃ φ, w.poll s p d = ((w.connect s).1, .waiting φ) ∧
      φ.Looks p d (w.now + w.network.delay w.now + checkInterval) ∧ φ.IsOnTime w.now := by
  have hn : (w.child p).seen = none := by simpa [World.hasSeen] using hs
  have hα : (w.connect s).2 = ⟨w.now + w.network.delay w.now, false⟩ := by
    have hc : (w.emit (.connect host (w.supervisor s).config.port w.now)).isOpen = false := ho
    simp only [World.connect, hc, Bool.false_eq_true, if_false]
    rfl
  unfold poll
  rw [if_neg (Int.not_le.mpr hd), hn]
  dsimp only
  rw [hα]
  by_cases hl : w.now + w.network.delay w.now ≤ w.now
  · have hz : w.now + w.network.delay w.now = w.now :=
      Int.le_antisymm hl (Int.le_add_of_nonneg_right (w.network.delay_nonneg _))
    refine ⟨_, if_pos hl, ⟨rfl, rfl, congrArg (· + checkInterval) hz.symm⟩, ?_⟩
    rintro t ⟨⟩
    exact Int.le_of_lt (lt_add_checkInterval _)
  · refine ⟨_, if_neg hl, ⟨rfl, rfl, rfl, rfl⟩, ?_⟩
    rintro t ⟨⟩
    exact Int.le_of_lt (Int.not_le.mp hl)

end World

/-! ## Outlooks -/

/-- What is to come of a launch: the process `child` is looked at from `born` on as the network
allows, up to a deadline some `ms` milliseconds away, and ends by itself with a code before that. -/
structure Outlook where
  supervisor : Nat
  child : Nat
  born : Time
  network : Network
  deadline : Time
  ms : Int
  ends : Time
  code : Int

namespace Outlook

variable (o : Outlook)

/-- The moment at which the process is looked at for the `k`-th time after the launch. -/
def look (k : Nat) : Time := o.network.look o.born k

/-- The process is looked at when it has ended and the deadline has not come. -/
def IsCaught : Prop := ∃ k > 0, o.ends ≤ o.look k ∧ o.look k < o.deadline

/-- The start is said to have failed for the reason for which it did. -/
structure Comes (w : World) (r : Except Fault Unit) : Prop where
  caught : o.IsCaught →
    r = .error (exitReport o.code (w.lastErrorOr o.supervisor "Unknown error"))
  late : ¬ o.IsCaught → ∃ details, r = .error (lateReport o.ms details)

/-- The supervisor waits for its process to get ready. -/
structure Suits (w : World) : Prop where
  order : w.InOrder o.supervisor
  holds : w.Holds o.supervisor o.child .starting
  network : w.network = o.network
  ms : milliseconds (w.supervisor o.supervisor).config.startupTimeout = .ok o.ms
  ends : o.ends < o.deadline

/-- The process lives and is not to be reached before it ends. -/
structure Lives (w : World) : Prop where
  isAlive : (w.child o.child).isAlive = true
  ends : (w.child o.child).ends = [(o.ends, o.code)]
  isShut : w.IsShut o.ends

/-- The supervisor has been told that the process has ended. -/
def HasEnded (w : World) : Prop := (w.child o.child).seen = some o.code

/-- Where a start stands that comes closer to its end. -/
inductive Nears (w : World) : StartPhase → Prop
  /-- It looks at the process next for the time `k + 1`, and it has not found it ended before. -/
  | looks {φ : StartPhase} {k : Nat} (hφ : φ.Looks o.child o.deadline (o.look (k + 1)))
    (hp : o.Lives w ∨ o.HasEnded w ∧ o.ends ≤ o.look (k + 1)) (hk : k = 0 ∨ o.look k < o.ends) :
    Nears w φ
  | drains {t : Time} (hp : o.HasEnded w) (hc : o.IsCaught) : Nears w (.draining o.child o.code t)

/-- Where a start stands, and what it comes to. -/
def Stands (w : World) : Starting → Prop
  | .waiting φ => o.Suits w ∧ o.Nears w φ ∧ φ.IsOnTime w.now
  | .done r => o.Comes w r

variable {o : Outlook} {w : World} {φ : StartPhase} {q : Nat}

theorem look_succ (k : Nat) :
    o.look (k + 1) = o.look k + o.network.delay (o.look k) + checkInterval := rfl

/-- Later looks come later. -/
theorem look_mono {j k : Nat} (h : j ≤ k) : o.look j ≤ o.look k := o.network.look_mono o.born h

/-- A process is found out by the first look after its end, or not in time. -/
theorem isCaught_iff {k : Nat} (hk : k = 0 ∨ o.look k < o.ends)
    (hT : o.ends ≤ o.look (k + 1)) : o.IsCaught ↔ o.look (k + 1) < o.deadline := by
  refine ⟨fun ⟨j, hj, he, hd⟩ ↦ ?_, fun hd ↦ ⟨k + 1, Nat.succ_pos k, hT, hd⟩⟩
  refine Int.lt_of_le_of_lt (look_mono ?_) hd
  by_contra hlt
  obtain rfl | hk := hk
  · omega
  · have hm := look_mono (o := o) (j := j) (k := k) (by omega)
    exact absurd (Int.lt_of_le_of_lt hm hk) (Int.not_lt.mpr he)

/-- An outlook suits the world whatever another process does. -/
theorem Suits.act (h : o.Suits w) (q : Nat) : o.Suits (w.act q) where
  order := h.order.act q
  holds := h.holds.act (by decide) h.order q
  network := by rw [(w.stays_act q).network, h.network]
  ms := by rw [(w.stays_act q).config, h.ms]
  ends := h.ends

theorem HasEnded.hasSeen (h : o.HasEnded w) : w.hasSeen o.child = true := by
  rw [World.hasSeen, h]
  rfl

/-- A process that has ended does not come back. -/
theorem HasEnded.act (h : o.HasEnded w) (hs : o.Suits w) (q : Nat) : o.HasEnded (w.act q) := by
  have ha : (w.child o.child).isAlive = false := by
    simpa [hs.order.hasSeen hs.holds.1] using h.hasSeen
  rwa [HasEnded, World.seen_act_of_isAlive ha]

/-- The supervisor has not been told of the end of a process that lives. -/
theorem Lives.hasSeen (h : o.Lives w) (hs : o.Suits w) : w.hasSeen o.child = false := by
  rw [hs.order.hasSeen hs.holds.1, h.isAlive]
  rfl

/-- What processes do brings the start closer to its end. -/
theorem Nears.act (h : o.Nears w φ) (hs : o.Suits w) (ht : φ.IsOnTime w.now) {t : Time}
    {a : Child.Act} (hn : (w.child q).nextAct? = some (t, a)) (hq : t ≤ w.now) :
    o.Nears (w.act q) φ := by
  cases h with
  | drains hp hc => exact .drains (hp.act hs q) hc
  | looks hφ hp hk =>
    refine .looks hφ ?_ hk
    obtain hp | ⟨hp, hT⟩ := hp
    · obtain ⟨ha, he⟩ | ⟨b, hb, he⟩ :=
        hs.order.child_act_of_ends hs.holds.1 hp.isAlive hp.ends q
      · exact .inl ⟨ha, he, hp.isShut.act q⟩
      · cases hn.symm.trans hb
        exact .inr ⟨he, Int.le_trans hq (hφ.le ht)⟩
    · exact .inr ⟨hp.act hs q, hT⟩

/-- An outlook suits the world as time passes. -/
theorem Suits.pass (h : o.Suits w) (t : Time) : o.Suits { w with now := t } where
  order := h.order.of_akin (World.Alike.of_eq (w := w) (v := { w with now := t }) rfl rfl).toAkin
  holds := h.holds.of_alike (.of_eq rfl rfl)
  network := h.network
  ms := h.ms
  ends := h.ends

/-- Nor does time make a difference. -/
theorem Nears.pass (h : o.Nears w φ) (t : Time) : o.Nears { w with now := t } φ := by
  cases h with
  | drains hp hc => exact .drains hp hc
  | looks hφ hp hk =>
    exact .looks hφ (hp.imp_left fun hp ↦ ⟨hp.isAlive, hp.ends, hp.isShut.alwaysOpen,
      hp.isShut.accepts⟩) hk

/-- A start that comes closer to its end waits for a moment. -/
theorem Nears.due?_ne_none (h : o.Nears w φ) : φ.due? ≠ none := by
  cases h with
  | drains hp hc => exact Option.some_ne_none _
  | looks hφ hp hk =>
    cases φ with
    | connecting q e α => exact Option.some_ne_none _
    | pausing q e t => exact Option.some_ne_none _
    | _ => exact hφ.elim

/-! ## Looks at the process -/

/-- An outlook suits the world after one more try to connect. -/
theorem Suits.connect (h : o.Suits w) (s : Nat) : o.Suits (w.connect s).1 where
  order := h.order.of_akin (World.alike_connect w s).toAkin
  holds := h.holds.of_alike (World.alike_connect w s)
  network := h.network
  ms := h.ms
  ends := h.ends

/-- A process that lives is looked at again. -/
theorem Lives.stands_poll (hl : o.Lives w) (hs : o.Suits w) {k : Nat} (hw : w.now = o.look k)
    (hk : k = 0 ∨ o.look k < o.ends) (hle : w.now ≤ o.ends) :
    o.Stands (w.poll o.supervisor o.child o.deadline).1
      (w.poll o.supervisor o.child o.deadline).2 := by
  obtain ⟨φ, hφ, hL, ht⟩ := World.poll_of_isShut (s := o.supervisor)
    (Int.lt_of_le_of_lt hle hs.ends) (hl.hasSeen hs) (hl.isShut.isOpen hle)
  rw [hφ]
  rw [hs.network, hw, ← look_succ] at hL
  exact ⟨hs.connect _, .looks hL (.inl ⟨hl.isAlive, hl.ends, hl.isShut.alwaysOpen,
    hl.isShut.accepts⟩) hk, ht⟩

/-- The start of a process that has ended is over at once. -/
theorem HasEnded.stands_fail (hp : o.HasEnded w) (hs : o.Suits w) {cause : Fault}
    (hc : o.IsCaught → cause = exitReport o.code (w.lastErrorOr o.supervisor "Unknown error"))
    (hl : ¬ o.IsCaught → ∃ details, cause = lateReport o.ms details) :
    o.Stands (w.fail o.supervisor cause).1 (w.fail o.supervisor cause).2 := by
  obtain ⟨v, hv, he⟩ := hs.order.fail_of_hasSeen hs.holds.1 hp.hasSeen cause
  rw [hv]
  refine ⟨fun h ↦ by rw [he, hc h], fun h ↦ ?_⟩
  obtain ⟨details, rfl⟩ := hl h
  exact ⟨details, rfl⟩

/-- A process that was caught is reported with its code and what it said last. -/
theorem HasEnded.stands_reportExit (hp : o.HasEnded w) (hs : o.Suits w) (hc : o.IsCaught) :
    o.Stands (w.reportExit o.supervisor o.code).1 (w.reportExit o.supervisor o.code).2 :=
  hp.stands_fail hs (fun _ ↦ rfl) fun hn ↦ absurd hc hn

/-- A process that has ended is found out, or the time is up. -/
theorem HasEnded.stands_poll (hp : o.HasEnded w) (hs : o.Suits w) {k : Nat}
    (hw : w.now = o.look (k + 1)) (hk : k = 0 ∨ o.look k < o.ends) (hT : o.ends ≤ o.look (k + 1)) :
    o.Stands (w.poll o.supervisor o.child o.deadline).1
      (w.poll o.supervisor o.child o.deadline).2 := by
  have hi := isCaught_iff hk hT
  rw [← hw] at hi
  unfold World.poll
  split
  next hd =>
    dsimp only
    rw [hs.ms]
    exact hp.stands_fail hs (fun hc ↦ absurd (hi.mp hc) (Int.not_lt.mpr hd)) fun _ ↦ ⟨_, rfl⟩
  next hd =>
    have hc := hi.mpr (Int.not_le.mp hd)
    rw [show (w.child o.child).seen = some o.code from hp]
    dsimp only
    split
    · refine ⟨hs, .drains hp hc, ?_⟩
      rintro t ⟨⟩
      exact Int.le_of_lt (Int.lt_add_of_pos_right _ (by decide))
    · exact hp.stands_reportExit hs hc

/-- A start that goes on, once no process acts, comes closer to its end or to what it should. -/
theorem Stands.resume (h : o.Stands w (.waiting φ)) (hn : w.act? = none)
    (hr : φ.isReady o.supervisor w = true) :
    o.Stands (φ.resume o.supervisor w).1 (φ.resume o.supervisor w).2 := by
  obtain ⟨hs, hφ, ht⟩ := h
  cases hφ with
  | drains hp hc => exact hp.stands_reportExit hs hc
  | @looks _ k hL hp hk =>
    cases φ with
    | connecting q e α =>
      obtain ⟨rfl, rfl, hα, he⟩ := hL
      have hnow : α.ends = w.now := Int.le_antisymm (by simpa [StartPhase.isReady] using hr) (ht _ rfl)
      have hres : (StartPhase.connecting o.child o.deadline α).resume o.supervisor w =
          (w, .waiting (.pausing o.child o.deadline (w.now + checkInterval))) := by
        simp [StartPhase.resume, World.afterAttempt, hα]
      rw [hres]
      refine ⟨hs, .looks ⟨rfl, rfl, by rw [← he, hnow]⟩ hp hk, ?_⟩
      rintro t ⟨⟩
      exact Int.le_of_lt (lt_add_checkInterval _)
    | pausing q e t =>
      obtain ⟨rfl, rfl, rfl⟩ := hL
      have hnow : w.now = o.look (k + 1) :=
        Int.le_antisymm (ht _ rfl) (by simpa [StartPhase.isReady] using hr)
      obtain hp | ⟨hp, hT⟩ := hp
      · -- no process has anything left to do, so its end is still to come
        have hlt : w.now < o.ends :=
          World.lt_of_act? hn hp.isAlive (ε := (o.ends, o.code)) (by simp [hp.ends])
        exact hp.stands_poll hs hnow (.inr (hnow ▸ hlt)) (Int.le_of_lt hlt)
      · exact hp.stands_poll hs hnow hk hT
    | _ => exact hL.elim

end Outlook

/-! ## Launches -/

/-- The outlook of a launch at `w`: the process ends after `u`, and the deadline is `ℓ` away. -/
def World.outlook (w : World) (s : Nat) (u ℓ : Time) (n ms : Int) : Outlook where
  supervisor := s
  child := w.children.length
  born := w.now
  network := w.network
  deadline := w.now + ℓ
  ms
  ends := w.now + u
  code := n

variable {w : World} {s : Nat} {u ℓ : Time} {n ms : Int}

theorem isCaught_outlook_iff : (w.outlook s u ℓ n ms).IsCaught ↔
    ∃ k > 0, w.now + u ≤ w.network.look w.now k ∧ w.network.look w.now k < w.now + ℓ := .rfl

/-- A supervisor that holds nothing launches the proxy at once if that is there. -/
theorem World.start_eq_launchProxy {path : File.Path} (hc : (w.supervisor s).child = none)
    (hi : (Config.given (w.supervisor s).config.instanceName).isNone = false)
    (ht : w.network.transfer ≤ 0) (hf : (w.fetch s).2 = .ok path) :
    w.start s = (w.fetch s).1.launchProxy s path := by
  have hh : w.isHealthy s = false := by simp [isHealthy, hc]
  have hs : w.stop s = (w, .done (.ok ())) := by rw [stop, hc]
  have ht : (0 < w.network.transfer && w.needsNetwork s) = false := by
    rw [decide_eq_false (Int.not_lt.mpr ht), Bool.false_and]
  rw [start, hh, if_neg Bool.false_ne_true, hs]
  simp only [cleared, provide, hi, ht, Bool.false_eq_true, if_false, obtain]
  split
  next hv => simp [hv] at hf
  next hv =>
    rw [hv] at hf ⊢
    cases hf
    rfl

theorem World.Launched.child {v : World} (h : w.Launched s v) :
    v.child w.children.length = Child.launch (w.behaviours.headD {}) s w.now := by
  simp [World.child, h.children]

/-- Nobody is to be reached for as long as a process lives that is launched and ends. -/
theorem World.Launched.isShut {v : World} (h : w.Launched s v)
    (hβ : (w.behaviours.headD {}).Expires u n) (hs : w.IsShut (w.now + u)) :
    v.IsShut (w.now + u) where
  alwaysOpen := h.network ▸ hs.alwaysOpen
  accepts q := by
    rcases Nat.lt_trichotomy q w.children.length with hq | rfl | hq
    · rw [World.child, h.children, List.getD_append _ _ _ _ hq]
      exact hs.accepts q
    · rw [h.child]
      unfold Child.accepts
      split
      next t ht =>
        have hut := hβ.listens ht
        have hn : ¬ w.now + t ≤ w.now + u := Int.not_le.mpr (Int.add_lt_add_left hut _)
        rw [Child.launch, decide_eq_false hn, Bool.and_false]
      next => exact Bool.and_false _
    · rw [World.child, h.children, List.getD_eq_default _ _ (by rw [List.length_append]; exact hq)]
      rfl

/-- Where a start stands that has just launched its process. -/
theorem World.InOrder.stands_launchProxy (h : w.InOrder s) (hc : (w.supervisor s).child = none)
    (hβ : (w.behaviours.headD {}).Expires u n) (hs : w.IsShut (w.now + u))
    (hms : milliseconds (w.supervisor s).config.startupTimeout = .ok ms)
    (hℓ : Time.ofSeconds? (w.supervisor s).config.startupTimeout = some ℓ) (hu : 0 ≤ u)
    (hlt : u < ℓ) (path : File.Path) :
    (w.outlook s u ℓ n ms).Stands (w.launchProxy s path).1 (w.launchProxy s path).2 := by
  obtain ⟨hr, -⟩ | ⟨-, v, hv, he⟩ := h.launchProxy_cases hc path
  · exact absurd hβ.refusal hr
  let x := v.say .info ("Waiting for proxy to be ready (timeout: " ++ toString ms ++ "ms)...")
  have ha : v.Alike s x := v.alike_say ..
  have hx : (w.outlook s u ℓ n ms).Suits x :=
    { order := hv.order.of_akin ha.toAkin
      holds := hv.holds.of_alike ha
      network := hv.network
      ms := by
        change milliseconds (v.supervisor s).config.startupTimeout = .ok ms
        rw [hv.config, hms]
      ends := Int.add_lt_add_left hlt _ }
  have hl : (w.outlook s u ℓ n ms).Lives x :=
    { isAlive := congrArg Child.isAlive hv.child
      ends := (congrArg Child.ends hv.child).trans (by rw [Child.launch, hβ.ending]; rfl)
      isShut := ⟨(hv.isShut hβ hs).alwaysOpen, (hv.isShut hβ hs).accepts⟩ }
  have hp : w.launchProxy s path = x.poll s w.children.length (w.now + ℓ) := by
    rw [he, World.awaitReady, hv.config, hms]
    dsimp only
    rw [hℓ, ← hv.now]
    rfl
  rw [hp]
  refine hl.stands_poll hx (k := 0) ?_ (.inl rfl) ?_
  · exact hv.now
  · exact Int.le_trans (Int.le_of_eq hv.now) (Int.le_add_of_nonneg_right hu)

end Proxy

end Sluice
