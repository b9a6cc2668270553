import Mathlib.Data.List.GetD
import Mathlib.Tactic.ByContra
import Sluice.Proxy.Start

/-!
# What a supervisor goes by

A supervisor goes by the process it holds, by the ends it has been told of and by its own state; the
clock, the site, the network, the record and what processes write do not count.  Two worlds are
alike to a supervisor if they agree on what it goes by (`World.Alike`), and akin if they do but for
its state (`World.Akin`).

Most of what happens in a world leaves it alike.  A process that acts by itself does so too, unless
it ends (`World.act_cases`).
-/

namespace Sluice

/-- Only a process that lives comes to its end. -/
theorem Child.isAlive_of_exit {χ : Child} {t : Time} {n : Int}
    (h : χ.nextAct? = some (t, .exit n)) : χ.isAlive = true := by
  by_contra ha
  rw [nextAct?, if_neg ha] at h
  obtain ⟨x, -, hx⟩ := Option.map_eq_some_iff.mp h
  cases hx

namespace Proxy

namespace World

variable {s : Nat} {w v u : World}

/-- One supervisor changes, and the others are as they were. -/
@[simp] theorem supervisor_onSupervisor (w : World) (t s : Nat) (f : Supervisor → Supervisor) :
    (w.onSupervisor t f).supervisor s =
      if t = s ∧ s < w.supervisors.length then f (w.supervisor s) else w.supervisor s := by
  simp only [supervisor, onSupervisor, List.getD_eq_getElem?_getD, List.getElem?_modify]
  by_cases hs : s < w.supervisors.length
  · by_cases ht : t = s <;> simp [hs, ht]
  · simp [hs]

/-- One process changes, and the others are as they were. -/
@[simp] theorem child_onChild (w : World) (q p : Nat) (f : Child → Child) :
    (w.onChild q f).child p =
      if q = p ∧ p < w.children.length then f (w.child p) else w.child p := by
  simp only [child, onChild, List.getD_eq_getElem?_getD, List.getElem?_modify]
  by_cases hp : p < w.children.length
  · by_cases hq : q = p <;> simp [hp, hq]
  · simp [hp]

@[simp] theorem length_onSupervisor (w : World) (t : Nat) (f : Supervisor → Supervisor) :
    (w.onSupervisor t f).supervisors.length = w.supervisors.length := List.length_modify ..

@[simp] theorem length_onChild (w : World) (q : Nat) (f : Child → Child) :
    (w.onChild q f).children.length = w.children.length := List.length_modify ..

@[simp] theorem supervisor_onChild (w : World) (q s : Nat) (f : Child → Child) :
    (w.onChild q f).supervisor s = w.supervisor s := rfl

@[simp] theorem supervisors_onChild (w : World) (q : Nat) (f : Child → Child) :
    (w.onChild q f).supervisors = w.supervisors := rfl

@[simp] theorem child_onSupervisor (w : World) (t p : Nat) (f : Supervisor → Supervisor) :
    (w.onSupervisor t f).child p = w.child p := rfl

@[simp] theorem supervisor_say (w : World) (ι : Level) (x : String) (s : Nat) :
    (w.say ι x).supervisor s = w.supervisor s := rfl

@[simp] theorem child_say (w : World) (ι : Level) (x : String) (p : Nat) :
    (w.say ι x).child p = w.child p := rfl

@[simp] theorem supervisors_say (w : World) (ι : Level) (x : String) :
    (w.say ι x).supervisors = w.supervisors := rfl

@[simp] theorem children_onSupervisor (w : World) (t : Nat) (f : Supervisor → Supervisor) :
    (w.onSupervisor t f).children = w.children := rfl

/-- Two worlds agree on what the supervisor `s` goes by, its own state aside.  In between processes
may have been killed, and those that it does not hold may have ended. -/
structure Akin (s : Nat) (w v : World) : Prop where
  supervisors : v.supervisors.length = w.supervisors.length
  children : v.children.length = w.children.length
  owner (p : Nat) : (v.child p).owner = (w.child p).owner
  ended (p : Nat) : (w.child p).isAlive = false → (v.child p).isAlive = false
  killed (p : Nat) : (w.child p).killed = true → (v.child p).killed = true
  isAlive {p : Nat} : (w.supervisor s).child = some p →
    (v.child p).isAlive = (w.child p).isAlive
  hasSeen {p : Nat} : (w.supervisor s).child = some p → v.hasSeen p = w.hasSeen p
  child : (v.supervisor s).child = (w.supervisor s).child
  signal : (v.supervisor s).signal = (w.supervisor s).signal
  watches : (v.supervisor s).watches = (w.supervisor s).watches
  readers : (w.supervisor s).readers = [] → (v.supervisor s).readers = []

/-- Two worlds agree on all that the supervisor `s` goes by. -/
structure Alike (s : Nat) (w v : World) : Prop extends Akin s w v where
  state : (v.supervisor s).state = (w.supervisor s).state

namespace Akin

/-- Worlds that are akin to one are akin to each other. -/
theorem trans (h : w.Akin s v) (h' : v.Akin s u) : w.Akin s u where
  supervisors := h'.supervisors.trans h.supervisors
  children := h'.children.trans h.children
  owner p := (h'.owner p).trans (h.owner p)
  ended p hd := h'.ended p (h.ended p hd)
  killed p hk := h'.killed p (h.killed p hk)
  isAlive hp := (h'.isAlive (h.child.trans hp)).trans (h.isAlive hp)
  hasSeen hp := (h'.hasSeen (h.child.trans hp)).trans (h.hasSeen hp)
  child := h'.child.trans h.child
  signal := h'.signal.trans h.signal
  watches := h'.watches.trans h.watches
  readers hr := h'.readers (h.readers hr)

/-- What a supervisor has read does not count, nor does a state. -/
theorem onSupervisor (w : World) (t : Nat) {f : Supervisor → Supervisor}
    (hf : ∀ σ, (f σ).child = σ.child ∧ (f σ).signal = σ.signal ∧ (f σ).watches = σ.watches ∧
      (σ.readers = [] → (f σ).readers = [])) : w.Akin s (w.onSupervisor t f) := by
  obtain ⟨h1, h2, h3, h4⟩ := hf (w.supervisor s)
  constructor
  case child | signal | watches | readers =>
    rw [supervisor_onSupervisor]
    split <;> simp_all
  all_goals simp [World.hasSeen]

end Akin

namespace Alike

/-- Worlds with the same processes and supervisors are alike. -/
theorem of_eq (hc : v.children = w.children) (hs : v.supervisors = w.supervisors) :
    w.Alike s v := by
  have hχ (p : Nat) : v.child p = w.child p := by rw [World.child, hc, World.child]
  have hσ : v.supervisor s = w.supervisor s := by rw [World.supervisor, hs, World.supervisor]
  refine { toAkin := ?_, state := by rw [hσ] }
  constructor <;> simp_all [World.hasSeen]

theorem refl (w : World) : w.Alike s w := of_eq rfl rfl

/-- Worlds that are alike to one are alike to each other. -/
theorem trans (h : w.Alike s v) (h' : v.Alike s u) : w.Alike s u where
  toAkin := h.toAkin.trans h'.toAkin
  state := h'.state.trans h.state

/-- What a process is about to do does not count. -/
theorem onChild (w : World) (q : Nat) {f : Child → Child}
    (hf : ∀ χ, (f χ).owner = χ.owner ∧ (f χ).isAlive = χ.isAlive ∧ (f χ).seen = χ.seen ∧
      (χ.killed = true → (f χ).killed = true)) : w.Alike s (w.onChild q f) := by
  refine { toAkin := ?_, state := rfl }
  constructor
  case owner | ended | killed | isAlive | hasSeen =>
    intro p
    obtain ⟨h1, h2, h3, h4⟩ := hf (w.child p)
    simp only [World.hasSeen, child_onChild]
    split <;> simp_all
  all_goals simp

/-- What a process does that the supervisor does not hold does not count, as long as it stays dead
when it is. -/
theorem onChild_of_ne (w : World) {q : Nat} (hq : (w.supervisor s).child ≠ some q)
    {f : Child → Child} (hf : ∀ χ, (f χ).owner = χ.owner ∧ (f χ).killed = χ.killed ∧
      (χ.isAlive = false → (f χ).isAlive = false)) : w.Alike s (w.onChild q f) := by
  refine { toAkin := ?_, state := rfl }
  constructor
  case owner | ended | killed =>
    intro p
    obtain ⟨h1, h2, h3⟩ := hf (w.child p)
    simp only [child_onChild]
    split <;> simp_all
  case isAlive | hasSeen =>
    intro p hp
    have hne : q ≠ p := by
      rintro rfl
      exact hq hp
    simp [World.hasSeen, hne]
  all_goals simp

/-- A supervisor may change what the other one does not go by. -/
theorem onSupervisor (w : World) (t : Nat) {f : Supervisor → Supervisor}
    (hf : ∀ σ, (f σ).state = σ.state ∧ (f σ).child = σ.child ∧ (f σ).signal = σ.signal ∧
      (f σ).watches = σ.watches ∧ (σ.readers = [] → (f σ).readers = [])) :
    w.Alike s (w.onSupervisor t f) where
  toAkin := .onSupervisor w t fun σ ↦ (hf σ).2
  state := by
    rw [supervisor_onSupervisor]
    split
    · exact (hf _).1
    · rfl

/-- What another supervisor does does not count. -/
theorem onSupervisor_of_ne (w : World) {t : Nat} (ht : t ≠ s) (f : Supervisor → Supervisor) :
    w.Alike s (w.onSupervisor t f) := by
  have hσ : (w.onSupervisor t f).supervisor s = w.supervisor s := by simp [ht]
  refine { toAkin := ?_, state := by rw [hσ] }
  constructor <;> simp_all [World.hasSeen]

end Alike

/-! ## Records and requests -/

theorem alike_emit (w : World) (ε : Event) : w.Alike s (w.emit ε) := .of_eq rfl rfl

theorem alike_say (w : World) (ι : Level) (x : String) : w.Alike s (w.say ι x) := w.alike_emit _

theorem alike_connect (w : World) (t : Nat) : w.Alike s (w.connect t).1 := w.alike_emit _

theorem alike_fetch (w : World) (t : Nat) : w.Alike s (w.fetch t).1 := .of_eq rfl rfl

theorem alike_interrupted (w : World) : w.Alike s w.interrupted := .of_eq rfl rfl

/-- A request to end does not matter to supervisors. -/
theorem alike_terminate (w : World) (q : Nat) : w.Alike s (w.terminate q) := by
  refine (w.alike_emit .terminate).trans (.onChild _ q fun χ ↦ ?_)
  unfold Child.terminate Child.endAfter
  repeat' split
  all_goals simp [Child.isAlive]

/-- A process that was killed matters only when it has ended. -/
theorem alike_kill (w : World) (q : Nat) : w.Alike s (w.kill q) := by
  refine (w.alike_emit .kill).trans (.onChild _ q fun χ ↦ ?_)
  unfold Child.kill Child.endAfter
  dsimp only
  repeat' split
  all_goals simp [Child.isAlive]

/-! ## Output -/

/-- A line that is read changes only what is remembered of complaints. -/
theorem alike_readLine (w : World) (t : Nat) (σ : Child.Stream) (bs : List UInt8) :
    w.Alike s (w.readLine t σ bs).1 := by
  unfold readLine
  split
  · exact .refl w
  next l _ =>
    have h : w.Alike s (w.log .info .proxyOutput l) := w.alike_emit _
    dsimp only
    split
    · exact h.trans (.onSupervisor _ t (by simp))
    · exact h
    · exact h
  · exact (w.alike_emit _).trans (.onSupervisor _ t (by simp))

theorem alike_readLines (w : World) (t : Nat) (σ : Child.Stream) (ls : List (List UInt8)) :
    w.Alike s (w.readLines t σ ls).1 := by
  induction ls generalizing w with
  | nil => exact .refl w
  | cons l ls ih =>
    have h := w.alike_readLine (s := s) t σ l
    unfold readLines
    split
    next v hv =>
      rw [hv] at h
      exact h.trans (ih v)
    next v hv => rwa [hv] at h

theorem alike_dropReader (w : World) (p : Nat) (σ : Child.Stream) :
    w.Alike s (w.dropReader p σ) := .onSupervisor w _ (by simp +contextual)

/-- Output that is read changes only buffers and complaints. -/
theorem alike_receive (w : World) (p : Nat) (σ : Child.Stream) (bs : List UInt8) :
    w.Alike s (w.receive p σ bs) := by
  unfold receive
  dsimp only
  split
  · exact .refl w
  next ρ hρ =>
    have h := w.alike_readLines (s := s) (w.child p).owner σ (ρ.buffer.feed bs).lines
    split
    next v β hv _ =>
      rw [hv] at h
      exact h.trans (.onSupervisor v _ (by simp +contextual))
    next hv _ =>
      rw [hv] at h
      exact h.trans (alike_dropReader ..)

/-- The end of a stream ends the reading of it. -/
theorem alike_closeStream (w : World) (p : Nat) (σ : Child.Stream) :
    w.Alike s (w.closeStream p σ) := by
  unfold closeStream
  split
  · exact .refl w
  · exact (w.alike_readLines ..).trans (alike_dropReader ..)

/-- What comes through a stream matters only to its reader. -/
theorem alike_deliver (w : World) (p : Nat) (σ : Child.Stream) (β : Option (List UInt8)) :
    w.Alike s (w.deliver p σ β) := by
  cases β with
  | some bs => exact alike_receive ..
  | none => exact alike_closeStream ..

/-! ## Acts -/

/-- The end of a process that the supervisor neither holds nor watches is passed on to others. -/
theorem alike_notice {q : Nat} (hq : (w.supervisor s).child ≠ some q)
    (hw : (w.supervisor s).watches ≠ some q) (n : Int) : w.Alike s (w.notice q n) := by
  unfold notice
  dsimp only
  split
  next ht =>
    have hs : (w.child q).owner ≠ s := by
      rintro rfl
      exact hw ht
    have h := (Alike.onChild_of_ne w hq (f := ({ · with seen := some n }))
      (by simp [Child.isAlive])).trans
      (.onSupervisor_of_ne _ hs ({ · with watches := none }))
    split
    · exact ((h.trans (alike_say ..)).trans (alike_say ..)).trans (.onSupervisor_of_ne _ hs _)
    · exact h.trans (alike_say ..)
  · exact .refl w

/-- Either something comes through a stream of the process that acts, or it ends: then its output is
read to the end unless something else keeps the streams open, and its watcher passes the end on. -/
theorem act_cases (w : World) (s q : Nat) :
    w.Alike s (w.act q) ∨ ∃ n v, q < w.children.length ∧ (w.child q).isAlive = true ∧
      (w.onChild q (·.finish n w.now)).Alike s v ∧ w.act q = v.notice q n := by
  unfold act
  split
  next t σ β _ =>
    exact .inl ((Alike.onChild w q (by simp)).trans (alike_deliver ..))
  next t n hn =>
    have hq : (w.child q).isAlive = true := Child.isAlive_of_exit hn
    have hl : q < w.children.length := by
      by_contra h
      rw [World.child, List.getD_eq_default _ _ (Nat.le_of_not_lt h)] at hn
      cases hn
    refine .inr ⟨n, _, hl, hq, ?_, rfl⟩
    refine (alike_emit _ (.exit n)).trans ?_
    split
    · exact .refl _
    · exact (alike_closeStream ..).trans (alike_closeStream ..)
  · exact .inl (.refl w)

/-- What a process does that the supervisor neither holds nor watches does not count. -/
theorem alike_act {q : Nat} (hq : (w.supervisor s).child ≠ some q)
    (hw : (w.supervisor s).watches ≠ some q) : w.Alike s (w.act q) := by
  obtain h | ⟨n, v, -, -, h, hv⟩ := w.act_cases s q
  · exact h
  · have hv' := (Alike.onChild_of_ne w hq (f := (·.finish n w.now))
      fun χ ↦ ⟨rfl, rfl, fun _ ↦ rfl⟩).trans h
    rw [hv]
    exact hv'.trans (alike_notice (by rwa [hv'.child]) (by rwa [hv'.watches]) n)

/-- To a supervisor that is not there an act does not count. -/
theorem alike_act_absent (w : World) (q : Nat) : w.Alike w.supervisors.length (w.act q) := by
  have hσ : w.supervisor w.supervisors.length = default := List.getD_eq_default _ _ (Nat.le_refl _)
  exact alike_act (by rw [hσ]; rintro ⟨⟩) (by rw [hσ]; rintro ⟨⟩)

/-- No process and no supervisor comes or goes by an act. -/
theorem length_act (w : World) (q : Nat) :
    (w.act q).supervisors.length = w.supervisors.length ∧
      (w.act q).children.length = w.children.length :=
  ⟨(w.alike_act_absent q).supervisors, (w.alike_act_absent q).children⟩

end World

end Proxy

end Sluice
