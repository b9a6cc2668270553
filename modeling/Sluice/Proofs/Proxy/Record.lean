import Sluice.Proofs.Proxy.View

/-!
# What is recorded

The record of a world only grows.  How it does so is told by the events of one kind among the new
ones (`World.Records`): the signals, say, or the tries to connect.  Processes that act by themselves
add to the log and record their ends, and nothing else (`World.records_act`).
-/

namespace Sluice

/-- The events that `f` takes are not what supervisors say. -/
structure Event.SkipsTalk (f : Event → Bool) : Prop where
  say (ι : Level) (x : String) : f (.log ι .proxy x) = false

/-- Nor are they output or the ends of processes. -/
structure Event.SkipsActs (f : Event → Bool) : Prop extends SkipsTalk f where
  output (ι : Level) (x : String) : f (.log ι .proxyOutput x) = false
  errors (ι : Level) (x : String) : f (.log ι .proxyErrors x) = false
  exit (n : Int) : f (.exit n) = false

/-- Nor are they signals to processes. -/
structure Event.SkipsSignals (f : Event → Bool) : Prop extends SkipsTalk f where
  terminate : f .terminate = false
  kill : f .kill = false

/-- They are none of these. -/
structure Event.Skips (f : Event → Bool) : Prop extends SkipsActs f, SkipsSignals f

namespace Proxy

open Child

namespace World

/-- From `w` to `v` the record grows, and `εs` are the events that `f` takes among the new ones. -/
def Records (f : Event → Bool) (w v : World) (εs : List Event) : Prop :=
  ∃ ηs, v.events = w.events ++ ηs ∧ ηs.filter f = εs

variable {f : Event → Bool} {w v u : World} {εs ηs : List Event}

namespace Records

theorem of_eq (h : v.events = w.events) : w.Records f v [] := ⟨[], by simp [h], rfl⟩

theorem refl (w : World) : w.Records f w [] := of_eq rfl

theorem trans (h : w.Records f v εs) (h' : v.Records f u ηs) : w.Records f u (εs ++ ηs) := by
  obtain ⟨α, hα, rfl⟩ := h
  obtain ⟨β, hβ, rfl⟩ := h'
  exact ⟨α ++ β, by rw [hβ, hα, List.append_assoc], List.filter_append ..⟩

/-- Nothing that counts is added before. -/
theorem trans_right (h : w.Records f v []) (h' : v.Records f u εs) : w.Records f u εs := h.trans h'

/-- Nothing that counts is added behind. -/
theorem trans_left (h : w.Records f v εs) (h' : v.Records f u []) : w.Records f u εs := by
  simpa using h.trans h'

end Records

theorem records_emit (w : World) {ε : Event} (h : f ε = true) : w.Records f (w.emit ε) [ε] :=
  ⟨[ε], rfl, by simp [h]⟩

theorem records_emit_nil (w : World) {ε : Event} (h : f ε = false) : w.Records f (w.emit ε) [] :=
  ⟨[ε], rfl, by simp [h]⟩

/-! ## Acts -/

theorem records_say (hf : Event.SkipsTalk f) (w : World) (ι : Level) (x : String) :
    w.Records f (w.say ι x) [] := w.records_emit_nil (hf.say ι x)

theorem records_release (hf : Event.SkipsTalk f) (w : World) (s : Nat) :
    w.Records f (w.release s) [] := (Records.of_eq rfl).trans (records_say hf ..)

section Acts

variable (hf : Event.SkipsActs f)
include hf

theorem records_readLine (w : World) (s : Nat) (σ : Stream) (bs : List UInt8) :
    w.Records f (w.readLine s σ bs).1 [] := by
  unfold readLine
  split
  · exact .refl w
  next l _ =>
    have h : w.Records f (w.log .info .proxyOutput l) [] := w.records_emit_nil (hf.output .info l)
    dsimp only
    split
    · exact h.trans (.of_eq rfl)
    · exact h
    · exact h
  · exact (w.records_emit_nil (hf.errors ..)).trans (.of_eq rfl)

theorem records_readLines (w : World) (s : Nat) (σ : Stream) (ls : List (List UInt8)) :
    w.Records f (w.readLines s σ ls).1 [] := by
  induction ls generalizing w with
  | nil => exact .refl w
  | cons l ls ih =>
    have h := w.records_readLine hf s σ l
    unfold readLines
    split
    next v hv =>
      rw [hv] at h
      exact h.trans (ih v)
    next v hv => rwa [hv] at h

theorem records_receive (w : World) (p : Nat) (σ : Stream) (bs : List UInt8) :
    w.Records f (w.receive p σ bs) [] := by
  unfold receive
  dsimp only
  split
  · exact .refl w
  next ρ _ =>
    have h := w.records_readLines hf (w.child p).owner σ (ρ.buffer.feed bs).lines
    split
    next v β hv _ =>
      rw [hv] at h
      exact h.trans (.of_eq rfl)
    next hv _ =>
      rw [hv] at h
      exact h.trans (.of_eq rfl)

theorem records_closeStream (w : World) (p : Nat) (σ : Stream) :
    w.Records f (w.closeStream p σ) [] := by
  unfold closeStream
  split
  · exact .refl w
  · exact (w.records_readLines hf ..).trans (.of_eq rfl)

theorem records_deliver (w : World) (p : Nat) (σ : Stream) (β : Option (List UInt8)) :
    w.Records f (w.deliver p σ β) [] := by
  cases β with
  | some bs => exact records_receive hf ..
  | none => exact records_closeStream hf ..

theorem records_notice (w : World) (p : Nat) (n : Int) : w.Records f (w.notice p n) [] := by
  unfold notice
  dsimp only
  split
  · split
    · exact (records_say hf.toSkipsTalk ..).trans
        ((records_say hf.toSkipsTalk ..).trans (.of_eq rfl))
    · exact records_say hf.toSkipsTalk ..
  · exact .refl w

/-- What processes do by themselves is not among the events that count. -/
theorem records_act (w : World) (q : Nat) : w.Records f (w.act q) [] := by
  unfold act
  split
  · exact records_deliver hf ..
  next t n _ =>
    have h : w.Records f ((w.onChild q (·.finish n w.now)).emit (.exit n)) [] :=
      records_emit_nil (w.onChild q (·.finish n w.now)) (hf.exit n)
    unfold exit
    dsimp only
    split
    · exact h.trans (records_notice hf ..)
    · exact ((h.trans (records_closeStream hf ..)).trans (records_closeStream hf ..)).trans
        (records_notice hf ..)
  · exact .refl w

end Acts

/-! ## Work of a supervisor -/

theorem records_settle (w : World) (s : Nat) (cause : Fault) (π : Stopping) :
    w.Records f (w.settle s cause π).1 [] := by
  unfold settle
  split
  · exact .refl w
  · exact .of_eq rfl
  · exact .refl w

section Work

variable (hf : Event.SkipsSignals f)
include hf

theorem records_terminate (w : World) (p : Nat) : w.Records f (w.terminate p) [] :=
  (w.records_emit_nil hf.terminate).trans (.of_eq rfl)

theorem records_kill (w : World) (p : Nat) : w.Records f (w.kill p) [] :=
  (w.records_emit_nil hf.kill).trans (.of_eq rfl)

theorem records_stop (w : World) (s : Nat) : w.Records f (w.stop s).1 [] := by
  unfold stop
  split
  · exact .refl w
  · have h : w.Records f
        ((w.say .info "Stopping proxy...").onSupervisor s ({ · with state := .stopping })) [] :=
      (records_say hf.toSkipsTalk ..).trans (.of_eq rfl)
    dsimp only
    split
    · exact h.trans (records_release hf.toSkipsTalk ..)
    · exact h.trans (records_terminate hf ..)

theorem records_resume (s : Nat) (w : World) (φ : StopPhase) :
    w.Records f (φ.resume s w).1 [] := by
  cases φ with
  | killed p => exact records_release hf.toSkipsTalk w s
  | grace p t =>
    have h := (records_say hf.toSkipsTalk w .warning "Force killing proxy...").trans
      (records_kill hf _ p)
    simp only [StopPhase.resume]
    split
    · exact records_release hf.toSkipsTalk w s
    · split
      · split
        · exact h.trans (records_release hf.toSkipsTalk ..)
        · exact h
      · exact h.trans (records_release hf.toSkipsTalk ..)

theorem records_fail (w : World) (s : Nat) (cause : Fault) : w.Records f (w.fail s cause).1 [] :=
  (records_stop hf w s).trans (records_settle ..)

end Work

end World

end Proxy

end Sluice
