import Sluice.Proofs.Proxy.Hearing

/-!
# What becomes of output

From its launch until a supervisor lets go of a process, the supervisor knows at any moment what
went wrong last according to the lines that were completed on the streams of the process, and each
line that is not blank has been recorded once, in order (`relays_of_run`).  It does not matter how
output is cut into pieces, nor when the streams end: the report that a process has ended waits for
that up to a moment.

This fails for the standard output behind a line that is nested too deep, since the reader gives up
there (`not_forall_latest_of_run`).
-/

namespace Sluice.Proxy

open Child

namespace World

variable {b : Prop} {s p q : Nat} {w v u : World}

/-! ## Work of the supervisor -/

/-- From `w` to `v` the supervisor `s` let go of its process, or it still attends to it and nothing
was heard. -/
def Attends (b : Prop) (s : Nat) (w v : World) : Prop :=
  (v.supervisor s).child = none ∨
    (v.supervisor s).child = (w.supervisor s).child ∧ w.Unheard b s v

theorem Attends.refl (w : World) : w.Attends b s w := .inr ⟨rfl, .refl w⟩

/-- A supervisor attends to its process over work in two parts. -/
theorem Attends.trans (h : w.Attends b s v) (h' : v.Attends b s u) : w.Attends b s u := by
  obtain hc | ⟨hc', hu'⟩ := h'
  · exact .inl hc
  · exact h.imp hc'.trans fun ⟨hc, hu⟩ ↦ ⟨hc'.trans hc, hu.trans hu'⟩

/-- A record that is no news makes no difference to what is heard. -/
theorem attends_emit (w : World) (s : Nat) {ε : Event} (h : ε.isNews = false) :
    w.Attends b s (w.emit ε) := .inr ⟨rfl, .emit w s h⟩

/-- What a supervisor says itself is no news. -/
theorem attends_say (w : World) (s : Nat) (ι : Level) (x : String) : w.Attends b s (w.say ι x) :=
  w.attends_emit s rfl

/-- The state of a supervisor has nothing to do with what it hears. -/
theorem attends_setState (w : World) (s : Nat) (σ : State) :
    w.Attends b s (w.onSupervisor s ({ · with state := σ })) := by
  refine .inr ⟨?_, .onSupervisor w s s fun _ ↦ ⟨rfl, rfl⟩⟩
  rw [supervisor_onSupervisor]
  split <;> rfl

/-- A signal is no news. -/
theorem attends_terminate (w : World) (s q : Nat) : w.Attends b s (w.terminate q) :=
  (w.attends_emit s rfl).trans (.inr ⟨rfl, .onChild ..⟩)

theorem attends_kill (w : World) (s q : Nat) : w.Attends b s (w.kill q) :=
  (w.attends_emit s rfl).trans (.inr ⟨rfl, .onChild ..⟩)

/-- A supervisor that lets go of its process attends to it no more. -/
theorem InOrder.attends_release (h : v.InOrder s) : w.Attends b s (v.release s) :=
  .inl (child_release h)

/-- A stop that begins attends to the process, or lets go of it. -/
theorem InOrder.attends_stop (h : w.InOrder s) : w.Attends b s (w.stop s).1 := by
  unfold World.stop
  split
  · exact .refl w
  · have hs := (w.attends_say (b := b) s .info "Stopping proxy...").trans (attends_setState _ s .stopping)
    have ho := (h.of_akin (alike_say w .info "Stopping proxy...").toAkin).setState .stopping
    dsimp only
    split
    · exact ho.attends_release
    · exact hs.trans (attends_terminate ..)

/-- A stop that goes on attends to the process, or lets go of it. -/
theorem InOrder.attends_resume (h : w.InOrder s) (φ : StopPhase) :
    w.Attends b s (φ.resume s w).1 := by
  cases φ with
  | killed p => exact h.attends_release
  | grace p t =>
    have hk := (w.attends_say (b := b) s .warning "Force killing proxy...").trans (attends_kill _ s p)
    have ho := h.of_akin ((alike_say w .warning "Force killing proxy...").trans
      (alike_kill (s := s) _ p)).toAkin
    simp only [StopPhase.resume]
    split
    · exact h.attends_release
    · split
      · split
        · exact ho.attends_release
        · exact hk
      · exact ho.attends_release

/-- A stop that is given up attends to the process, or lets go of it. -/
theorem InOrder.attends_cancel (h : w.InOrder s) : w.Attends b s (StopPhase.cancel s w).1 :=
  .inl (h.cancel.done rfl)

/-- The end of a failed start has nothing to do with output. -/
theorem attends_settle (w : World) (s : Nat) (cause : Fault) (π : Stopping) :
    w.Attends b s (w.settle s cause π).1 := by
  unfold settle
  split
  · exact .refl w
  · exact w.attends_setState s .failed
  · exact .refl w

/-- A start that fails attends to its process, or lets go of it. -/
theorem InOrder.attends_fail (h : w.InOrder s) (cause : Fault) :
    w.Attends b s (w.fail s cause).1 := h.attends_stop.trans (attends_settle ..)

/-- A connection has nothing to do with output. -/
theorem attends_afterAttempt (w : World) (s p : Nat) (deadline : Time) (c : Bool) :
    w.Attends b s (w.afterAttempt s p deadline c).1 := by
  unfold afterAttempt
  split
  · exact (w.attends_setState s .running).trans (attends_say ..)
  · exact .refl w

/-- A look at a process that starts is no news. -/
theorem InOrder.attends_poll (h : w.InOrder s) (p : Nat) (deadline : Time) :
    w.Attends b s (w.poll s p deadline).1 := by
  unfold World.poll
  split
  · exact h.attends_fail _
  · split
    · split
      · exact .refl w
      · exact h.attends_fail _
    · have hc : w.Attends b s (w.connect s).1 := w.attends_emit s rfl
      dsimp only
      split
      · exact hc.trans (attends_afterAttempt ..)
      · exact hc

/-- A process that was launched is attended to while it gets ready. -/
theorem InOrder.attends_awaitReady (h : w.InOrder s) (p : Nat) :
    w.Attends b s (w.awaitReady s p).1 := by
  unfold World.awaitReady
  dsimp only
  split
  · exact h.attends_fail _
  · exact (w.attends_say s ..).trans ((h.of_akin (alike_say ..).toAkin).attends_poll ..)

/-! ## Launches -/

/-- The process that a supervisor has taken charge of has just begun. -/
theorem child_embarked (w : World) (s : Nat) (path : File.Path) :
    (w.embarked s path).child w.children.length =
      Child.launch (w.behaviours.headD {}) s w.now := child_withChild (w.tried s path) _

/-- Nothing has come yet through the streams of a process that was just launched. -/
theorem InOrder.follows_embarked (h : w.InOrder s) (path : File.Path) :
    (w.embarked s path).Follows b s w.children.length [] := by
  set n := w.children.length with hn
  have hσ : ((w.embarked s path).supervisor s).lastError = .text "" ∧
      ((w.embarked s path).supervisor s).readers =
        [{ child := n, stream := .output }, { child := n, stream := .errors }] := by
    have hl : ((w.tried s path).supervisor s).lastError = .text "" := by
      change ((w.announced s path).supervisor s).lastError = _
      simp [announced, h.known]
    have hk := (h.of_akin (w.akin_tried s path)).known
    rw [embarked, World.adopt, supervisor_onSupervisor, if_pos ⟨rfl, hk⟩]
    exact ⟨hl, rfl⟩
  constructor
  case readers =>
    intro ρ hρ
    rw [hσ.2] at hρ
    simp only [List.mem_cons, List.not_mem_nil, or_false] at hρ
    obtain rfl | rfl := hρ <;> rfl
  case reader? =>
    intro σ
    have hn : Output.isSilent [] σ = false := by cases σ <;> rfl
    rw [hσ.2, Output.reader?, hn]
    cases σ <;> simp [Reader.reads, Output.held, Output.unfinished, Output.on]
  case lastError => exact hσ.1
  case recorded => exact fun _ ↦ ⟨_, _, [], rfl, rfl⟩

/-! ## Everything together -/

/-- A supervisor has heard the lines that were completed on the streams of its process, if it holds
one whose lines are short so far.  If `b` holds nobody else hears anything. -/
structure Listens (b : Prop) (w : World) (s : Nat) : Prop where
  quiet {t : Nat} : b → t ≠ s → (w.supervisor t).readers = []
  ahead {p : Nat} : (w.supervisor s).child = some p → (w.child p).IsAhead
  follows {p : Nat} : (w.supervisor s).child = some p → (w.child p).written.IsShortLined →
    w.Follows b s p (w.child p).written

/-- A supervisor that holds no process has nothing to hear. -/
theorem Listens.of_none (hb : ∀ {t}, b → t ≠ s → (w.supervisor t).readers = [])
    (hc : (w.supervisor s).child = none) : w.Listens b s :=
  ⟨hb, fun hp ↦ (by cases hc.symm.trans hp), fun hp ↦ by cases hc.symm.trans hp⟩

/-- If nobody else reads anything then nobody does after the work of the supervisor. -/
theorem Listens.quiet_of_works (h : w.Listens b s) (hw : w.Works s v) {t : Nat} (hb : b)
    (ht : t ≠ s) : (v.supervisor t).readers = [] := by
  rw [hw.others ht]
  exact h.quiet hb ht

/-- A supervisor still listens after work of its own. -/
theorem Listens.works (h : w.Listens b s) (ho : w.InOrder s) (hw : w.Works s v)
    (ha : w.Attends b s v) : v.Listens b s := by
  obtain hc | ⟨hc, hu⟩ := ha
  · exact .of_none (h.quiet_of_works hw) hc
  · refine ⟨h.quiet_of_works hw, fun {p} hp ↦ ?_, fun {p} hp hl ↦ ?_⟩
    all_goals
      rw [hc] at hp
      have hχ := hw.signalled (ho.launched hp)
    · exact (h.ahead hp).congr hχ.behaviour hχ.writes hχ.rest hχ.code
    · rw [written_congr hχ.behaviour hχ.writes hχ.rest hχ.code] at hl ⊢
      exact (h.follows hp hl).still hu

/-- Where the processes, the supervisors and the record are the same, nothing new is heard. -/
theorem Listens.of_eq (h : w.Listens b s) (hs : v.supervisors = w.supervisors)
    (hc : v.children = w.children) (he : v.events = w.events) : v.Listens b s := by
  have hσ (t : Nat) : v.supervisor t = w.supervisor t := by rw [supervisor, hs, supervisor]
  have hχ (p : Nat) : v.child p = w.child p := by rw [World.child, hc, World.child]
  have hu : w.Unheard b s v := .of_eq hs he
  refine ⟨fun {t} hb ht ↦ by rw [hσ]; exact h.quiet hb ht, fun {p} hp ↦ ?_, fun {p} hp hl ↦ ?_⟩
  all_goals
    rw [hσ] at hp
    rw [hχ] at *
  · exact h.ahead hp
  · exact (h.follows hp hl).still hu

/-- A supervisor listens to whatever processes do. -/
theorem Listens.act (h : w.Listens b s) (ho : w.InOrder s) (q : Nat) : (w.act q).Listens b s := by
  refine ⟨fun {t} hb ht ↦ ?_, fun {p} hp ↦ ?_, fun {p} hp hl ↦ ?_⟩
  · have hr := h.quiet hb ht
    by_cases ho : (w.child q).owner = t
    · have hq (σ : Stream) : w.reader? q σ = none := by rw [World.reader?, ho, hr]; rfl
      rw [(w.unheard_act_of_reader? (b := False) t hq).readers, hr]
    · rw [(w.unheard_act_of_ne ho id).readers, hr]
  · rw [ho.child_act] at hp
    exact (isAhead_act (h.ahead hp) (ho.launched hp) q).1
  · rw [ho.child_act] at hp
    -- what came before was as short
    obtain ⟨u, hu⟩ := (isAhead_act (h.ahead hp) (ho.launched hp) q).2
    have hf := h.follows hp (hu ▸ hl).of_append
    exact hf.act (h.ahead hp) ho hp (fun hb t ht ↦ h.quiet hb ht) q hl

/-- A supervisor that has just launched its process listens to it. -/
theorem Listens.embarked (h : w.Listens b s) (ho : w.InOrder s)
    (hc : (w.supervisor s).child = none) (path : File.Path) : (w.embarked s path).Listens b s := by
  have hp {p : Nat} (hp : ((w.embarked s path).supervisor s).child = some p) :
      p = w.children.length :=
    Option.some_inj.mp (hp.symm.trans (ho.launched_embarked hc path).holds.1)
  refine ⟨fun {t} hb ht ↦ ?_, fun {p} h ↦ ?_, fun {p} h _ ↦ ?_⟩
  · have hu : ((w.announced s path).supervisor t).readers = [] := by
      rw [announced, supervisor_onSupervisor_of_ne _ ht.symm]
      exact h.quiet hb ht
    rw [World.embarked, World.adopt, supervisor_onSupervisor_of_ne _ ht.symm]
    exact hu
  · rw [hp h, child_embarked]
    exact isAhead_launch ..
  · rw [hp h, child_embarked, written_launch]
    exact ho.follows_embarked path

/-- A supervisor listens to a process that it launches. -/
theorem Listens.launchProxy (h : w.Listens b s) (ho : w.InOrder s)
    (hc : (w.supervisor s).child = none) (path : File.Path) :
    (w.launchProxy s path).1.Listens b s := by
  cases hr : (w.behaviours.headD {}).refusal with
  | some φ =>
    obtain ⟨-, v, φ', hv, he⟩ | ⟨hn, -⟩ := ho.launchProxy_cases hc path
    · refine .of_none (h.quiet_of_works (w.works_launchProxy s path)) ?_
      rw [he]
      exact hv.child.trans hc
    · cases hr.symm.trans hn
  | none =>
    rw [w.launchProxy_eq, hr]
    have hl := (ho.launched_embarked hc path).order
    exact (h.embarked ho hc path).works hl (works_awaitReady ..) (hl.attends_awaitReady _)

/-- A supervisor that looks for its program listens to what it launches. -/
theorem Listens.obtain (h : w.Listens b s) (ho : w.InOrder s)
    (hc : (w.supervisor s).child = none) : (w.obtain s).1.Listens b s := by
  have hf := alike_fetch (s := s) w s
  have hv : (w.fetch s).1.Listens b s := .of_none (h.quiet_of_works (w.works_fetch s s))
    (hf.child.trans hc)
  unfold World.obtain
  split
  next v φ he => rwa [he] at hv
  next v path he =>
    rw [he] at hv hf
    exact hv.launchProxy (ho.of_akin hf.toAkin) (hf.child.trans hc) path

/-- A supervisor that waits for its program has nothing to hear. -/
theorem Listens.provide (h : w.Listens b s) (ho : w.InOrder s)
    (hc : (w.supervisor s).child = none) : (w.provide s).1.Listens b s := by
  unfold World.provide
  split
  · exact h
  · split
    · exact h
    · exact h.obtain ho hc

/-- A supervisor that has stopped an earlier process listens to the next one. -/
theorem Listens.cleared {r : World × Stopping} (h : r.1.Listens b s) (hf : StopFits s r) :
    (r.1.cleared s r.2).1.Listens b s := by
  obtain ⟨w, π⟩ := r
  unfold World.cleared
  split
  · exact h
  next hd => exact h.provide hf.order (hf.done hd)
  · exact h

/-- A supervisor listens while it begins to stop its process. -/
theorem Listens.stop (h : w.Listens b s) (ho : w.InOrder s) : (w.stop s).1.Listens b s :=
  h.works ho (w.works_stop s) ho.attends_stop

/-- A supervisor listens while it goes on to stop its process. -/
theorem Listens.resume (h : w.Listens b s) (ho : w.InOrder s) (φ : StopPhase) :
    (φ.resume s w).1.Listens b s := h.works ho (φ.works_resume s w) (ho.attends_resume φ)

/-- A supervisor listens when it gives up stopping its process. -/
theorem Listens.cancel (h : w.Listens b s) (ho : w.InOrder s) :
    (StopPhase.cancel s w).1.Listens b s :=
  h.works ho (StopPhase.works_cancel s w) ho.attends_cancel

/-- A supervisor listens when its start fails. -/
theorem Listens.fail (h : w.Listens b s) (ho : w.InOrder s) (cause : Fault) :
    (w.fail s cause).1.Listens b s := h.works ho (w.works_fail s cause) (ho.attends_fail cause)

/-- A supervisor listens when it begins to start the proxy. -/
theorem Listens.start (h : w.Listens b s) (ho : w.InOrder s) : (w.start s).1.Listens b s := by
  unfold World.start
  split
  · exact h.works ho (w.works_say ..) (w.attends_say ..)
  · exact (h.stop ho).cleared ho.stop

/-- A supervisor listens when a failed start has come to a point. -/
theorem Listens.settle {r : World × Stopping} (h : r.1.Listens b s) (hf : StopFits s r)
    (cause : Fault) : (r.1.settle s cause r.2).1.Listens b s :=
  h.works hf.order (works_settle ..) (attends_settle ..)

/-- A supervisor listens when its start goes on. -/
theorem Listens.resumeStart {φ : StartPhase} (h : w.Listens b s) (ho : w.InOrder s)
    (hφ : φ.Fits w s) : (φ.resume s w).1.Listens b s := by
  cases φ with
  | clearing φ => exact (h.resume ho φ).cleared (ho.resume hφ)
  | fetching t => exact h.obtain ho hφ
  | connecting p deadline α => exact h.works ho (w.works_afterAttempt ..) (w.attends_afterAttempt ..)
  | pausing p deadline t => exact h.works ho (w.works_poll ..) (ho.attends_poll ..)
  | draining p n t => exact h.fail ho _
  | cleaning φ cause => exact (h.resume ho φ).settle (ho.resume hφ) cause

/-- A supervisor listens when its start is given up. -/
theorem Listens.cancelStart {φ : StartPhase} (h : w.Listens b s) (ho : w.InOrder s)
    (hφ : φ.Fits w s) : (φ.cancel s w).1.Listens b s := by
  cases φ with
  | clearing φ => exact (h.cancel ho).cleared ho.cancel
  | fetching t =>
    have hf := (alike_interrupted (s := s) w).trans (alike_fetch w.interrupted s)
    exact .of_none (h.quiet_of_works ((w.works_interrupted s).trans (works_fetch ..)))
      (hf.child.trans hφ)
  | connecting p deadline α | pausing p deadline t | draining p n t => exact h.fail ho _
  | cleaning φ cause => exact (h.cancel ho).settle ho.cancel cause

end World

/-! ## Runs -/

namespace Supervision

variable {b : Prop} {s : Nat} {ς : Supervision}

theorem world_ofStart (r : World × Starting) : (ofStart r).world = r.1 := by
  obtain ⟨w, φ | ρ⟩ := r <;> rfl

theorem world_ofStop (r : World × Stopping) : (ofStop r).world = r.1 := by
  obtain ⟨w, φ | ρ⟩ := r <;> rfl

/-- Whatever happens next, the supervisor listens. -/
theorem listens_move (h : ς.world.Listens b s) (hs : ς.IsSound s) (μ : Move) :
    (move s ς μ).world.Listens b s := by
  obtain ⟨w, τ⟩ := ς
  obtain ⟨ho, hτ⟩ := hs
  cases μ with
  | act q => cases τ <;> exact World.Listens.act h ho q
  | turn v => cases τ <;> exact World.Listens.of_eq h rfl rfl rfl
  | start =>
    cases τ with
    | rest => exact world_ofStart _ ▸ World.Listens.start h ho
    | starting φ | stopping φ => exact h
  | stop =>
    cases τ with
    | rest => exact world_ofStop _ ▸ World.Listens.stop h ho
    | starting φ | stopping φ => exact h
  | resume =>
    cases τ with
    | rest => exact h
    | starting φ => exact world_ofStart _ ▸ World.Listens.resumeStart h ho hτ
    | stopping φ => exact world_ofStop _ ▸ World.Listens.resume h ho φ
  | cancel =>
    cases τ with
    | rest => exact h
    | starting φ => exact world_ofStart _ ▸ World.Listens.cancelStart h ho hτ
    | stopping φ => exact world_ofStop _ ▸ World.Listens.cancel h ho

/-- Whatever happens, the supervisor listens. -/
theorem listens_run (h : ς.world.Listens b s) (hs : ς.IsSound s) (μs : List Move) :
    (run s ς μs).world.Listens b s := by
  induction μs generalizing ς with
  | nil => exact h
  | cons μ μs ih => exact ih (listens_move h hs μ) (hs.move μ)

end Supervision

/-! ## What is made of output -/

namespace World

variable {b : Prop} {s p : Nat} {w : World}

/-- What has been recorded of output since the last launch. -/
def news (w : World) : List Event :=
  (w.events.filter Event.isNews).rtakeWhile fun ε ↦ ε matches .log ..

/-- If nobody else hears anything then all that is recorded of output is what the supervisor heard.
-/
theorem Follows.news_eq {o : Output} (h : w.Follows b s p o) (hb : b) :
    w.news = (heard o.lines).filterMap Line.record? := by
  obtain ⟨εs, command, ηs, he, hn⟩ := h.recorded hb
  have hlog : ∀ ε ∈ ηs.filter Event.isNews, (ε matches .log ..) = true := by
    intro ε hε
    rw [hn] at hε
    obtain ⟨⟨_ | _, bs⟩, -, hr⟩ := List.mem_filterMap.mp hε
    all_goals
      obtain ⟨l, -, rfl⟩ := Option.map_eq_some_iff.mp hr
      rfl
  have hs : Event.isNews (.spawn command) = true := rfl
  rw [news, he, List.filter_append, List.filter_cons_of_pos hs, List.rtakeWhile, List.reverse_append,
    List.reverse_cons, List.append_assoc, List.takeWhile_append_of_pos (by simpa using hlog)]
  simp [hn]

/-- What a failed start says went wrong. -/
def said (v : Value) : String := if v.isTruthy then v.plainString else "Unknown error"

/-- What a supervisor makes of the output of its process: it has heard the lines `ℓs`.  If `b` holds
nothing else was recorded. -/
structure Tells (b : Prop) (w : World) (s : Nat) (ℓs : List Line) : Prop where
  lastError : (w.supervisor s).lastError = latest (.text "") ℓs
  news : b → w.news = ℓs.filterMap Line.record?

/-- A supervisor reads on until nothing more is to be heard on either stream of its process. -/
theorem Follows.isReading_eq_false_iff {o : Output} (h : w.Follows b s p o) :
    w.isReading s p = false ↔ ∀ σ, o.isSilent σ = true := by
  rw [isReading, List.any_eq_false]
  refine ⟨fun hn σ ↦ ?_, fun hσ ρ hρ hp ↦ ?_⟩
  · by_contra hc
    have hf := h.reader? σ
    rw [Output.reader?, if_neg hc] at hf
    exact hn _ (List.mem_of_find?_eq_some hf) (by simp)
  · have hf := h.reader? ρ.stream
    rw [Output.reader?, if_pos (hσ _), List.find?_eq_none] at hf
    exact hf ρ hρ (by simpa [Reader.reads] using hp)

/-- What becomes of the output of the process `p` that a supervisor holds. -/
structure Relays (b : Prop) (w : World) (s p : Nat) : Prop where
  /-- What is still to come through the streams is the end of all that does. -/
  ahead : (w.child p).IsAhead
  tells : w.Tells b s (heard (w.child p).lines)
  /-- These are all the lines, unless one with a text is on the standard output behind one that is
  nested too deep. -/
  whole : ((w.child p).lines.Pairwise fun ℓ κ ↦
    ℓ.isTooDeep = true → κ.hasText = true → κ.stream = .errors) → w.Tells b s (w.child p).lines
  /-- If one is, then something was not recorded. -/
  lossy : b → w.Tells b s (w.child p).lines → (w.child p).lines.Pairwise fun ℓ κ ↦
    ℓ.isTooDeep = true → κ.hasText = true → κ.stream = .errors
  /-- These are the lines of the complete output once both streams have ended. -/
  complete : (∀ σ, (w.child p).written.isClosed σ = true) →
    (w.child p).complete.lines = (w.child p).lines
  /-- The process has ended when its end is known.  A start that finds this out waits until nothing
  more is to be heard on either stream, or the time for that is up. -/
  awaits {n : Int} : (w.child p).seen = some n → (w.child p).isAlive = false ∧ ∀ d t,
    ((StartPhase.draining p n t).isReady s w = true ↔
        (∀ σ, (w.child p).written.isSilent σ = true) ∨ t ≤ w.now) ∧
      (w.now < d → ¬ (∀ σ, (w.child p).written.isSilent σ = true) →
        ((StartPhase.pausing p d t).resume s w).2 =
          .waiting (.draining p n (w.now + drainTimeout)))
  /-- Then it reports what went wrong last according to the lines that were heard. -/
  report {n : Int} : (w.child p).seen = some n → ∀ d t,
    ((StartPhase.draining p n t).resume s w).2 =
        .done (.error (exitReport n (said (latest (.text "") (heard (w.child p).lines))))) ∧
      (w.now < d → (∀ σ, (w.child p).written.isSilent σ = true) →
        ((StartPhase.pausing p d t).resume s w).2 =
          .done (.error (exitReport n (said (latest (.text "") (heard (w.child p).lines))))))

/-- A supervisor that has heard all that came makes of it what it should. -/
theorem Follows.relays (h : w.Follows b s p (w.child p).written) (hχ : (w.child p).IsAhead)
    (ho : w.InOrder s) (hp : (w.supervisor s).child = some p) : w.Relays b s p where
  ahead := hχ
  complete := lines_complete
  tells := ⟨h.lastError, h.news_eq⟩
  whole hw := by
    have hh := filter_hasText_heard_iff.mpr hw
    refine ⟨h.lastError.trans (latest_heard _ hh), fun hb ↦ ?_⟩
    exact (h.news_eq hb).trans (filterMap_record?_heard_iff.mpr hh)
  lossy hb ht := by
    rw [← filter_hasText_heard_iff, ← filterMap_record?_heard_iff]
    exact (h.news_eq hb).symm.trans (ht.news hb)
  awaits {n} hn := by
    have hs : w.hasSeen p = true := by rw [hasSeen, hn]; rfl
    have hi := h.isReading_eq_false_iff
    refine ⟨by simpa [hs] using ho.hasSeen hp, fun d t ↦ ⟨?_, fun hd hr ↦ ?_⟩⟩
    · rw [StartPhase.isReady, ← hi]
      simp
    · rw [← hi, Bool.not_eq_false] at hr
      rw [StartPhase.resume, poll, if_neg (Int.not_le.mpr hd), hn]
      dsimp only
      rw [if_pos hr]
  report {n} hn := by
    have hs : w.hasSeen p = true := by rw [hasSeen, hn]; rfl
    have hr : (w.reportExit s n).2 =
        .done (.error (exitReport n (said (latest (.text "") (heard (w.child p).lines))))) := by
      obtain ⟨v, hv, -⟩ := ho.fail_of_hasSeen hp hs
        (exitReport n (w.lastErrorOr s "Unknown error"))
      have he : w.lastErrorOr s "Unknown error" =
          said (latest (.text "") (heard (w.child p).lines)) := by
        rw [lastErrorOr, h.lastError, said, Child.lines]
      rw [← he]
      exact congrArg Prod.snd hv
    refine fun d t ↦ ⟨hr, fun hd hi ↦ ?_⟩
    rw [StartPhase.resume, poll, if_neg (Int.not_le.mpr hd), hn]
    dsimp only
    rw [if_neg (by simp [h.isReading_eq_false_iff.mpr hi])]
    exact hr

end World

/-- Whatever a supervisor that began with nothing has come to: of the output of the process that it
holds it knows what went wrong last and has recorded every line, as far as lines are heard. -/
theorem relays_of_run {w : World} {s : Nat} (h : w.IsFresh s) (μs : List Supervision.Move) {p : Nat}
    (hp : ((Supervision.run s ⟨w, .rest⟩ μs).world.supervisor s).child = some p)
    (hl : ((Supervision.run s ⟨w, .rest⟩ μs).world.child p).written.IsShortLined) :
    (Supervision.run s ⟨w, .rest⟩ μs).world.Relays
      (∀ t, t ≠ s → (w.supervisor t).readers = []) s p := by
  have hw : w.Listens (∀ t, t ≠ s → (w.supervisor t).readers = []) s := by
    obtain ⟨⟨κ, hκ⟩, -⟩ := h
    refine .of_none (fun hb ht ↦ hb _ ht) ?_
    rw [World.supervisor, List.getD_eq_getElem?_getD, hκ, Option.getD_some]
  have hv := Supervision.listens_run hw h.isSound μs
  exact (hv.follows hp hl).relays (hv.ahead hp) (h.isSound.run μs).1 hp

/-- A process to come that closes its standard output and ends at once.  Its error stream outlives
it, and a line comes through that later. -/
def lingering : World :=
  { stubborn with behaviours :=
    [{ closes := [(0, .output)]
       ending := some (0, 3)
       holdsPipes := true
       remainder := [(600000, .errors, some [98, 111, 111, 109, 10])] }] }

/-- The report of its end tells what came last. -/
example :
    let ς := Supervision.run 0 ⟨lingering, .rest⟩ [.start, .act 0, .act 0, .resume, .act 0]
    (match ς.task with
      | .starting φ => (match (φ.resume 0 ς.world).2 with
        | .done (.error ε) => ε.message
        | _ => "")
      | _ => "") = "Cloud SQL Proxy exited unexpectedly (code: 3). Error: boom" := by
  decide +kernel

/-! ## A line that is nested too deep -/

/-- A line that opens two thousand brackets. -/
def brackets : List UInt8 := List.replicate 2000 91

/-- The record of an error, as it is written. -/
def boom : List UInt8 :=
  "\x7b\"level\":\"error\",\"message\":\"boom\"\x7d".toList.map fun c ↦ c.toNat.toUInt8

/-- A process to come that writes the one and then the other. -/
def nested : World :=
  { stubborn with behaviours :=
    [{ listens := some 0
       writes := [(100000, .output, brackets ++ [10] ++ (boom ++ [10]))] }] }

theorem isFresh_nested : nested.IsFresh 0 := ⟨⟨_, rfl⟩, fun _ hχ ↦ by cases hχ⟩

/-- What has come of it when it has written that. -/
theorem run_nested :
    let w := (Supervision.run 0 ⟨nested, .rest⟩ [.start, .act 0]).world
    (w.supervisor 0).child = some 0 ∧ (w.child 0).behaviour.IsShortLined ∧
      (w.child 0).lines = [⟨.output, brackets⟩, ⟨.output, boom⟩] := by
  intro w
  set v := (Supervision.run 0 ⟨nested, .rest⟩ [.start]).world with hv
  let bs : List UInt8 := brackets ++ [10] ++ (boom ++ [10])
  have ho : v.InOrder 0 := (isFresh_nested.isSound.run [.start]).1
  have hc : (v.supervisor 0).child = some 0 := by decide +kernel
  have hs : (v.child 0).behaviour.script = [(.output, some bs)] := by decide +kernel
  have hw : (v.child 0).writes.map Prod.snd = [(.output, some bs)] := by decide +kernel
  have hn : (v.child 0).nextAct?.map Prod.snd = some (.write .output (some bs)) := by decide +kernel
  have ha : (v.child 0).isAlive = true := by decide +kernel
  have hβ : (v.child 0).behaviour.holdsPipes = false := by decide +kernel
  obtain ⟨⟨t, a⟩, hn, rfl⟩ := Option.map_eq_some_iff.mp hn
  have hχ : w.child 0 = (v.child 0).flush := World.child_act_of_write (ho.launched hc) hn
  have hahead : (v.child 0).IsAhead :=
    ⟨⟨[], hw.trans hs.symm⟩, fun hd ↦ by cases ha.symm.trans hd⟩
  have hv₀ : (v.child 0).written = [] := written_eq_nil ha (hs.trans hw.symm)
  have hwritten : (w.child 0).written =
      .ofPieces ([brackets, boom].map fun l ↦ (.output, some (l ++ [10]))) := by
    rw [hχ, (hahead.flush hn).2, hv₀]
    simp [Output.ofPieces, Output.piece, bs]
  refine ⟨(ho.child_act 0).trans hc, ?_, ?_⟩
  · rw [hχ, behaviour_flush]
    intro n
    rw [hs, Behaviour.aftermath, hβ]
    refine Output.isShortLined_of_length ?_
    have hl : bs.length + 2 < streamLimit := by decide +kernel
    cases n with
    | zero => exact Nat.lt_of_le_of_lt (Nat.le_add_left ..) hl
    | succ n => simpa [Output.ofPieces, Output.piece] using hl
  · have hb : ∀ l ∈ [brackets, boom], 10 ∉ l := by decide +kernel
    rw [Child.lines, hwritten]
    exact Output.linesAfter_ofPieces rfl rfl hb

/-- A record that is refused as nested too deep makes its line one that is. -/
theorem Line.isTooDeep_of_read {bs : List UInt8} {cs : List Char}
    (h : lineText? bs = some (String.ofList cs)) (hr : (match Json.read false cs with
      | .error ⟨.tooDeep _, _⟩ => true
      | _ => false) = true) : Line.isTooDeep ⟨.output, bs⟩ = true := by
  rw [isTooDeep, h, Option.any_some, String.toList_ofList]
  exact hr

/-- The line of brackets is nested too deep. -/
theorem isTooDeep_brackets : Line.isTooDeep ⟨.output, brackets⟩ = true := by
  have hd : Text.trim (Text.Utf8.decode brackets) = List.replicate 2000 '[' := by decide +kernel
  have ht : lineText? brackets = some (String.ofList (List.replicate 2000 '[')) := by
    have he : (List.replicate 2000 '[').isEmpty = false := rfl
    rw [lineText?, hd, he]
    rfl
  exact Line.isTooDeep_of_read ht (by decide +kernel)

/-- The other line complains. -/
theorem complaint?_boom : (Line.complaint? ⟨.output, boom⟩).map Value.plainString = some "boom" := by
  decide +kernel

/-- What went wrong is not always known: behind a line that is nested too deep the standard output
is not read. -/
theorem not_forall_latest_of_run : ¬ ∀ (w : World) (s : Nat) (μs : List Supervision.Move) (p : Nat),
    w.IsFresh s → ((Supervision.run s ⟨w, .rest⟩ μs).world.supervisor s).child = some p →
    ((Supervision.run s ⟨w, .rest⟩ μs).world.child p).behaviour.IsShortLined →
    ((Supervision.run s ⟨w, .rest⟩ μs).world.supervisor s).lastError =
      latest (.text "") ((Supervision.run s ⟨w, .rest⟩ μs).world.child p).lines := by
  intro h
  obtain ⟨hc, hβ, hl⟩ := run_nested
  have hlisten := Supervision.listens_run (b := False) (World.Listens.of_none False.elim rfl)
    isFresh_nested.isSound [.start, .act 0]
  have hn := h nested 0 [.start, .act 0] 0 isFresh_nested hc hβ
  obtain ⟨v, hv, hboom⟩ := Option.map_eq_some_iff.mp complaint?_boom
  have hheard : heard [⟨.output, brackets⟩, ⟨.output, boom⟩] = [⟨.output, brackets⟩] := by
    rw [heard, if_pos isTooDeep_brackets]
    rfl
  have hnone := Line.complaint?_of_isTooDeep isTooDeep_brackets
  rw [(hlisten.follows hc (isShortLined_written hβ)).lastError, ← Child.lines, hl, hheard] at hn
  have he : Value.text "" = v := by simpa [latest, hnone, hv] using hn
  rw [← he] at hboom
  exact absurd hboom (by decide +kernel)

/-- Of the two lines the first one is heard. -/
theorem relays_of_run_nested :
    let w := (Supervision.run 0 ⟨nested, .rest⟩ [.start, .act 0]).world
    nested.IsFresh 0 ∧ (w.supervisor 0).child = some 0 ∧ (w.child 0).written.IsShortLined ∧
      w.Relays (∀ t, t ≠ 0 → (nested.supervisor t).readers = []) 0 0 := by
  intro w
  obtain ⟨hc, hβ, -⟩ := run_nested
  have hl := isShortLined_written hβ
  exact ⟨isFresh_nested, hc, hl, relays_of_run isFresh_nested [.start, .act 0] hc hl⟩

end Sluice.Proxy
