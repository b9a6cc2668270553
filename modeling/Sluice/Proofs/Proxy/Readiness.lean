import Sluice.Proofs.Proxy.Polling
import Sluice.Proofs.Proxy.Supervision

/-!
# Starts that end well

A start that launches a process and ends well leaves the supervisor running that process, which is
alive at that moment, and since the launch a connection to the port was accepted in time
(`ready_of_inOrder`).
-/

namespace Sluice

/-- Whether an event is the launch of a process or a try to connect. -/
def Event.isLaunch : Event → Bool
  | spawn _ | connect .. => true
  | _ => false

theorem Event.skips_isLaunch : Skips isLaunch where
  say _ _ := rfl
  output _ _ := rfl
  errors _ _ := rfl
  exit _ := rfl
  terminate := rfl
  kill := rfl

namespace Proxy

namespace World

variable {s p q : Nat} {d : Time} {w v u : World}

/-- After `w` a process was launched, and then the connections `εs` were tried. -/
def Launches (w v : World) (εs : List Event) : Prop :=
  ∃ ηs c, w.Records Event.isLaunch v (ηs ++ .spawn c :: εs)

/-- Connections that are tried after a launch count for it. -/
theorem Launches.trans {εs θs : List Event} (h : w.Launches v εs)
    (hu : v.Records Event.isLaunch u θs) : w.Launches u (εs ++ θs) := by
  obtain ⟨ηs, c, hr⟩ := h
  exact ⟨ηs, c, by simpa using hr.trans hu⟩

/-- What tries no connection makes no difference to a launch. -/
theorem Launches.trans_left {εs : List Event} (h : w.Launches v εs)
    (hu : v.Records Event.isLaunch u []) : w.Launches u εs := by simpa using h.trans hu

/-- The supervisor waits for a process to get ready that was launched after `w`. -/
structure Awaits (w : World) (s q : Nat) (v : World) : Prop where
  order : v.InOrder s
  holds : v.Holds s q .starting
  isNew : w.children.length ≤ q
  launched : ∃ εs, w.Launches v εs

/-- A supervisor that waits goes on to wait where nothing that it sees has changed. -/
theorem Awaits.of_alike (h : w.Awaits s q v) (ha : v.Alike s u) {θs : List Event}
    (hr : v.Records Event.isLaunch u θs) : w.Awaits s q u where
  order := h.order.of_akin ha.toAkin
  holds := h.holds.of_alike ha
  isNew := h.isNew
  launched := h.launched.imp' (· ++ θs) fun _ hl ↦ hl.trans hr

/-- A supervisor waits, whatever processes do. -/
theorem Awaits.act (h : w.Awaits s q v) (r : Nat) : w.Awaits s q (v.act r) where
  order := h.order.act r
  holds := h.holds.act (by decide) h.order r
  isNew := h.isNew
  launched := h.launched.imp fun _ hl ↦
    hl.trans_left (records_act Event.skips_isLaunch.toSkipsActs v r)

/-- A connection to the port of the supervisor is tried in `v`, and it is accepted in time. -/
structure Answers (s : Nat) (w v : World) : Prop where
  isOpen : v.isOpen = true
  latency : v.network.latency ≤ connectTimeout
  tried : ∃ εs, w.Launches v εs ∧ .connect host (v.supervisor s).config.port v.now ∈ εs

/-- A connection is accepted still where nothing has changed. -/
theorem Answers.of_stays (h : w.Answers s v) (hs : v.Stays u) (hc : u.children = v.children)
    (hr : v.Records Event.isLaunch u []) : w.Answers s u where
  isOpen := by rw [World.isOpen, hs.network, hc, hs.now]; exact h.isOpen
  latency := hs.network ▸ h.latency
  tried := by
    obtain ⟨εs, hl, hm⟩ := h.tried
    exact ⟨εs, hl.trans_left hr, by rwa [hs.config, hs.now]⟩

/-- A connection that has come to its end takes no time. -/
theorem stays_afterAttempt (v : World) (s q : Nat) (d : Time) (b : Bool) :
    v.Stays (v.afterAttempt s q d b).1 := by
  unfold World.afterAttempt
  split
  · exact (Stays.onSupervisor v s (f := ({ · with state := .running })) fun _ ↦ rfl).trans
      (stays_emit _ _)
  · exact .refl v

/-- A connection that has come to its end was accepted as before. -/
theorem Answers.afterAttempt (h : w.Answers s v) (q : Nat) (d : Time) (b : Bool) :
    w.Answers s (v.afterAttempt s q d b).1 := by
  refine h.of_stays (v.stays_afterAttempt s q d b) ?_ ?_
  all_goals
    unfold World.afterAttempt
    split
  · rfl
  · rfl
  · exact (Records.of_eq rfl).trans (records_say Event.skips_isLaunch.toSkipsTalk ..)
  · exact .refl v

/-- A try to connect succeeds only at an open port, and after the time that this takes. -/
theorem connect_succeeds (h : (v.connect s).2.succeeds = true) :
    v.isOpen = true ∧ v.network.latency ≤ connectTimeout ∧
      (v.connect s).2.ends = v.now + v.network.latency := by
  let u := v.emit (.connect host (v.supervisor s).config.port v.now)
  have hc : (v.connect s).2 =
      if u.isOpen then
        if u.network.latency ≤ connectTimeout then ⟨u.now + u.network.latency, true⟩
        else ⟨u.now + connectTimeout, false⟩
      else ⟨u.now + u.network.delay u.now, false⟩ := rfl
  rw [hc] at h ⊢
  split at h
  next ho =>
    split at h
    next hl =>
      rw [if_pos ho, if_pos hl]
      exact ⟨ho, hl, rfl⟩
    next => cases h
  next => cases h

/-- A process was launched after `w`, and it is alive and known to run. -/
structure Runs (w : World) (s : Nat) (v : World) : Prop where
  launched : ∃ εs, w.Launches v εs
  state : (v.supervisor s).state = .running
  isAlive : ∃ q, w.children.length ≤ q ∧ (v.supervisor s).child = some q ∧
    (v.child q).isAlive = true

/-- Where a start stands that began in `w`.  That a connection was accepted which is made by `t` is
told by `R`: just now (`AnswersNow`), or at some moment of the course so far (`AnsweredBy`). -/
inductive Starts (w : World) (s : Nat) (R : World × Starting → Time → Prop) :
    World × Starting → Prop
  | clearing {v : World} {φ : StopPhase} {εs : List Event} (order : v.InOrder s)
    (fits : φ.Fits v s) (grown : w.Records Event.isLaunch v εs)
    (length : w.children.length ≤ v.children.length) : Starts w s R (v, .waiting (.clearing φ))
  | fetching {v : World} {t : Time} {εs : List Event} (order : v.InOrder s)
    (child : (v.supervisor s).child = none) (grown : w.Records Event.isLaunch v εs)
    (length : w.children.length ≤ v.children.length) : Starts w s R (v, .waiting (.fetching t))
  | connecting {v : World} {q : Nat} {d : Time} {α : Attempt} (awaits : w.Awaits s q v)
    (answered : α.succeeds = true → R (v, .waiting (.connecting q d α)) α.ends) :
    Starts w s R (v, .waiting (.connecting q d α))
  | pausing {v : World} {q : Nat} {d t : Time} (awaits : w.Awaits s q v) :
    Starts w s R (v, .waiting (.pausing q d t))
  | draining {v : World} {q : Nat} {k : Int} {t : Time} :
    Starts w s R (v, .waiting (.draining q k t))
  | cleaning {v : World} {φ : StopPhase} {cause : Fault} :
    Starts w s R (v, .waiting (.cleaning φ cause))
  | failed {v : World} {cause : Fault} : Starts w s R (v, .done (.error cause))
  | ready {v : World} {t : Time} (runs : w.Runs s v) (answered : R (v, .done (.ok ())) t)
    (now : t ≤ v.now) : Starts w s R (v, .done (.ok ()))

/-- A connection was accepted just now, which is made by `t`. -/
def AnswersNow (w : World) (s : Nat) (r : World × Starting) (t : Time) : Prop :=
  w.Answers s r.1 ∧ t = r.1.now + r.1.network.latency

/-- More may be known of the connection that was accepted. -/
theorem Starts.mono {R R' : World × Starting → Time → Prop} {r : World × Starting}
    (h : w.Starts s R r) (hR : ∀ t, R r t → R' r t) : w.Starts s R' r := by
  cases h with
  | clearing order fits grown length => exact .clearing order fits grown length
  | fetching order child grown length => exact .fetching order child grown length
  | connecting awaits answered => exact .connecting awaits fun hα ↦ hR _ (answered hα)
  | pausing awaits => exact .pausing awaits
  | draining => exact .draining
  | cleaning => exact .cleaning
  | failed => exact .failed
  | ready runs answered now => exact .ready runs (hR _ answered) now

section

variable {R : World × Starting → Time → Prop}

/-- The end of a failed start tells of no success. -/
theorem starts_settle (w v : World) (s : Nat) (cause : Fault) (π : Stopping) :
    w.Starts s R (v.settle s cause π) := by
  obtain φ | ρ | ρ := π
  · exact .cleaning
  · exact .failed
  · exact .failed

/-- A start that fails tells of no success. -/
theorem starts_fail (w v : World) (s : Nat) (cause : Fault) : w.Starts s R (v.fail s cause) :=
  starts_settle ..

/-- A try to connect that comes to its end makes the start end well only if the process is alive. -/
theorem Awaits.starts_afterAttempt (h : w.Awaits s q v) {t : Time} {b : Bool}
    (hR : b = true → R (v.afterAttempt s q d b) t) (ht : t ≤ v.now) :
    w.Starts s R (v.afterAttempt s q d b) := by
  by_cases hb : (b && !v.hasSeen q) = true
  · obtain ⟨rfl, hs⟩ : b = true ∧ v.hasSeen q = false := by simpa using hb
    replace hR := hR rfl
    rw [World.afterAttempt, if_pos hb] at hR ⊢
    have hv := h.order.holds_setState h.holds.1 .running
    have ha : (v.child q).isAlive = true := by simpa [h.order.hasSeen h.holds.1] using hs
    refine .ready ⟨?_, hv.2, q, h.isNew, hv.1, ha⟩ hR ht
    refine h.launched.imp fun _ hl ↦ hl.trans_left ?_
    exact (Records.of_eq rfl).trans (records_say Event.skips_isLaunch.toSkipsTalk ..)
  · rw [World.afterAttempt, if_neg hb]
    exact .pausing h

end

/-! ## What a start does at one moment -/

/-- A look at a process either waits or tells of a connection made just now. -/
theorem Awaits.starts_poll (h : w.Awaits s q v) (d : Time) :
    w.Starts s (w.AnswersNow s) (v.poll s q d) := by
  unfold World.poll
  split
  · exact starts_fail ..
  · split
    · split
      · exact .draining
      · exact starts_fail ..
    · have hu := h.of_alike (alike_connect v s)
        (v.records_emit (ε := .connect host (v.supervisor s).config.port v.now) rfl)
      have hα (hs : (v.connect s).2.succeeds = true) :
          w.Answers s (v.connect s).1 ∧ (v.connect s).2.ends =
            (v.connect s).1.now + (v.connect s).1.network.latency := by
        obtain ⟨ho, hl, he⟩ := connect_succeeds hs
        obtain ⟨εs, hε⟩ := h.launched
        refine ⟨⟨ho, hl, _, hε.trans (v.records_emit rfl), ?_⟩, he⟩
        exact List.mem_append_right _ (List.mem_singleton.mpr rfl)
      dsimp only
      split
      next hle =>
        refine hu.starts_afterAttempt (fun hs ↦ ?_) hle
        obtain ⟨ha, he⟩ := hα hs
        have hs := (v.connect s).1.stays_afterAttempt s q d (v.connect s).2.succeeds
        exact ⟨ha.afterAttempt .., by rw [hs.now, hs.network, he]⟩
      next => exact .connecting hu hα

/-- A supervisor that begins to wait either waits or tells of a connection made just now. -/
theorem Awaits.starts_awaitReady (h : w.Awaits s q v) :
    w.Starts s (w.AnswersNow s) (v.awaitReady s q) := by
  unfold World.awaitReady
  dsimp only
  split
  · exact starts_fail ..
  · exact (h.of_alike (alike_say ..)
      (records_say Event.skips_isLaunch.toSkipsTalk ..)).starts_poll _

/-- A launch is recorded. -/
theorem launches_embarked {εs : List Event} (h : w.Records Event.isLaunch v εs) (s : Nat)
    (path : File.Path) : w.Launches (v.embarked s path) [] := by
  refine ⟨εs, path.text :: (v.supervisor s).config.arguments, h.trans ?_⟩
  have ha : v.Records Event.isLaunch (v.announced s path) [] :=
    (records_say Event.skips_isLaunch.toSkipsTalk ..).trans (.of_eq rfl)
  exact ha.trans (((v.announced s path).records_emit rfl).trans_left (.of_eq rfl))

theorem InOrder.starts_launchProxy (h : v.InOrder s) (hc : (v.supervisor s).child = none)
    {εs : List Event} (hr : w.Records Event.isLaunch v εs)
    (hl : w.children.length ≤ v.children.length) (path : File.Path) :
    w.Starts s (w.AnswersNow s) (v.launchProxy s path) := by
  rw [v.launchProxy_eq]
  cases (v.behaviours.headD {}).refusal with
  | some φ =>
    dsimp only
    split <;> exact .failed
  | none =>
    have hv := h.launched_embarked hc path
    exact Awaits.starts_awaitReady ⟨hv.order, hv.holds, hl, [], launches_embarked hr s path⟩

theorem InOrder.starts_obtain (h : v.InOrder s) (hc : (v.supervisor s).child = none)
    {εs : List Event} (hr : w.Records Event.isLaunch v εs)
    (hl : w.children.length ≤ v.children.length) : w.Starts s (w.AnswersNow s) (v.obtain s) := by
  have ha := alike_fetch (s := s) v s
  obtain ⟨θs, hθ⟩ : ∃ θs, v.Records Event.isLaunch (v.fetch s).1 θs := ⟨_, _, rfl, rfl⟩
  unfold World.obtain
  split
  next u φ hu => exact .failed
  next u path hu =>
    rw [hu] at ha hθ
    exact (h.of_akin ha.toAkin).starts_launchProxy (ha.child.trans hc) (hr.trans hθ)
      (ha.children ▸ hl) path

theorem InOrder.starts_provide (h : v.InOrder s) (hc : (v.supervisor s).child = none)
    {εs : List Event} (hr : w.Records Event.isLaunch v εs)
    (hl : w.children.length ≤ v.children.length) :
    w.Starts s (w.AnswersNow s) (v.provide s) := by
  unfold World.provide
  split
  · exact .failed
  · split
    · exact .fetching h hc hr hl
    · exact h.starts_obtain hc hr hl

end World

open World

variable {s q : Nat} {w v : World}

theorem StopFits.starts_cleared {r : World × Stopping} (h : StopFits s r) {εs : List Event}
    (hr : w.Records Event.isLaunch r.1 εs) (hl : w.children.length ≤ r.1.children.length) :
    w.Starts s (w.AnswersNow s) (r.1.cleared s r.2) := by
  obtain ⟨v, φ | ρ | ρ⟩ := r
  · exact .clearing h.order (h.waiting rfl) hr hl
  · exact .failed
  · exact h.order.starts_provide (h.done rfl) hr hl

/-- A start begins with no healthy process. -/
theorem World.InOrder.starts_start (h : w.InOrder s) (hh : w.isHealthy s = false) :
    w.Starts s (w.AnswersNow s) (w.start s) := by
  rw [World.start, hh, if_neg Bool.false_ne_true]
  exact h.stop.starts_cleared (records_stop Event.skips_isLaunch.toSkipsSignals w s)
    (w.length_stop s).ge

/-! ## The course of a start -/

/-- In the course from `r₀` to `r` a connection was accepted that was made by `t`. -/
def AnsweredBy (w : World) (s : Nat) (r₀ r : World × Starting) (t : Time) : Prop :=
  ∃ r₁, (StartPhase.manner s).Leads r₀ r₁ ∧ (StartPhase.manner s).Leads r₁ r ∧ w.AnswersNow s r₁ t

theorem AnsweredBy.tail {r₀ r r' : World × Starting} {t : Time} (h : AnsweredBy w s r₀ r t)
    (hs : (StartPhase.manner s).Step r r') : AnsweredBy w s r₀ r' t := by
  obtain ⟨r₁, h₀, h₁, ha⟩ := h
  exact ⟨r₁, h₀, h₁.tail hs, ha⟩

namespace World.Starts

variable {r₀ : World × Starting} {φ : StartPhase}

/-- A connection that was accepted just now was accepted in the course. -/
theorem of_answersNow {r : World × Starting} (h : w.Starts s (w.AnswersNow s) r)
    (hr : (StartPhase.manner s).Leads r₀ r) : w.Starts s (AnsweredBy w s r₀) r :=
  h.mono fun _ ha ↦ ⟨r, hr, .refl, ha⟩

/-- What processes do is part of the course. -/
theorem act (h : w.Starts s (AnsweredBy w s r₀) (v, .waiting φ)) {u : World}
    (hu : v.act? = some u) : w.Starts s (AnsweredBy w s r₀) (u, .waiting φ) := by
  have hs : (StartPhase.manner s).Step (v, .waiting φ) (u, .waiting φ) := .act hu
  obtain ⟨q, -, -, -, -, rfl⟩ := exists_of_act? hu
  have hr := records_act Event.skips_isLaunch.toSkipsActs v q
  have hl := (v.length_act q).2
  cases h with
  | clearing order fits grown length =>
    exact .clearing (order.act q) (fits.act order q) (grown.trans hr) (hl ▸ length)
  | fetching order child grown length =>
    exact .fetching (order.act q) (StartPhase.Fits.act (φ := .fetching 0) child order q)
      (grown.trans hr) (hl ▸ length)
  | connecting awaits answered => exact .connecting (awaits.act q) fun hα ↦ (answered hα).tail hs
  | pausing awaits => exact .pausing (awaits.act q)
  | draining => exact .draining
  | cleaning => exact .cleaning

/-- Time that passes is part of the course. -/
theorem pass (h : w.Starts s (AnsweredBy w s r₀) (v, .waiting φ)) {u : World}
    (hn : v.act? = none) (hφ : φ.isReady s v = false)
    (hu : v.Passes u (Time.earlier v.due? φ.due?)) :
    w.Starts s (AnsweredBy w s r₀) (u, .waiting φ) := by
  have hs : (StartPhase.manner s).Step (v, .waiting φ) (u, .waiting φ) := .pass hn hφ hu
  have hr := hu.records Event.isLaunch
  have ha := hu.alike s
  cases h with
  | clearing order fits grown length =>
    exact .clearing (order.of_akin ha.toAkin) (fits.of_alike ha) (grown.trans hr)
      (hu.children ▸ length)
  | fetching order child grown length =>
    exact .fetching (order.of_akin ha.toAkin) (ha.child.trans child) (grown.trans hr)
      (hu.children ▸ length)
  | connecting awaits answered =>
    exact .connecting (awaits.of_alike ha hr) fun hα ↦ (answered hα).tail hs
  | pausing awaits => exact .pausing (awaits.of_alike ha hr)
  | draining => exact .draining
  | cleaning => exact .cleaning

/-- A start that goes on is part of the course. -/
theorem resume (h : w.Starts s (AnsweredBy w s r₀) (v, .waiting φ))
    (hr : (StartPhase.manner s).Leads r₀ (v, .waiting φ)) (hn : v.act? = none)
    (hφ : φ.isReady s v = true) : w.Starts s (AnsweredBy w s r₀) (φ.resume s v) := by
  have hs : (StartPhase.manner s).Step (v, .waiting φ) (φ.resume s v) := .resume hn hφ
  cases h with
  | @clearing v φ εs order fits grown length =>
    have hl : w.children.length ≤ (φ.resume s v).1.children.length := by
      rwa [StopPhase.length_resume]
    have hg := grown.trans (records_resume Event.skips_isLaunch.toSkipsSignals s v φ)
    exact ((order.resume fits).starts_cleared hg hl).of_answersNow (hr.tail hs)
  | fetching order child grown length =>
    exact (order.starts_obtain child grown length).of_answersNow (hr.tail hs)
  | connecting awaits answered =>
    exact awaits.starts_afterAttempt (fun hα ↦ (answered hα).tail hs) (of_decide_eq_true hφ)
  | @pausing v q d t awaits => exact (awaits.starts_poll d).of_answersNow (hr.tail hs)
  | draining => exact starts_fail ..
  | cleaning => exact starts_settle ..

end World.Starts

/-- Where a start stands, however it has gone on. -/
theorem World.InOrder.starts_of_leads (h : w.InOrder s) (hh : w.isHealthy s = false)
    {r : World × Starting} (hr : (StartPhase.manner s).Leads (w.start s) r) :
    w.Starts s (AnsweredBy w s (w.start s)) r := by
  induction hr with
  | refl => exact (h.starts_start hh).of_answersNow .refl
  | tail hr hs ih =>
    cases hs with
    | act hu => exact ih.act hu
    | resume hn hφ => exact ih.resume hr hn hφ
    | pass hn hφ hu => exact ih.pass hn hφ hu

/-! ## Any start -/

/-- A start that began in `w` has ended well in `v`, with a process launched. -/
structure World.IsReady (w : World) (s : Nat) (v : World) : Prop where
  runs : w.Runs s v
  /-- Since the launch there was a moment at which a connection was tried that was accepted. -/
  answered : ∃ r, (StartPhase.manner s).Leads (w.start s) r ∧
    (StartPhase.manner s).Leads r (v, .done (.ok ())) ∧ w.Answers s r.1 ∧
    r.1.now + r.1.network.latency ≤ v.now

theorem World.InOrder.isReady_of_leads (h : w.InOrder s) (hh : w.isHealthy s = false)
    (hv : (StartPhase.manner s).Leads (w.start s) (v, .done (.ok ()))) : w.IsReady s v := by
  cases h.starts_of_leads hh hv with
  | ready runs answered now =>
    obtain ⟨r, h₀, h₁, ha, rfl⟩ := answered
    exact ⟨runs, r, h₀, h₁, ha, now⟩

/-- Whatever comes about: a start that waits for its process makes only so many tries to connect,
and leaves off soon after its deadline at most; and a start that ends well has found its process
healthy, or it has launched one that is alive and to which a connection was made.

Supervisors that begin with nothing are always in order (`Supervision.IsSound.run`), and so is one
that has just launched its process (`InOrder.launched_embarked`). -/
theorem ready_of_inOrder (h : w.InOrder s) :
    (∀ p, w.Holds s p .starting →
      (∀ x, (w.supervisor s).config.startupTimeout.toRat? = some x → 0 < x →
        w.IsBounded x s (w.awaitReady s p)) ∧
      ((w.supervisor s).config.startupTimeout.toRat? = none →
        HasLeft (w.awaitReady s p).2 ∧ w.Connects (w.awaitReady s p).1 0)) ∧
    ∀ v, (StartPhase.manner s).Leads (w.start s) (v, .done (.ok ())) →
      w.isHealthy s = true ∧ v = w.say .info "Proxy already running" ∨ w.IsReady s v := by
  refine ⟨fun p hp ↦ ⟨fun x hx hpos ↦ h.isBounded_awaitReady hp hx hpos,
    w.leaves_awaitReady s p⟩, fun v hv ↦ ?_⟩
  cases hh : w.isHealthy s with
  | false => exact .inr (h.isReady_of_leads hh hv)
  | true =>
    rw [World.start, if_pos hh] at hv
    obtain he | ⟨r, hs, -⟩ := Relation.ReflTransGen.cases_head hv
    · cases he
      exact .inl ⟨rfl, rfl⟩
    · cases hs

/-- A supervisor whose process accepts connections at once. -/
def prompt : World :=
  { site := stubborn.site
    behaviours := [{ listens := some 0 }]
    supervisors := [{ config :=
      { instanceName := some "p:r:i", binaryPath := some "/proxy",
        startupTimeout := ⟨0x4000000000000000⟩ } }] }

/-- Two seconds are enough for four tries to connect, of which the first one succeeds. -/
theorem ready_of_inOrder_prompt :
    let v := prompt.embarked 0 ⟨.root, ["proxy"]⟩
    v.IsBounded 2 0 (v.awaitReady 0 0) ∧ prompt.IsReady 0 (prompt.start 0).1 := by
  have hw : prompt.IsFresh 0 := ⟨⟨_, rfl⟩, by simp [prompt]⟩
  have ho : prompt.InOrder 0 := hw.isSound.1
  have hl := ho.launched_embarked rfl ⟨.root, ["proxy"]⟩
  have hx : (prompt.supervisor 0).config.startupTimeout.toRat? = some 2 := by decide +kernel
  have hs : (prompt.start 0).2 = .done (.ok ()) := rfl
  have hr : (StartPhase.manner 0).Leads (prompt.start 0) ((prompt.start 0).1, .done (.ok ())) :=
    hs ▸ .refl
  refine ⟨((ready_of_inOrder hl.order).1 0 hl.holds).1 2 (hl.config ▸ hx) (by decide), ?_⟩
  exact ((ready_of_inOrder ho).2 _ hr).resolve_left fun hh ↦ by simp [prompt, isHealthy, supervisor] at hh

end Proxy
end Sluice
