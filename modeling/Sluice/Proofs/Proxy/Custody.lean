import Sluice.Proofs.Proxy.Supervision
import Sluice.Proofs.Proxy.Work

/-!
# Custody of processes

Every supervisor is in order, and several stops of one may be under way side by side; such a stop
may have lost its process (`StopPhase.Knows`).  One supervisor at most is in hand.  As long as
nobody comes at the very moment at which a process ends, it alone may hold a process, and of a stop
of another one no end will ever be seen (`World.Custody`).

Custody is kept by all work on the supervisor in hand, by what becomes of stops, and by each act of
a process (`Custody.act`).  It ends when the supervisor holds nothing (`Custody.drop`), and begins
with a new one (`Custody.addSupervisor`).
-/

namespace Sluice.Proxy

open Child

/-- The process that a stop is about. -/
def StopPhase.child : StopPhase → Nat
  | grace p _ | killed p => p

/-- A stop knows its process, which the supervisor may have let go of meanwhile. -/
structure StopPhase.Knows (w : World) (s : Nat) (φ : StopPhase) : Prop where
  launched : φ.child < w.children.length
  owner : (w.child φ.child).owner = s
  fits : (w.supervisor s).child = none ∨ φ.Fits w s

namespace World

/-- The supervisor in hand is `x`, and the stops under way are those that `S` tells of.  If `b`
holds then no other supervisor holds a process. -/
structure Custody (b : Prop) (w : World) (x : Option Nat) (S : Nat → StopPhase → Prop) : Prop where
  order {s : Nat} : s < w.supervisors.length → w.InOrder s
  owner {p : Nat} : p < w.children.length → (w.child p).owner < w.supervisors.length
  inHand {s : Nat} : x = some s → s < w.supervisors.length
  held {s p : Nat} : b → (w.supervisor s).child = some p → x = some s
  known {s : Nat} {φ : StopPhase} : S s φ → s < w.supervisors.length
  knows {s : Nat} {φ : StopPhase} : S s φ → φ.Knows w s
  unseen {s t : Nat} {φ : StopPhase} : b → S s φ → x = some t → t ≠ s →
    w.hasSeen φ.child = false

variable {b : Prop} {s t p q : Nat} {w v : World} {x : Option Nat} {S T : Nat → StopPhase → Prop}

/-- Custody holds of fewer stops that are under way. -/
theorem Custody.mono (h : w.Custody b x S) (hT : ∀ s φ, T s φ → S s φ) : w.Custody b x T :=
  { h with
    known := fun hφ ↦ h.known (hT _ _ hφ)
    knows := fun hφ ↦ h.knows (hT _ _ hφ)
    unseen := fun hb hφ ↦ h.unseen hb (hT _ _ hφ) }

/-- The supervisor in hand is let go when it holds nothing. -/
theorem Custody.drop (h : w.Custody b x S)
    (hc : b → ∀ s, x = some s → (w.supervisor s).child = none) : w.Custody b none S :=
  { h with
    inHand := by rintro s ⟨⟩
    held := fun {s p} hb hp ↦ by
      rw [hc hb s (h.held hb hp)] at hp
      cases hp
    unseen := by rintro s t φ - - ⟨⟩ }

/-- Whatever was launched is over if the supervisor in hand holds nothing. -/
theorem Custody.isSpent (h : w.Custody b none S) (hb : b) (hp : p < w.children.length) :
    (w.child p).IsSpent := by
  refine (h.order (h.owner hp)).spent hp rfl fun hc ↦ ?_
  cases h.held hb hc

end World

/-! ## What a stop knows -/

section Knows

variable {s t : Nat} {w v : World} {φ : StopPhase}

/-- From `w` to `v` a supervisor let go of its process, or it still stops it. -/
def World.StillStops (s : Nat) (w v : World) : Prop :=
  (v.supervisor s).child = none ∨
    (v.supervisor s).child = (w.supervisor s).child ∧ (v.supervisor s).state = .stopping

/-- A stop that fits is about the process that its supervisor holds. -/
theorem StopPhase.Fits.child_eq (hφ : φ.Fits w s) : (w.supervisor s).child = some φ.child := by
  cases φ with
  | grace p t => exact hφ.1
  | killed p => exact hφ.1.1

/-- A stop that fits knows its process. -/
theorem StopPhase.Fits.knows (hφ : φ.Fits w s) (h : w.InOrder s) : φ.Knows w s :=
  ⟨h.launched hφ.child_eq, h.owner hφ.child_eq, .inr hφ⟩

/-- A stop still knows its process while its own supervisor works, unless that let go of it. -/
theorem StopPhase.Knows.stillStops (hφ : φ.Knows w s) (hw : w.Works s v)
    (hs : World.StillStops s w v) : φ.Knows v s := by
  have hχ := hw.signalled hφ.launched
  refine ⟨Nat.lt_of_lt_of_le hφ.launched hw.children, hχ.owner.trans hφ.owner, ?_⟩
  obtain hc | ⟨hc, hσ⟩ := hs
  · exact .inl hc
  · obtain hn | hf := hφ.fits
    · exact .inl (hc.trans hn)
    · refine .inr ?_
      cases φ with
      | grace p t => exact ⟨hc.trans hf.1, hσ⟩
      | killed p => exact ⟨⟨hc.trans hf.1.1, hσ⟩, hχ.isSpent hf.2⟩

/-- A stop of one supervisor does not mind what another one does. -/
theorem StopPhase.Fits.of_works (hφ : φ.Fits w t) (hp : φ.child < w.children.length)
    (hw : w.Works s v) (ht : t ≠ s) : φ.Fits v t := by
  have hσ := hw.others ht
  cases φ with
  | grace p u => exact ⟨by rw [hσ]; exact hφ.1, by rw [hσ]; exact hφ.2⟩
  | killed p =>
    exact ⟨⟨by rw [hσ]; exact hφ.1.1, by rw [hσ]; exact hφ.1.2⟩, (hw.signalled hp).isSpent hφ.2⟩

/-- A stop knows its process whatever other supervisors do. -/
theorem StopPhase.Knows.of_works (hφ : φ.Knows w t) (hw : w.Works s v) (ht : t ≠ s) :
    φ.Knows v t :=
  ⟨Nat.lt_of_lt_of_le hφ.launched hw.children, (hw.signalled hφ.launched).owner.trans hφ.owner,
    hφ.fits.imp (fun hc ↦ by rw [hw.others ht, hc]) (·.of_works hφ.launched hw ht)⟩

/-- A stop knows its process in every world that its supervisor cannot tell apart. -/
theorem StopPhase.Knows.of_alike (hφ : φ.Knows w s) (hv : w.Alike s v) : φ.Knows v s :=
  ⟨hv.children ▸ hφ.launched, (hv.owner _).trans hφ.owner,
    hφ.fits.imp hv.child.trans (·.of_alike hv)⟩

/-- Nor does a start. -/
theorem StartPhase.Fits.of_works {φ : StartPhase} (hφ : φ.Fits w t) (hw : w.Works s v)
    (ht : t ≠ s) (h : w.InOrder t) : φ.Fits v t := by
  have hσ := hw.others ht
  cases φ with
  | clearing φ | cleaning φ cause =>
    exact StopPhase.Fits.of_works hφ (StopPhase.Fits.knows hφ h).launched hw ht
  | fetching u => exact (congrArg Supervisor.child hσ).trans hφ
  | connecting p d α | pausing p d u | draining p n u =>
    exact ⟨by rw [hσ]; exact hφ.1, by rw [hσ]; exact hφ.2⟩

/-- A stop goes on, whether it has lost its process or not. -/
theorem World.InOrder.resume_of_knows (h : w.InOrder s) (hφ : φ.Knows w s) :
    StopFits s (φ.resume s w) := by
  obtain hc | hf := hφ.fits
  · cases φ with
    | killed p => exact h.release (fun q hq ↦ by rw [hc] at hq; cases hq) _
    | grace p t =>
      have ha : w.Alike s ((w.say .warning "Force killing proxy...").kill p) :=
        (World.alike_say ..).trans (World.alike_kill ..)
      have hv := h.of_akin ha.toAkin
      have hc' := ha.child.trans hc
      simp only [StopPhase.resume, (hv.bare hc').1]
      split
      · exact h.release (fun q hq ↦ by rw [hc] at hq; cases hq) _
      · exact hv.release (fun q hq ↦ by rw [hc'] at hq; cases hq) _
  · exact h.resume hf

/-- A stop that has lost its process and goes on in time ends well only if it has seen the end. -/
theorem StopPhase.hasSeen_of_lost (h : w.InOrder s) (hc : (w.supervisor s).child = none)
    (hr : φ.isReady w = true) (hk : (φ.resume s w).2 = .done (.ok ())) :
    w.hasSeen φ.child = true := by
  cases φ with
  | killed p => exact hr
  | grace p t =>
    have ha : w.Alike s ((w.say .warning "Force killing proxy...").kill p) :=
      (World.alike_say ..).trans (World.alike_kill ..)
    have hs := ((h.of_akin ha.toAkin).bare (ha.child.trans hc)).1
    by_contra hn
    simp only [child] at hn
    simp [resume, hn, hs] at hk

end Knows

/-! ## What becomes of a stop -/

section StillStops

variable {s : Nat} {w : World}

/-- A supervisor that releases its process holds none. -/
theorem World.child_release (h : w.InOrder s) : ((w.release s).supervisor s).child = none := by
  simp [World.release, h.known]

/-- To begin a stop is to let go of the process or to stop it still. -/
theorem World.stillStops_stop (h : w.InOrder s) : World.StillStops s w (w.stop s).1 := by
  unfold World.stop
  split
  next hc => exact .inl hc
  next p hc =>
    have hs := h.of_akin (alike_say w .info "Stopping proxy...").toAkin
    dsimp only
    split
    · exact .inl (child_release (hs.setState .stopping))
    · have hv := hs.holds_setState hc .stopping
      have ht := alike_terminate (s := s)
        ((w.say .info "Stopping proxy...").onSupervisor s ({ · with state := .stopping })) p
      exact .inr ⟨(hv.of_alike ht).1.trans hc.symm, (hv.of_alike ht).2⟩

/-- A stop that goes on lets go of the process or stops it still. -/
theorem StopPhase.stillStops_resume {φ : StopPhase} (h : w.InOrder s) (hφ : φ.Knows w s) :
    World.StillStops s w (φ.resume s w).1 := by
  cases φ with
  | killed p => exact .inl (World.child_release h)
  | grace p t =>
    have ha : w.Alike s ((w.say .warning "Force killing proxy...").kill p) :=
      (World.alike_say ..).trans (World.alike_kill ..)
    have hr := World.child_release (h.of_akin ha.toAkin)
    simp only [resume]
    split
    · exact .inl (World.child_release h)
    · split
      · split
        · exact .inl hr
        · exact hφ.fits.imp ha.child.trans fun hf ↦ ⟨ha.child, ha.state.trans hf.2⟩
      · exact .inl hr

/-- A stop that is cancelled lets go of the process or stops it still. -/
theorem StopPhase.stillStops_cancel (h : w.InOrder s) :
    World.StillStops s w (StopPhase.cancel s w).1 := by
  refine .inl (World.child_release ?_)
  unfold World.killChild
  split
  · split
    · exact h.of_akin (World.alike_kill ..).toAkin
    · exact h
  · exact h

end StillStops

/-! ## What keeps custody -/

namespace World.Custody

variable {b : Prop} {s p q : Nat} {w v : World} {x : Option Nat} {S : Nat → StopPhase → Prop}

/-- A supervisor works: it is in hand afterwards if it holds anything, and stops of it still know
what they are about. -/
theorem of_works (h : w.Custody b x S) (hw : w.Works s v) (ho : v.InOrder s)
    (hx : b → ∀ p, (v.supervisor s).child = some p → x = some s)
    (hS : ∀ φ, S s φ → φ.Knows v s) : v.Custody b x S where
  order {t} ht := by
    by_cases hts : t = s
    · exact hts ▸ ho
    · exact hw.inOrder hts (h.order (hw.supervisors ▸ ht))
  owner {p} hp := by
    rw [hw.supervisors]
    by_cases hl : p < w.children.length
    · rw [(hw.signalled hl).owner]
      exact h.owner hl
    · rw [(hw.launched (Nat.le_of_not_lt hl) hp).1, ← hw.supervisors]
      exact ho.known
  inHand ht := hw.supervisors ▸ h.inHand ht
  held {t p} hb hp := by
    by_cases hts : t = s
    · exact hts ▸ hx hb p (hts ▸ hp)
    · exact h.held hb (hw.others hts ▸ hp)
  known hφ := hw.supervisors ▸ h.known hφ
  knows {t φ} hφ := by
    by_cases hts : t = s
    · exact hts ▸ hS φ (hts ▸ hφ)
    · exact (h.knows hφ).of_works hw hts
  unseen {t u φ} hb hφ hu hne := by
    rw [hasSeen, (hw.signalled (h.knows hφ).launched).seen]
    exact h.unseen hb hφ hu hne

/-- A stop begins or goes on. -/
theorem of_stillStops (h : w.Custody b x S) (hw : w.Works s v) (ho : v.InOrder s)
    (hs : StillStops s w v) : v.Custody b x S := by
  refine h.of_works hw ho (fun hb p hp ↦ ?_) fun φ hφ ↦ (h.knows hφ).stillStops hw hs
  obtain hc | ⟨hc, -⟩ := hs
  · rw [hc] at hp
    cases hp
  · exact h.held hb (hc.symm.trans hp)

/-- Custody is told by processes and supervisors. -/
theorem of_eq (h : w.Custody b x S) (hc : v.children = w.children)
    (hs : v.supervisors = w.supervisors) : v.Custody b x S := by
  have hχ (p : Nat) : v.child p = w.child p := by rw [World.child, hc, World.child]
  have hσ (s : Nat) : v.supervisor s = w.supervisor s := by
    rw [World.supervisor, hs, World.supervisor]
  have ha (s : Nat) : w.Alike s v := .of_eq hc hs
  constructor
  case order => exact fun ht ↦ (h.order (hs ▸ ht)).of_akin (ha _).toAkin
  case owner => exact fun hp ↦ by rw [hχ, hs]; exact h.owner (hc ▸ hp)
  case inHand => exact fun ht ↦ hs ▸ h.inHand ht
  case held => exact fun hb hp ↦ h.held hb (hσ _ ▸ hp)
  case known => exact fun hφ ↦ hs ▸ h.known hφ
  case knows => exact fun hφ ↦ (h.knows hφ).of_alike (ha _)
  case unseen =>
    intro t u φ hb hφ hu hne
    rw [hasSeen, hχ]
    exact h.unseen hb hφ hu hne

/-- One more stop is under way. -/
theorem insert (h : w.Custody b x S) (hs : s < w.supervisors.length) {φ : StopPhase}
    (hφ : φ.Knows w s) (hu : b → ∀ t, x = some t → t ≠ s → w.hasSeen φ.child = false) :
    w.Custody b x fun t ψ ↦ S t ψ ∨ t = s ∧ ψ = φ :=
  { h with
    known := by
      rintro t ψ (hψ | ⟨rfl, rfl⟩)
      · exact h.known hψ
      · exact hs
    knows := by
      rintro t ψ (hψ | ⟨rfl, rfl⟩)
      · exact h.knows hψ
      · exact hφ
    unseen := by
      rintro t u ψ hb (hψ | ⟨rfl, rfl⟩) hx hne
      · exact h.unseen hb hψ hx hne
      · exact hu hb u hx hne }

/-- With none in hand a new supervisor comes in hand. -/
theorem addSupervisor (h : w.Custody b none S) (κ : Config)
    (hS : b → ∀ s φ, S s φ → w.hasSeen φ.child = false) :
    (w.addSupervisor κ).Custody b (some w.supervisors.length) S := by
  set n := w.supervisors.length with hn
  have hl : (w.addSupervisor κ).supervisors.length = n + 1 := by simp [World.addSupervisor, hn]
  have hσ {t : Nat} (ht : t < n) : (w.addSupervisor κ).supervisor t = w.supervisor t :=
    List.getD_append _ _ _ _ ht
  have hnew : (w.addSupervisor κ).supervisor n = { config := κ } := by
    simp [World.addSupervisor, World.supervisor, hn]
  constructor
  case order =>
    intro t ht
    obtain rfl | ht : t = n ∨ t < n := by omega
    · constructor
      case known => exact ht
      case spent => exact fun hp ho ↦ absurd (h.owner hp) (ho ▸ Nat.lt_irrefl n)
      all_goals simp [hnew]
    · have ho := h.order ht
      constructor
      case known => omega
      case spent => rw [hσ ht]; exact ho.spent
      case bare => rw [hσ ht]; exact ho.bare
      case launched => rw [hσ ht]; exact ho.launched
      case owner => rw [hσ ht]; exact ho.owner
      case signal => rw [hσ ht]; exact ho.signal
      case watched => rw [hσ ht]; exact ho.watched
      case told => rw [hσ ht]; exact ho.told
      case held => rw [hσ ht]; exact ho.held
  case owner => exact fun hp ↦ hl ▸ Nat.lt_succ_of_lt (h.owner hp)
  case inHand => rintro t ⟨⟩; omega
  case held =>
    intro t p hb hp
    rcases Nat.lt_trichotomy t n with ht | rfl | ht
    · rw [hσ ht] at hp
      cases h.held hb hp
    · rfl
    · rw [World.supervisor, List.getD_eq_default _ _ (by omega)] at hp
      cases hp
  case known => exact fun hφ ↦ hl ▸ Nat.lt_succ_of_lt (h.known hφ)
  case knows =>
    intro t φ hφ
    obtain ⟨h1, h2, h3⟩ := h.knows hφ
    refine ⟨h1, h2, ?_⟩
    have hf : φ.Fits (w.addSupervisor κ) t ↔ φ.Fits w t := by
      cases φ with
      | grace => simp only [StopPhase.Fits, Holds, hσ (h.known hφ)]
      | killed =>
        simp only [StopPhase.Fits, Holds, hσ (h.known hφ)]
        rfl
    rwa [hσ (h.known hφ), hf]
  case unseen => exact fun hb hφ _ _ ↦ hS hb _ _ hφ

end World.Custody

/-! ## Acts of processes -/

namespace World

variable {s p q : Nat} {w : World} {x : Option Nat} {S : Nat → StopPhase → Prop}

/-- To read a line changes no process. -/
theorem children_readLine (w : World) (s : Nat) (σ : Stream) (bs : List UInt8) :
    (w.readLine s σ bs).1.children = w.children := by
  unfold readLine
  split
  · rfl
  · dsimp only
    split <;> rfl
  · rfl

theorem children_readLines (w : World) (s : Nat) (σ : Stream) (ls : List (List UInt8)) :
    (w.readLines s σ ls).1.children = w.children := by
  induction ls generalizing w with
  | nil => rfl
  | cons l ls ih =>
    have h := w.children_readLine s σ l
    unfold readLines
    split
    next v hv => rw [ih, ← h, hv]
    next v hv => rw [← h, hv]

/-- To receive output changes no process. -/
theorem children_receive (w : World) (p : Nat) (σ : Stream) (bs : List UInt8) :
    (w.receive p σ bs).children = w.children := by
  unfold receive
  dsimp only
  split
  · rfl
  next ρ _ =>
    have h := w.children_readLines (w.child p).owner σ (ρ.buffer.feed bs).lines
    split
    next v β hv _ => rw [← h, hv]; rfl
    next v b o hv _ => rw [← h, hv]; rfl

theorem children_closeStream (w : World) (p : Nat) (σ : Stream) :
    (w.closeStream p σ).children = w.children := by
  unfold closeStream
  split
  · rfl
  · exact w.children_readLines ..

theorem children_deliver (w : World) (p : Nat) (σ : Stream) (β : Option (List UInt8)) :
    (w.deliver p σ β).children = w.children := by
  cases β with
  | some bs => exact children_receive ..
  | none => exact children_closeStream ..

/-- When a process ends its streams are closed first, which concerns neither processes nor what its
supervisor goes by; then its watcher passes the end on. -/
theorem exists_exit_eq_notice (w : World) (q : Nat) (n : Int) :
    ∃ v, w.exit q n = v.notice q n ∧
      (w.onChild q (·.finish n w.now)).Alike (w.child q).owner v ∧
      v.children = (w.onChild q (·.finish n w.now)).children := by
  refine ⟨_, rfl, (alike_emit _ (.exit n)).trans ?_, ?_⟩
  · split
    · exact .refl _
    · exact (alike_closeStream ..).trans (alike_closeStream ..)
  · split
    · rfl
    · rw [children_closeStream, children_closeStream]
      rfl

/-- An end is seen if the watcher of the process waits, and passed over otherwise. -/
theorem children_notice (w : World) (q : Nat) (n : Int) :
    (w.supervisor (w.child q).owner).watches ≠ some q ∧ (w.notice q n).children = w.children ∨
      (w.supervisor (w.child q).owner).watches = some q ∧
        (w.notice q n).children = (w.onChild q ({ · with seen := some n })).children := by
  unfold notice
  dsimp only
  split
  next hw =>
    refine .inr ⟨hw, ?_⟩
    split <;> rfl
  next hw => exact .inl ⟨hw, rfl⟩

/-- Of a process that acts one thing less is to come, or it ends, and its end is seen if its watcher
waits. -/
theorem children_act (w : World) (q : Nat) :
    (∃ t σ β, (w.child q).nextAct? = some (t, .write σ β) ∧
      (w.act q).children = (w.onChild q (·.flush)).children) ∨
    (∃ t n, (w.child q).nextAct? = some (t, .exit n) ∧
      ((w.supervisor (w.child q).owner).watches ≠ some q ∧
          (w.act q).children = (w.onChild q (·.finish n w.now)).children ∨
        (w.supervisor (w.child q).owner).watches = some q ∧
          (w.act q).children =
            (w.onChild q fun χ ↦ { χ.finish n w.now with seen := some n }).children)) ∨
    (w.child q).nextAct? = none ∧ w.act q = w := by
  unfold act
  split
  next t σ β hn => exact .inl ⟨t, σ, β, hn, children_deliver ..⟩
  next t n hn =>
    refine .inr (.inl ⟨t, n, hn, ?_⟩)
    obtain ⟨v, hv, ha, hc⟩ := w.exists_exit_eq_notice q n
    have hown : (v.child q).owner = (w.child q).owner := by
      rw [ha.owner, child_onChild]
      split <;> rfl
    have hwatch : (v.supervisor (w.child q).owner).watches =
        (w.supervisor (w.child q).owner).watches := ha.watches
    have hcc : (v.onChild q ({ · with seen := some n })).children =
        (w.onChild q fun χ ↦ { χ.finish n w.now with seen := some n }).children := by
      simp only [onChild, hc, List.modify_modify_eq]
      rfl
    rw [hv, ← hwatch, ← hown, ← hcc, ← hc]
    exact v.children_notice q n
  next hn => exact .inr (.inr ⟨hn, rfl⟩)

theorem child_of_children {v : World} {f : Child → Child}
    (hc : v.children = (w.onChild q f).children) (p : Nat) :
    v.child p = if q = p ∧ p < w.children.length then f (w.child p) else w.child p := by
  rw [World.child, hc, ← child_onChild, World.child]

/-- What an act makes of a process: nothing, unless it acts itself.  Then something has come through
one of its streams or it has ended. -/
theorem child_act_cases (w : World) (q p : Nat) :
    (w.act q).child p = w.child p ∨ (q = p ∧ (w.child p).nextAct? ≠ none) ∧
      ((w.act q).child p = (w.child p).flush ∨ (w.child p).isAlive = true ∧
        ∃ n o, (w.act q).child p = { (w.child p).finish n w.now with seen := o }) := by
  have hf {f : Child → Child} (hn : (w.child q).nextAct? ≠ none)
      (hc : (w.act q).children = (w.onChild q f).children) : (w.act q).child p = w.child p ∨
      (q = p ∧ (w.child p).nextAct? ≠ none) ∧ (w.act q).child p = f (w.child p) := by
    rw [child_of_children hc]
    split
    next hq => exact .inr ⟨⟨hq.1, hq.1 ▸ hn⟩, rfl⟩
    next => exact .inl rfl
  obtain ⟨t, σ, β, hn, hc⟩ | ⟨t, n, hn, ⟨-, hc⟩ | ⟨-, hc⟩⟩ | ⟨-, hc⟩ := w.children_act q
  · exact (hf (by simp [hn]) hc).imp_right fun h ↦ ⟨h.1, .inl h.2⟩
  · exact (hf (by simp [hn]) hc).imp_right fun h ↦
      ⟨h.1, .inr ⟨isAlive_of_exit (h.1.1 ▸ hn), n, _, h.2⟩⟩
  · exact (hf (by simp [hn]) hc).imp_right fun h ↦
      ⟨h.1, .inr ⟨isAlive_of_exit (h.1.1 ▸ hn), n, _, h.2⟩⟩
  · exact .inl (by rw [hc])

/-- A process is left alone by what another one does. -/
theorem child_act_of_ne (w : World) {q p : Nat} (h : q ≠ p) : (w.act q).child p = w.child p :=
  (w.child_act_cases q p).resolve_right fun hq ↦ h hq.1.1

/-- The end of a process that nobody watches is never seen. -/
theorem hasSeen_act (hw : (w.supervisor (w.child p).owner).watches ≠ some p) (q : Nat) :
    (w.act q).hasSeen p = w.hasSeen p := by
  rw [hasSeen, hasSeen]
  obtain ⟨t, σ, bs, -, hc⟩ | ⟨t, n, -, ⟨-, hc⟩ | ⟨hq, hc⟩⟩ | ⟨-, hc⟩ := w.children_act q
  · rw [child_of_children hc]
    split
    · rw [seen_flush]
    · rfl
  · rw [child_of_children hc]
    split <;> rfl
  · rw [child_of_children hc, if_neg]
    rintro ⟨rfl, -⟩
    exact hw hq
  · rw [hc]

/-- What was seen stays seen. -/
theorem hasSeen_act_of_hasSeen (hp : w.hasSeen p = true) (q : Nat) : (w.act q).hasSeen p = true := by
  rw [hasSeen] at hp ⊢
  obtain ⟨t, σ, bs, -, hc⟩ | ⟨t, n, -, ⟨-, hc⟩ | ⟨-, hc⟩⟩ | ⟨-, hc⟩ := w.children_act q
  · rw [child_of_children hc]
    split
    · rwa [seen_flush]
    · exact hp
  · rw [child_of_children hc]
    split <;> exact hp
  · rw [child_of_children hc]
    split
    · rfl
    · exact hp
  · rwa [hc]

/-- A supervisor holds its process whatever that does. -/
theorem InOrder.child_act (h : w.InOrder s) (q : Nat) :
    ((w.act q).supervisor s).child = (w.supervisor s).child := by
  obtain ha | ⟨hq, -, -, hc, -⟩ := h.act_cases q
  · exact ha.child
  · rw [hq, hc]

/-- Custody is kept whatever a process does. -/
theorem Custody.act {b : Prop} (h : w.Custody b x S) (q : Nat) : (w.act q).Custody b x S := by
  obtain ⟨hs, hl⟩ := w.length_act q
  constructor
  case order => exact fun ht ↦ (h.order (hs ▸ ht)).act q
  case owner => exact fun hp ↦ by rw [(w.alike_act_absent q).owner, hs]; exact h.owner (hl ▸ hp)
  case inHand => exact fun ht ↦ hs ▸ h.inHand ht
  case held =>
    intro s p hb hp
    by_cases hk : s < w.supervisors.length
    · rw [(h.order hk).child_act] at hp
      exact h.held hb hp
    · rw [World.supervisor, List.getD_eq_default _ _ (by omega)] at hp
      cases hp
  case known => exact fun hφ ↦ hs ▸ h.known hφ
  case knows =>
    intro s φ hφ
    obtain ⟨h1, h2, h3⟩ := h.knows hφ
    have ho := h.order (h.known hφ)
    exact ⟨hl ▸ h1, ((w.alike_act_absent q).owner _).trans h2, h3.imp (ho.child_act q).trans (·.act ho q)⟩
  case unseen =>
    intro s t φ hb hφ ht hne
    have hk := h.knows hφ
    have hc : (w.supervisor s).child = none := by
      cases hc : (w.supervisor s).child with
      | none => rfl
      | some p => exact absurd (Option.some_inj.mp (ht.symm.trans (h.held hb hc))) hne
    rw [hasSeen_act]
    · exact h.unseen hb hφ ht hne
    · rw [hk.owner, ((h.order (h.known hφ)).bare hc).2.1]
      rintro ⟨⟩

end World

end Sluice.Proxy
