import Mathlib.Algebra.Ring.Nat
import Sluice.Proofs.Proxy.Tending

/-!
# What is still to come

A world has only so much before it that processes will do by themselves (`World.acts`), and each act
is one less.  Where a start or a stop waits, it goes on at a certain moment, or a process will act
that it waits for, provided that a process that is sent the signal which it cannot ignore ends
(`World.IsFatal`).
-/

namespace Sluice

/-! ## Folds over what may be absent -/

section Folds

variable {α β : Type} {f : Option β → α → Option β} {k : β → Time} {v : α → Option Time}

/-- A fold that keeps the least of what it meets comes to no more than it began with. -/
theorem foldl_some_le (h : ∀ d a, ∃ c, f (some d) a = some c ∧ k c ≤ k d) (l : List α) (d : β) :
    ∃ c, l.foldl f (some d) = some c ∧ k c ≤ k d := by
  induction l generalizing d with
  | nil => exact ⟨d, rfl, Int.le_refl _⟩
  | cons a l ih =>
    obtain ⟨e, he, hle⟩ := h d a
    obtain ⟨c, hc, hce⟩ := ih e
    exact ⟨c, by rw [List.foldl_cons, he, hc], Int.le_trans hce hle⟩

/-- A fold that keeps the least of what it meets comes to no more than anything that it meets. -/
theorem foldl_le (h : ∀ d a, ∃ c, f (some d) a = some c ∧ k c ≤ k d)
    (hv : ∀ b a u, v a = some u → ∃ c, f b a = some c ∧ k c ≤ u) {l : List α} {a : α}
    (ha : a ∈ l) {u : Time} (hu : v a = some u) (b : Option β) :
    ∃ c, l.foldl f b = some c ∧ k c ≤ u := by
  induction l generalizing b with
  | nil => cases ha
  | cons x l ih =>
    rcases List.mem_cons.mp ha with rfl | ha
    · obtain ⟨d, hd, hle⟩ := hv b a u hu
      obtain ⟨c, hc, hcd⟩ := foldl_some_le h l d
      exact ⟨c, by rw [List.foldl_cons, hd, hc], Int.le_trans hcd hle⟩
    · exact ih ha (f b x)

end Folds

/-- A sum gets smaller with one of its terms. -/
theorem sum_map_set_lt {α : Type} {f : α → Nat} {l : List α} {i : Nat} {a b : α}
    (ha : l[i]? = some a) (h : f b < f a) : ((l.set i b).map f).sum < (l.map f).sum := by
  induction l generalizing i with
  | nil => cases ha
  | cons x l ih =>
    cases i with
    | zero =>
      cases ha
      simpa using h
    | succ i => simpa using ih ha

namespace Time

/-- What is due first is due before all else. -/
theorem exists_earliest {ts : List (Option Time)} {u : Time} (h : some u ∈ ts) :
    ∃ t, earliest ts = some t ∧ t ≤ u := by
  refine foldl_le (f := earlier) (k := id) (v := id) (fun d a ↦ ?_) (fun b a u ha ↦ ?_) h rfl none
  · cases a with
    | none => exact ⟨d, rfl, Int.le_refl d⟩
    | some x => exact ⟨min d x, rfl, Int.min_le_left d x⟩
  · cases (show a = some u from ha)
    cases b with
    | none => exact ⟨u, rfl, Int.le_refl u⟩
    | some d => exact ⟨min d u, rfl, Int.min_le_right d u⟩

/-- The earlier of two moments is one of them. -/
theorem earlier_eq_some {s t : Option Time} {u : Time} (h : earlier s t = some u) :
    s = some u ∨ t = some u := by
  cases s with
  | none => exact .inr h
  | some x =>
    cases t with
    | none => exact .inl h
    | some y =>
      obtain hm | hm := Int.le_total x y
      · exact .inl (by rw [← h, earlier, Int.min_eq_left hm])
      · exact .inr (by rw [← h, earlier, Int.min_eq_right hm])

/-- The earliest moment is one of those given. -/
theorem mem_of_earliest {ts : List (Option Time)} {t : Time} (h : earliest ts = some t) :
    some t ∈ ts := by
  have hm : ∀ u, earliest ts = some u → some u ∈ ts := by
    refine List.foldlRecOn ts earlier (b := none) (motive := fun b ↦ ∀ u, b = some u → some u ∈ ts)
      (by simp) fun b hb a ha u hu ↦ ?_
    obtain rfl | rfl := earlier_eq_some hu
    · exact hb u rfl
    · exact ha
  exact hm t h

end Time

/-! ## Processes -/

namespace Child

variable {χ : Child} {ε : Time × Int}

/-- The first end is no later than any other. -/
theorem exists_nextEnd? (h : ε ∈ χ.ends) : ∃ δ, χ.nextEnd? = some δ ∧ δ.1 ≤ ε.1 := by
  refine foldl_le (k := Prod.fst) (v := fun ε ↦ some ε.1) (fun d a ↦ ?_) (fun b a u ha ↦ ?_) h rfl
    none
  · dsimp only
    split
    next hl => exact ⟨a, rfl, Int.le_of_lt hl⟩
    next => exact ⟨d, rfl, Int.le_refl _⟩
  · cases ha
    cases b with
    | none => exact ⟨a, rfl, Int.le_refl _⟩
    | some d =>
      dsimp only
      split
      next => exact ⟨a, rfl, Int.le_refl _⟩
      next hl => exact ⟨d, rfl, Int.not_lt.mp hl⟩

/-- A process that lives and will end has something to do by then. -/
theorem exists_nextAct? (ha : χ.isAlive = true) (h : ε ∈ χ.ends) :
    ∃ t a, χ.nextAct? = some (t, a) ∧ t ≤ ε.1 := by
  obtain ⟨⟨t, m⟩, he, hle⟩ := exists_nextEnd? h
  unfold nextAct?
  rw [if_pos ha, he]
  split
  next x σ β y k _ hk =>
    cases hk
    split
    next => exact ⟨_, _, rfl, hle⟩
    next hl => exact ⟨_, _, rfl, Int.le_trans (Int.not_lt.mp hl) hle⟩
  next hk => cases hk
  next hk =>
    cases hk
    exact ⟨_, _, rfl, hle⟩
  next hk => cases hk

/-- What is still to come through the streams of a process as it stands: what it puts through them
while it lives, and what outlives it then. -/
def coming (χ : Child) : Schedule := if χ.isAlive then χ.writes else χ.rest

/-- What comes through a stream is no longer to come. -/
theorem coming_flush (χ : Child) : χ.flush.coming = χ.coming.tail := by
  unfold coming
  rw [isAlive_flush]
  unfold flush
  split <;> rfl

/-- What comes through a stream next is the first of what is still to come. -/
theorem exists_coming_of_nextAct? {t : Time} {σ : Stream} {β : Option (List UInt8)}
    (h : χ.nextAct? = some (t, .write σ β)) : ∃ ω, χ.coming = (t, σ, β) :: ω := by
  unfold nextAct? at h
  unfold coming
  split at h
  next ha =>
    rw [if_pos ha]
    cases hw : χ.writes with
    | nil =>
      rw [hw] at h
      cases hε : χ.nextEnd? <;> simp [hε] at h
    | cons x ω =>
      obtain ⟨u, τ, γ⟩ := x
      refine ⟨ω, ?_⟩
      rw [hw] at h
      cases hε : χ.nextEnd? with
      | none =>
        simp only [hε, List.head?_cons, Option.some.injEq, Prod.mk.injEq, Act.write.injEq] at h
        obtain ⟨rfl, rfl, rfl⟩ := h
        rfl
      | some ε =>
        simp only [hε, List.head?_cons] at h
        split at h
        · cases h
        · cases h
          rfl
  next ha =>
    rw [if_neg ha]
    obtain ⟨⟨u, τ, γ⟩, hx, he⟩ := Option.map_eq_some_iff.mp h
    cases he
    exact List.head?_eq_some_iff.mp hx

/-- How much may still become of a process by itself. -/
def acts (χ : Child) : Nat :=
  χ.coming.length + if χ.isAlive then χ.behaviour.rest.length + 1 else 0

/-- A signal does not change what is still to become of a process by itself. -/
theorem acts_of_signalled {χ ψ : Child} (h : χ.Signalled ψ) : ψ.acts = χ.acts := by
  rw [acts, coming, h.isAlive, h.writes, h.rest, h.behaviour, acts, coming]

/-- What has come through a stream is not to come any more. -/
theorem acts_flush_lt (h : χ.coming ≠ []) : χ.flush.acts < χ.acts := by
  have hl := List.length_pos_iff.mpr h
  rw [acts, coming_flush, isAlive_flush, behaviour_flush, List.length_tail, acts]
  omega

@[simp] theorem length_after (ω : Schedule) (now : Time) : (ω.after now).length = ω.length := by
  simp [Schedule.after, Schedule.sorted]

/-- A process that has ended does not end again. -/
theorem acts_finish_lt (h : χ.isAlive = true) (n : Int) (now : Time) (o : Option Int) :
    ({ χ.finish n now with seen := o } : Child).acts < χ.acts := by
  have hf : Child.isAlive { χ.finish n now with seen := o } = false := rfl
  rw [acts, coming, hf, acts, h]
  simp [finish]
  omega

end Child

namespace Proxy

open Child

namespace World

variable {s p q : Nat} {t : Time} {w v : World}

/-! ## Acts -/

def acts (w : World) : Nat := (w.children.map Child.acts).sum

/-- Signals do not change what processes will still do. -/
theorem acts_of_signalled (hl : v.children.length = w.children.length)
    (h : ∀ p < w.children.length, (w.child p).Signalled (v.child p)) : v.acts = w.acts := by
  have hm : v.children.map Child.acts = w.children.map Child.acts := by
    refine List.ext_getElem (by simpa using hl) fun p hp hp' ↦ ?_
    simp only [List.length_map] at hp hp'
    have hχ := Child.acts_of_signalled (h p hp')
    rw [World.child, World.child, List.getD_eq_getElem _ _ hp, List.getD_eq_getElem _ _ hp'] at hχ
    simpa using hχ
  rw [acts, hm, acts]

/-- Whoever acts next has something to do. -/
theorem exists_nextAct? (h : w.nextActor? = some (t, p)) :
    ∃ a, (w.child p).nextAct? = some (t, a) := by
  have hm : ∀ t p, w.nextActor? = some (t, p) → ∃ a, (w.child p).nextAct? = some (t, a) := by
    refine List.foldlRecOn (w.children.zipIdx) _ (b := none)
      (motive := fun b ↦ ∀ t p, b = some (t, p) → ∃ a, (w.child p).nextAct? = some (t, a)) (by simp) ?_
    rintro b hb ⟨χ, q⟩ hχ t p h
    have hq : w.child q = χ := by
      rw [World.child, List.getD_eq_getElem?_getD, List.mem_zipIdx_iff_getElem?.mp hχ]
      rfl
    dsimp only at h
    split at h
    next a _ _ ha =>
      split at h
      · cases h
        exact ⟨a, hq ▸ ha⟩
      · exact hb _ _ h
    next a ha =>
      cases h
      exact ⟨a, hq ▸ ha⟩
    next => exact hb _ _ h
  exact hm t p h

/-- A process that does something next was launched. -/
theorem lt_of_nextAct? (h : (w.child p).nextAct? ≠ none) : p < w.children.length := by
  by_contra hl
  rw [World.child, List.getD_eq_default _ _ (Nat.le_of_not_lt hl)] at h
  exact h rfl

/-- Whoever acts next does so no later than anybody else would. -/
theorem exists_nextActor? {a : Time × Act} (h : (w.child p).nextAct? = some a) :
    ∃ b, w.nextActor? = some b ∧ b.1 ≤ a.1 := by
  have hp := lt_of_nextAct? (w := w) (p := p) (by simp [h])
  have hχ : ((w.child p), p) ∈ w.children.zipIdx := by
    rw [List.mem_zipIdx_iff_getElem?, World.child, List.getD_eq_getElem _ _ hp]
    exact List.getElem?_eq_getElem hp
  refine foldl_le (k := Prod.fst) (v := fun χ ↦ χ.1.nextAct?.map Prod.fst) ?_ ?_ hχ (by simp [h]) none
  · rintro d ⟨χ, q⟩
    dsimp only
    split
    next hd =>
      cases hd
      split
      next hl => exact ⟨_, rfl, Int.le_of_lt hl⟩
      next => exact ⟨_, rfl, Int.le_refl _⟩
    next hd => cases hd
    next => exact ⟨d, rfl, Int.le_refl _⟩
  · rintro b ⟨χ, q⟩ u hu
    obtain ⟨⟨x, y⟩, hx, rfl⟩ := Option.map_eq_some_iff.mp hu
    dsimp only at hx
    simp only [hx]
    cases b with
    | none => exact ⟨_, rfl, Int.le_refl _⟩
    | some d =>
      dsimp only
      split
      next => exact ⟨_, rfl, Int.le_refl _⟩
      next hl => exact ⟨_, rfl, Int.not_lt.mp hl⟩

/-- Each act is one less to come. -/
theorem acts_act (h : (w.child q).nextAct? ≠ none) : (w.act q).acts < w.acts := by
  have hq := lt_of_nextAct? h
  have hless {f : Child → Child} (hc : (w.act q).children = (w.onChild q f).children)
      (hf : (f (w.child q)).acts < (w.child q).acts) : (w.act q).acts < w.acts := by
    have hs : w.children[q]? = some (w.child q) := by
      rw [World.child, List.getD_eq_getElem _ _ hq]
      exact List.getElem?_eq_getElem hq
    have hm : (w.onChild q f).children = w.children.set q (f (w.child q)) := by
      rw [onChild, List.modify_eq_set]
      simp [World.child, List.getD_eq_getElem?_getD, hq]
    rw [acts, hc, hm, acts]
    exact sum_map_set_lt hs hf
  obtain ⟨t, σ, β, hn, hc⟩ | ⟨t, n, hn, ⟨-, hc⟩ | ⟨-, hc⟩⟩ | ⟨hn, -⟩ := w.children_act q
  · obtain ⟨ω, hω⟩ := exists_coming_of_nextAct? hn
    exact hless hc (acts_flush_lt (hω ▸ List.cons_ne_nil _ _))
  · exact hless hc (acts_finish_lt (isAlive_of_exit hn) n w.now _)
  · exact hless hc (acts_finish_lt (isAlive_of_exit hn) n w.now _)
  · exact absurd hn h

/-! ## What acts leave alone -/

/-- The clock, the network, the processes to come and what supervisors are set up with are the same.
-/
structure Stays (w v : World) : Prop where
  now : v.now = w.now
  network : v.network = w.network
  behaviours : v.behaviours = w.behaviours
  config (s : Nat) : (v.supervisor s).config = (w.supervisor s).config

namespace Stays

theorem refl (w : World) : w.Stays w := ⟨rfl, rfl, rfl, fun _ ↦ rfl⟩

/-- What stays over two parts stays over both. -/
theorem trans (h : w.Stays v) (h' : v.Stays u) : w.Stays u where
  now := h'.now.trans h.now
  network := h'.network.trans h.network
  behaviours := h'.behaviours.trans h.behaviours
  config s := (h'.config s).trans (h.config s)

/-- A supervisor may change what it is not set up with. -/
theorem onSupervisor (w : World) (t : Nat) {f : Supervisor → Supervisor}
    (hf : ∀ σ, (f σ).config = σ.config) : w.Stays (w.onSupervisor t f) where
  now := rfl
  network := rfl
  behaviours := rfl
  config s := by
    rw [supervisor_onSupervisor]
    split
    · exact hf _
    · rfl

end Stays

theorem stays_emit (w : World) (ε : Event) : w.Stays (w.emit ε) := ⟨rfl, rfl, rfl, fun _ ↦ rfl⟩

theorem stays_onChild (w : World) (p : Nat) (f : Child → Child) : w.Stays (w.onChild p f) :=
  ⟨rfl, rfl, rfl, fun _ ↦ rfl⟩

theorem stays_readLine (w : World) (s : Nat) (σ : Stream) (bs : List UInt8) :
    w.Stays (w.readLine s σ bs).1 := by
  unfold readLine
  split
  · exact .refl w
  next l _ =>
    dsimp only
    split
    · exact (w.stays_emit _).trans (.onSupervisor _ s fun _ ↦ rfl)
    · exact w.stays_emit _
    · exact w.stays_emit _
  · exact (w.stays_emit _).trans (.onSupervisor _ s fun _ ↦ rfl)

theorem stays_readLines (w : World) (s : Nat) (σ : Stream) (ls : List (List UInt8)) :
    w.Stays (w.readLines s σ ls).1 := by
  induction ls generalizing w with
  | nil => exact .refl w
  | cons l ls ih =>
    have h := w.stays_readLine s σ l
    unfold readLines
    split
    next v hv =>
      rw [hv] at h
      exact h.trans (ih v)
    next v hv => rwa [hv] at h

theorem stays_dropReader (w : World) (p : Nat) (σ : Stream) : w.Stays (w.dropReader p σ) :=
  .onSupervisor w _ fun _ ↦ rfl

theorem stays_receive (w : World) (p : Nat) (σ : Stream) (bs : List UInt8) :
    w.Stays (w.receive p σ bs) := by
  unfold receive
  dsimp only
  split
  · exact .refl w
  next ρ _ =>
    have h := w.stays_readLines (w.child p).owner σ (ρ.buffer.feed bs).lines
    split
    next v β hv _ =>
      rw [hv] at h
      exact h.trans (.onSupervisor v _ fun _ ↦ rfl)
    next hv _ =>
      rw [hv] at h
      exact h.trans (stays_dropReader ..)

theorem stays_closeStream (w : World) (p : Nat) (σ : Stream) : w.Stays (w.closeStream p σ) := by
  unfold closeStream
  split
  · exact .refl w
  · exact (w.stays_readLines ..).trans (stays_dropReader ..)

theorem stays_deliver (w : World) (p : Nat) (σ : Stream) (β : Option (List UInt8)) :
    w.Stays (w.deliver p σ β) := by
  cases β with
  | some bs => exact stays_receive ..
  | none => exact stays_closeStream ..

theorem stays_notice (w : World) (p : Nat) (n : Int) : w.Stays (w.notice p n) := by
  have h : w.Stays (((w.onChild p ({ · with seen := some n })).onSupervisor (w.child p).owner
      ({ · with watches := none })).say .info (exitText n)) :=
    (w.stays_onChild p ({ · with seen := some n })).trans <|
      (Stays.onSupervisor _ _ (f := ({ · with watches := none })) fun _ ↦ rfl).trans (stays_emit _ _)
  unfold notice
  dsimp only
  split
  · split
    · exact (h.trans (stays_emit _ _)).trans (.onSupervisor _ _ fun _ ↦ rfl)
    · exact h
  · exact .refl w

/-- What a process does takes no time and sets up nothing. -/
theorem stays_act (w : World) (q : Nat) : w.Stays (w.act q) := by
  unfold act
  split
  · exact (w.stays_onChild q _).trans (stays_deliver ..)
  next t n _ =>
    have h : w.Stays ((w.onChild q (·.finish n w.now)).emit (.exit n)) :=
      (w.stays_onChild q _).trans (stays_emit _ _)
    unfold exit
    dsimp only
    split
    · exact h.trans (stays_notice ..)
    · exact ((h.trans (stays_closeStream ..)).trans (stays_closeStream ..)).trans (stays_notice ..)
  · exact .refl w

/-- A process behaves as it was laid down, whatever processes do. -/
theorem behaviour_act (w : World) (q p : Nat) :
    ((w.act q).child p).behaviour = (w.child p).behaviour := by
  obtain h | ⟨-, h | ⟨-, n, o, h⟩⟩ := w.child_act_cases q p
  · rw [h]
  · rw [h, behaviour_flush]
  · rw [h]
    rfl

/-- A process that is doomed stays so, whatever processes do. -/
theorem isDoomed_act (h : (w.child p).IsDoomed) (q : Nat) : ((w.act q).child p).IsDoomed := by
  obtain hc | ⟨-, hc | ⟨-, n, o, hc⟩⟩ := w.child_act_cases q p
  · rwa [hc]
  · rw [hc, Child.IsDoomed, killed_flush, isAlive_flush, behaviour_flush, ends_flush]
    exact h
  · rw [hc]
    exact fun _ ha ↦ by cases ha

/-! ## Signals that cannot be ignored -/

/-- A process that is sent a signal which it cannot ignore will end. -/
structure IsFatal (w : World) : Prop where
  isMortal : w.IsMortal
  isDoomed {p : Nat} : p < w.children.length → (w.child p).IsDoomed

/-- Supervisors do not save a process from a signal that it cannot ignore. -/
theorem IsFatal.of_tends (h : w.IsFatal) (ht : w.Tends v) : v.IsFatal where
  isMortal := ht.isMortal h.isMortal
  isDoomed {p} hp := by
    by_cases hl : p < w.children.length
    · exact (ht.signalled hl).doomed (h.isDoomed hl)
    · exact ht.doomed (Nat.le_of_not_lt hl) hp

/-- Whatever processes do, signals that cannot be ignored stay fatal. -/
theorem IsFatal.act (h : w.IsFatal) (q : Nat) : (w.act q).IsFatal where
  isMortal := by
    refine ⟨fun χ hχ ↦ ?_, fun β hβ ↦ h.isMortal.2 β ((w.stays_act q).behaviours ▸ hβ)⟩
    obtain ⟨p, hp, rfl⟩ := List.mem_iff_getElem.mp hχ
    have hl : p < w.children.length := (w.length_act q).2 ▸ hp
    have hb := w.behaviour_act q p
    rw [World.child, List.getD_eq_getElem _ _ hp, World.child, List.getD_eq_getElem _ _ hl] at hb
    exact hb ▸ h.isMortal.1 _ (List.getElem_mem hl)
  isDoomed hp := isDoomed_act (h.isDoomed ((w.length_act q).2 ▸ hp)) q

/-- A process that was killed and lives has something to do. -/
theorem IsFatal.due?_ne_none (h : w.IsFatal) (hp : p < w.children.length)
    (hs : (w.child p).IsSpent) (ha : (w.child p).isAlive = true) : w.due? ≠ none := by
  have hk : (w.child p).killed = true := hs.resolve_left (by simp [ha])
  have hm : (w.child p).behaviour.IsMortal := by
    refine h.isMortal.1 _ ?_
    rw [World.child, List.getD_eq_getElem _ _ hp]
    exact List.getElem_mem hp
  obtain ⟨ε, hε⟩ := List.exists_mem_of_ne_nil _ (h.isDoomed hp hk ha hm)
  obtain ⟨t, a, hn, -⟩ := Child.exists_nextAct? ha hε
  obtain ⟨b, hb, -⟩ := exists_nextActor? hn
  simp [due?, hb]

end World

/-! ## Where work waits -/

variable {s : Nat} {t : Time} {w : World}

/-- A stop whose time has come can go on. -/
theorem StopPhase.isReady_of_due? {φ : StopPhase} (h : φ.due? = some t) (ht : t ≤ w.now) :
    φ.isReady w = true := by
  cases φ with
  | grace p u =>
    cases h
    simp [isReady, ht]
  | killed p => cases h

/-- A start whose time has come can go on. -/
theorem StartPhase.isReady_of_due? {φ : StartPhase} (h : φ.due? = some t) (ht : t ≤ w.now) :
    φ.isReady s w = true := by
  cases φ with
  | clearing φ | cleaning φ _ => exact StopPhase.isReady_of_due? (φ := φ) h ht
  | _ =>
    cases h
    simp [isReady, ht]

/-- A stop that waits goes on at a certain moment, or its process will act. -/
theorem StopPhase.due_or_due {φ : StopPhase} (hw : w.IsFatal) (h : w.InOrder s)
    (hφ : φ.Fits w s) (hr : φ.isReady w = false) : φ.due? ≠ none ∨ w.due? ≠ none := by
  cases φ with
  | grace p u => exact .inl (by simp [due?])
  | killed p =>
    have hp : (w.supervisor s).child = some p := hφ.1.1
    have ha : (w.child p).isAlive = true := by
      have hs : w.hasSeen p = false := hr
      simpa [h.hasSeen hp] using hs
    exact .inr (hw.due?_ne_none (h.launched hp) hφ.2 ha)

/-- A start that cannot go on waits for the clock or for a process. -/
theorem StartPhase.due_or_due {φ : StartPhase} (hw : w.IsFatal) (h : w.InOrder s)
    (hφ : φ.Fits w s) (hr : φ.isReady s w = false) : φ.due? ≠ none ∨ w.due? ≠ none := by
  cases φ with
  | clearing φ | cleaning φ _ => exact StopPhase.due_or_due (φ := φ) hw h hφ hr
  | _ => exact .inl (by simp [due?])

end Proxy

end Sluice
