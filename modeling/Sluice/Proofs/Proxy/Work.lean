import Sluice.Proofs.Proxy.Order

/-!
# Supervisors side by side

A world holds any number of supervisors.  What one of them does concerns itself, the processes that
it launches, and the signals that it sends (`World.Works`): every other supervisor stays as it is,
and so does what the others know of their processes.
-/

namespace Sluice

/-! ## Processes that are sent signals -/

namespace Child

/-- A process that a signal ends which it cannot ignore. -/
def Behaviour.IsMortal (β : Behaviour) : Prop := β.escapesKill = false ∧ β.onKill.isSome = true

/-- A mortal process that was killed and is still alive will end. -/
def IsDoomed (χ : Child) : Prop :=
  χ.killed = true → χ.isAlive = true → χ.behaviour.IsMortal → χ.ends ≠ []

/-- `ψ` is the process `χ` after some signals. -/
structure Signalled (χ ψ : Child) : Prop where
  behaviour : ψ.behaviour = χ.behaviour
  owner : ψ.owner = χ.owner
  writes : ψ.writes = χ.writes
  rest : ψ.rest = χ.rest
  code : ψ.code = χ.code
  seen : ψ.seen = χ.seen
  killed : χ.killed = true → ψ.killed = true
  doomed : χ.IsDoomed → ψ.IsDoomed

namespace Signalled

theorem refl (χ : Child) : χ.Signalled χ := ⟨rfl, rfl, rfl, rfl, rfl, rfl, id, id⟩

/-- Signals add up. -/
theorem trans {χ ψ ω : Child} (h : χ.Signalled ψ) (h' : ψ.Signalled ω) : χ.Signalled ω where
  behaviour := h'.behaviour.trans h.behaviour
  owner := h'.owner.trans h.owner
  writes := h'.writes.trans h.writes
  rest := h'.rest.trans h.rest
  code := h'.code.trans h.code
  seen := h'.seen.trans h.seen
  killed hk := h'.killed (h.killed hk)
  doomed hd := h'.doomed (h.doomed hd)

/-- A signal alone ends no process. -/
theorem isAlive {χ ψ : Child} (h : χ.Signalled ψ) : ψ.isAlive = χ.isAlive := by
  rw [Child.isAlive, h.code, Child.isAlive]

/-- A process that is over stays so whatever signals come. -/
theorem isSpent {χ ψ : Child} (h : χ.Signalled ψ) (hs : χ.IsSpent) : ψ.IsSpent :=
  hs.imp (fun hd ↦ h.isAlive.trans hd) h.killed

end Signalled

/-- An end that is laid down for later is what a signal amounts to. -/
theorem signalled_endAfter (χ : Child) (now : Time) (ε : Option (Time × Int)) :
    χ.Signalled (χ.endAfter now ε) := by
  unfold endAfter
  split
  · refine { Signalled.refl χ with doomed := fun _ _ _ _ ↦ ?_ }
    exact List.append_ne_nil_of_right_ne_nil _ (List.cons_ne_nil _ _)
  · exact .refl χ

/-- To ask a process to end is a signal. -/
theorem signalled_terminate (χ : Child) (now : Time) : χ.Signalled (χ.terminate now) := by
  unfold terminate
  split
  · exact χ.signalled_endAfter ..
  · exact .refl χ

/-- To kill a process is a signal. -/
theorem signalled_kill (χ : Child) (now : Time) : χ.Signalled (χ.kill now) := by
  have h : χ.Signalled
      (if χ.isAlive && !χ.behaviour.escapesKill then χ.endAfter now χ.behaviour.onKill else χ) := by
    split
    · exact χ.signalled_endAfter ..
    · exact .refl χ
  refine { h with killed := fun _ ↦ rfl, doomed := fun _ _ ha hm ↦ ?_ }
  -- it was alive and could not escape, so its end was laid down
  change Child.isAlive (if _ then _ else _) = true at ha
  rw [h.isAlive] at ha
  replace hm : χ.behaviour.IsMortal := by
    change Behaviour.IsMortal (if _ then _ else _ : Child).behaviour at hm
    rwa [h.behaviour] at hm
  obtain ⟨he, hk⟩ := hm
  obtain ⟨⟨t, n⟩, hε⟩ := Option.isSome_iff_exists.mp hk
  simp [kill, ha, he, endAfter, hε]

/-- A process that was just launched has not been killed. -/
theorem isDoomed_launch (β : Behaviour) (s : Nat) (now : Time) : (launch β s now).IsDoomed := by
  intro hk
  cases hk

end Child

namespace Proxy

open Child

namespace World

/-! ## What a supervisor does -/

/-- Every process, whether launched or to come, is mortal. -/
def IsMortal (w : World) : Prop :=
  (∀ χ ∈ w.children, χ.behaviour.IsMortal) ∧ ∀ β ∈ w.behaviours, β.IsMortal

/-- From `w` to `v` only the supervisor `s` was at work. -/
structure Works (s : Nat) (w v : World) : Prop where
  now : v.now = w.now
  supervisors : v.supervisors.length = w.supervisors.length
  others {t : Nat} : t ≠ s → v.supervisor t = w.supervisor t
  children : w.children.length ≤ v.children.length
  signalled {p : Nat} : p < w.children.length → (w.child p).Signalled (v.child p)
  launched {p : Nat} : w.children.length ≤ p → p < v.children.length →
    (v.child p).owner = s ∧ (v.child p).IsDoomed
  isMortal : w.IsMortal → v.IsMortal

variable {s t p : Nat} {w v u : World}

namespace Works

/-- Where nothing that matters is different, nobody was at work. -/
theorem of_eq (hn : v.now = w.now) (hb : v.behaviours = w.behaviours)
    (hs : v.supervisors = w.supervisors) (hc : v.children = w.children) : w.Works s v where
  now := hn
  supervisors := by rw [hs]
  others _ := by rw [supervisor, hs, supervisor]
  children := Nat.le_of_eq (by rw [hc])
  signalled {p} _ := by
    have hp : v.child p = w.child p := by rw [child, hc, child]
    exact hp ▸ .refl _
  launched hp hp' := by rw [hc] at hp'; omega
  isMortal hm := by rwa [IsMortal, hb, hc]

theorem refl (w : World) : w.Works s w := of_eq rfl rfl rfl rfl

/-- Work in two parts is work. -/
theorem trans (h : w.Works s v) (h' : v.Works s u) : w.Works s u where
  now := h'.now.trans h.now
  supervisors := h'.supervisors.trans h.supervisors
  others ht := (h'.others ht).trans (h.others ht)
  children := Nat.le_trans h.children h'.children
  signalled hp := (h.signalled hp).trans (h'.signalled (Nat.lt_of_lt_of_le hp h.children))
  launched {p} hp hp' := by
    by_cases hv : p < v.children.length
    · obtain ⟨ho, hd⟩ := h.launched hp hv
      have hσ := h'.signalled hv
      exact ⟨hσ.owner.trans ho, hσ.doomed hd⟩
    · exact h'.launched (Nat.le_of_not_lt hv) hp'
  isMortal hm := h'.isMortal (h.isMortal hm)

/-- A supervisor may change its own state. -/
theorem onSupervisor (w : World) (s : Nat) (f : Supervisor → Supervisor) :
    w.Works s (w.onSupervisor s f) :=
  { refl w with
    supervisors := w.length_onSupervisor s f
    others := fun ht ↦ by rw [supervisor_onSupervisor, if_neg fun h ↦ ht h.1.symm] }

/-- A supervisor may send signals to processes. -/
theorem onChild (w : World) (s q : Nat) {f : Child → Child} (hf : ∀ χ : Child, χ.Signalled (f χ)) :
    w.Works s (w.onChild q f) where
  now := rfl
  supervisors := rfl
  others _ := rfl
  children := Nat.le_of_eq (w.length_onChild q f).symm
  signalled _ := by
    rw [child_onChild]
    split
    · exact hf _
    · exact .refl _
  launched hp hp' := by rw [length_onChild] at hp'; omega
  isMortal hm := by
    refine ⟨fun χ hχ ↦ ?_, hm.2⟩
    obtain ⟨i, hi, rfl⟩ := List.mem_iff_getElem.mp hχ
    simp only [World.onChild, List.length_modify] at hi
    have hm := hm.1 _ (List.getElem_mem hi)
    simp only [World.onChild, List.getElem_modify]
    split
    · rwa [(hf _).behaviour]
    · exact hm

/-- One more process is launched. -/
theorem withChild (w : World) (s : Nat) {χ : Child} (ho : χ.owner = s) (hd : χ.IsDoomed)
    (hm : w.IsMortal → χ.behaviour.IsMortal) : w.Works s (w.withChild χ) where
  now := rfl
  supervisors := rfl
  others _ := rfl
  children := by simp [World.withChild]
  signalled hp := by rw [child_withChild_of_lt χ hp]; exact .refl _
  launched {p} hp hp' := by
    have hp' : p < w.children.length + 1 := by simpa [World.withChild] using hp'
    obtain rfl : p = w.children.length := by omega
    rw [child_withChild]
    exact ⟨ho, hd⟩
  isMortal h := by
    refine ⟨fun ψ hψ ↦ ?_, h.2⟩
    rcases List.mem_append.mp hψ with hψ | hψ
    · exact h.1 ψ hψ
    · rw [List.mem_singleton.mp hψ]
      exact hm h

end Works

/-- To make a record is work that changes nothing else. -/
theorem works_emit (w : World) (s : Nat) (ε : Event) : w.Works s (w.emit ε) :=
  .of_eq rfl rfl rfl rfl

theorem works_say (w : World) (s : Nat) (ι : Level) (x : String) : w.Works s (w.say ι x) :=
  w.works_emit s _

/-- To ask a process to end is work. -/
theorem works_terminate (w : World) (s q : Nat) : w.Works s (w.terminate q) :=
  (w.works_emit s _).trans (.onChild _ s q fun χ ↦ χ.signalled_terminate _)

/-- To kill a process is work. -/
theorem works_kill (w : World) (s q : Nat) : w.Works s (w.kill q) :=
  (w.works_emit s _).trans (.onChild _ s q fun χ ↦ χ.signalled_kill _)

/-- To kill the process that it holds is work of a supervisor. -/
theorem works_killChild (w : World) (s : Nat) : w.Works s (w.killChild s) := by
  unfold killChild
  split
  · split
    · exact w.works_kill s _
    · exact .refl w
  · exact .refl w

theorem works_connect (w : World) (s t : Nat) : w.Works s (w.connect t).1 := w.works_emit s _

theorem works_fetch (w : World) (s t : Nat) : w.Works s (w.fetch t).1 := .of_eq rfl rfl rfl rfl

theorem works_interrupted (w : World) (s : Nat) : w.Works s w.interrupted := .of_eq rfl rfl rfl rfl

theorem works_adopt (w : World) (s p : Nat) : w.Works s (w.adopt s p) := .onSupervisor w s _

/-- To launch a process is work, which takes the next behaviour. -/
theorem works_launch (w : World) (s : Nat) (command : List String) :
    w.Works s (w.launch s command).1 := by
  have hβ (hm : w.IsMortal) : (w.behaviours.headD {}).IsMortal := by
    cases hb : w.behaviours with
    | nil => exact ⟨rfl, rfl⟩
    | cons β βs => exact hm.2 β (by rw [hb]; exact List.mem_cons_self)
  have h : w.Works s { w.emit (.spawn command) with behaviours := w.behaviours.tail } :=
    { Works.refl w with
      isMortal := fun hm ↦ ⟨hm.1, fun β h ↦ hm.2 β (List.mem_of_mem_tail h)⟩ }
  unfold launch
  dsimp only
  split
  · exact h
  · -- the behaviour is that of the process that comes first
    have hc := Works.withChild w s (χ := Child.launch (w.behaviours.headD {}) s w.now) rfl
      (isDoomed_launch _ _ _) hβ
    exact
      { now := rfl
        supervisors := rfl
        others := fun _ ↦ rfl
        children := hc.children
        signalled := hc.signalled
        launched := hc.launched
        isMortal := fun hm ↦ ⟨(hc.isMortal hm).1, (h.isMortal hm).2⟩ }

/-! ## Stopping -/

/-- To let go of its process is work of a supervisor. -/
theorem works_release (w : World) (s : Nat) : w.Works s (w.release s) :=
  (Works.onSupervisor w s _).trans (works_say ..)

/-- To begin a stop is work of the supervisor alone. -/
theorem works_stop (w : World) (s : Nat) : w.Works s (w.stop s).1 := by
  unfold stop
  split
  · exact .refl w
  · have h := (w.works_say s .info "Stopping proxy...").trans
      (.onSupervisor _ s ({ · with state := .stopping }))
    dsimp only
    split
    · exact h.trans (works_release ..)
    · exact h.trans (works_terminate ..)

end World

/-- To go on with a stop is work of the supervisor alone. -/
theorem StopPhase.works_resume (s : Nat) (w : World) (φ : StopPhase) :
    w.Works s (φ.resume s w).1 := by
  cases φ with
  | grace p t =>
    have h := (w.works_say s .warning "Force killing proxy...").trans (World.works_kill _ s p)
    simp only [resume]
    split
    · exact w.works_release s
    · split
      · split
        · exact h.trans (World.works_release ..)
        · exact h
      · exact h.trans (World.works_release ..)
  | killed p => exact w.works_release s

/-- To give up a stop is work of the supervisor alone. -/
theorem StopPhase.works_cancel (s : Nat) (w : World) : w.Works s (StopPhase.cancel s w).1 :=
  (w.works_killChild s).trans (World.works_release ..)

/-! Stopping launches nothing. -/

namespace World

@[simp] theorem length_terminate (w : World) (q : Nat) :
    (w.terminate q).children.length = w.children.length := length_onChild ..

@[simp] theorem length_kill (w : World) (q : Nat) :
    (w.kill q).children.length = w.children.length := length_onChild ..

/-- To kill a process launches none. -/
@[simp] theorem length_killChild (w : World) (s : Nat) :
    (w.killChild s).children.length = w.children.length := by
  unfold killChild
  split
  · split <;> simp
  · rfl

/-- To begin a stop launches nothing. -/
@[simp] theorem length_stop (w : World) (s : Nat) :
    (w.stop s).1.children.length = w.children.length := by
  unfold stop
  split
  · rfl
  · dsimp only
    split
    · rfl
    · exact length_terminate ..

end World

/-- To go on with a stop launches nothing. -/
@[simp] theorem StopPhase.length_resume (s : Nat) (w : World) (φ : StopPhase) :
    (φ.resume s w).1.children.length = w.children.length := by
  cases φ with
  | killed p => rfl
  | grace p t =>
    have h : ((w.say .warning "Force killing proxy...").kill p).children.length =
      w.children.length := World.length_kill ..
    simp only [resume]
    split
    · rfl
    · split
      · split <;> exact h
      · exact h

@[simp] theorem StopPhase.length_cancel (s : Nat) (w : World) :
    (StopPhase.cancel s w).1.children.length = w.children.length := w.length_killChild s

/-! ## Starting -/

namespace World

/-- The end of a failed start is work of the supervisor alone. -/
theorem works_settle (w : World) (s : Nat) (cause : Fault) (π : Stopping) :
    w.Works s (w.settle s cause π).1 := by
  unfold settle
  split
  · exact .refl w
  · exact .onSupervisor w s _
  · exact .refl w

/-- A start that fails stops its process. -/
theorem works_fail (w : World) (s : Nat) (cause : Fault) : w.Works s (w.fail s cause).1 :=
  (w.works_stop s).trans (works_settle ..)

/-- A try to connect that has come to its end is followed by work of the supervisor alone. -/
theorem works_afterAttempt (w : World) (s p : Nat) (deadline : Time) (b : Bool) :
    w.Works s (w.afterAttempt s p deadline b).1 := by
  unfold afterAttempt
  split
  · exact (Works.onSupervisor w s _).trans (works_say ..)
  · exact .refl w

/-- To look at a process is work of the supervisor alone. -/
theorem works_poll (w : World) (s p : Nat) (deadline : Time) :
    w.Works s (w.poll s p deadline).1 := by
  unfold poll
  split
  · exact w.works_fail ..
  · split
    · split
      · exact .refl w
      · exact w.works_fail ..
    · dsimp only
      split
      · exact (w.works_connect s s).trans (works_afterAttempt ..)
      · exact w.works_connect s s

/-- To wait until a process is ready is work of the supervisor alone. -/
theorem works_awaitReady (w : World) (s p : Nat) : w.Works s (w.awaitReady s p).1 := by
  unfold awaitReady
  dsimp only
  split
  · exact w.works_fail ..
  · exact (w.works_say ..).trans (works_poll ..)

/-- To launch the proxy is work of the supervisor alone. -/
theorem works_launchProxy (w : World) (s : Nat) (path : File.Path) :
    w.Works s (w.launchProxy s path).1 := by
  unfold launchProxy
  dsimp only
  have h := (w.works_say s .info ("Starting proxy: " ++ path.text ++ " " ++
      " ".intercalate (w.supervisor s).config.arguments)).trans
    (.onSupervisor _ s ({ · with state := .starting, lastError := .text "" }))
  have hl := h.trans (works_launch _ s (path.text :: (w.supervisor s).config.arguments))
  split
  next v φ hv =>
    rw [hv] at hl
    split
    · exact hl.trans (.onSupervisor _ s _)
    · exact hl
  next v p hv =>
    rw [hv] at hl
    exact hl.trans ((works_adopt ..).trans (works_awaitReady ..))

/-- To look for the program is work of the supervisor alone. -/
theorem works_obtain (w : World) (s : Nat) : w.Works s (w.obtain s).1 := by
  have h := w.works_fetch s s
  unfold obtain
  split
  next v φ hv => rwa [hv] at h
  next v path hv =>
    rw [hv] at h
    exact h.trans (works_launchProxy ..)

/-- To wait for the program is work of the supervisor alone. -/
theorem works_provide (w : World) (s : Nat) : w.Works s (w.provide s).1 := by
  unfold provide
  split
  · exact .refl w
  · split
    · exact .refl w
    · exact w.works_obtain s

/-- A supervisor that has stopped an earlier process goes on by itself. -/
theorem works_cleared (w : World) (s : Nat) (π : Stopping) : w.Works s (w.cleared s π).1 := by
  unfold cleared
  split
  · exact .refl w
  · exact w.works_provide s
  · exact .refl w

/-- To begin a start is work of the supervisor alone. -/
theorem works_start (w : World) (s : Nat) : w.Works s (w.start s).1 := by
  unfold start
  split
  · exact w.works_say ..
  · exact (w.works_stop s).trans (works_cleared ..)

end World

/-- To go on with a start is work of the supervisor alone. -/
theorem StartPhase.works_resume (s : Nat) (w : World) (φ : StartPhase) :
    w.Works s (φ.resume s w).1 := by
  cases φ with
  | clearing φ => exact (φ.works_resume s w).trans (World.works_cleared ..)
  | fetching t => exact w.works_obtain s
  | connecting p deadline α => exact w.works_afterAttempt ..
  | pausing p deadline t => exact w.works_poll ..
  | draining p n t => exact w.works_fail ..
  | cleaning φ cause => exact (φ.works_resume s w).trans (World.works_settle ..)

/-- To give up a start is work of the supervisor alone. -/
theorem StartPhase.works_cancel (s : Nat) (w : World) (φ : StartPhase) :
    w.Works s (φ.cancel s w).1 := by
  cases φ with
  | clearing φ => exact (StopPhase.works_cancel s w).trans (World.works_cleared ..)
  | fetching t => exact (w.works_interrupted s).trans (World.works_fetch ..)
  | connecting p deadline α | pausing p deadline t | draining p n t => exact w.works_fail ..
  | cleaning φ cause => exact (StopPhase.works_cancel s w).trans (World.works_settle ..)

/-! ## What others keep -/

namespace World

variable {s t : Nat} {w v : World}

/-- A supervisor stays in order while another one works. -/
theorem Works.inOrder (h : w.Works s v) (ht : t ≠ s) (ho : w.InOrder t) : v.InOrder t := by
  have hσ := h.others ht
  have hold {p : Nat} (hp : (v.supervisor t).child = some p) :
      p < w.children.length ∧ (w.child p).Signalled (v.child p) := by
    rw [hσ] at hp
    exact ⟨ho.launched hp, h.signalled (ho.launched hp)⟩
  have hseen {p : Nat} (hp : (v.supervisor t).child = some p) : v.hasSeen p = w.hasSeen p := by
    rw [hasSeen, (hold hp).2.seen, hasSeen]
  constructor
  case known => rw [h.supervisors]; exact ho.known
  case bare => rw [hσ]; exact ho.bare
  case launched => exact fun hp ↦ Nat.lt_of_lt_of_le (hold hp).1 h.children
  case owner => exact fun hp ↦ (hold hp).2.owner.trans (ho.owner (hσ ▸ hp))
  case signal => rw [hσ]; exact ho.signal
  case watched =>
    intro p hp ha
    rw [(hold hp).2.isAlive] at ha
    rw [hseen hp, hσ]
    exact ho.watched (hσ ▸ hp) ha
  case told =>
    intro p hp ha
    rw [(hold hp).2.isAlive] at ha
    rw [hseen hp]
    exact ho.told (hσ ▸ hp) ha
  case held => rw [hσ]; exact ho.held
  case spent =>
    intro p hp hpo hne
    by_cases hl : p < w.children.length
    · rw [(h.signalled hl).owner] at hpo
      rw [hσ] at hne
      exact (h.signalled hl).isSpent (ho.spent hl hpo hne)
    · exact absurd ((h.launched (Nat.le_of_not_lt hl) hp).1.symm.trans hpo) ht.symm

end World

end Proxy

end Sluice
