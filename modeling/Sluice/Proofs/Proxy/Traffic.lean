import Sluice.Proofs.Install.Traffic
import Sluice.Proxy.Start

/-!
# Supervisors and the database

Nothing that a supervisor or a process does reaches the database, whatever state the world is in:
each operation leaves the dealings with the database as they are.
-/

namespace Sluice.Proxy

namespace World

/-- The dealings with the database so far. -/
def traffic (w : World) : List Event := Sluice.traffic w.events

/-- A record counts if it is a dealing with the database. -/
@[simp] theorem traffic_emit (w : World) (ε : Event) :
    (w.emit ε).traffic = w.traffic ++ if ε.isTraffic then [ε] else [] := by
  simp [traffic, emit]

@[simp] theorem traffic_log (w : World) (ι : Level) (κ : Logger) (s : String) :
    (w.log ι κ s).traffic = w.traffic := by
  simp [log, Event.isTraffic]

@[simp] theorem traffic_say (w : World) (ι : Level) (s : String) :
    (w.say ι s).traffic = w.traffic := traffic_log ..

@[simp] theorem traffic_onChild (w : World) (p : Nat) (f : Child → Child) :
    (w.onChild p f).traffic = w.traffic := rfl

@[simp] theorem traffic_onSupervisor (w : World) (s : Nat) (f : Supervisor → Supervisor) :
    (w.onSupervisor s f).traffic = w.traffic := rfl

@[simp] theorem traffic_addSupervisor (w : World) (κ : Config) :
    (w.addSupervisor κ).traffic = w.traffic := rfl

/-! ## Processes -/

@[simp] theorem traffic_readLine (w : World) (s : Nat) (σ : Child.Stream) (bs : List UInt8) :
    (w.readLine s σ bs).1.traffic = w.traffic := by
  unfold readLine
  split
  · rfl
  · dsimp only
    split <;> simp
  · simp

/-- To read lines deals with no database. -/
@[simp] theorem traffic_readLines (w : World) (s : Nat) (σ : Child.Stream)
    (ls : List (List UInt8)) : (w.readLines s σ ls).1.traffic = w.traffic := by
  induction ls generalizing w with
  | nil => rfl
  | cons l ls ih =>
    have h := w.traffic_readLine s σ l
    unfold readLines
    split
    next v hv => rw [ih, ← h, hv]
    next v hv => rw [← h, hv]

@[simp] theorem traffic_dropReader (w : World) (p : Nat) (σ : Child.Stream) :
    (w.dropReader p σ).traffic = w.traffic := rfl

@[simp] theorem traffic_receive (w : World) (p : Nat) (σ : Child.Stream) (bs : List UInt8) :
    (w.receive p σ bs).traffic = w.traffic := by
  unfold receive
  dsimp only
  split
  · rfl
  next ρ hρ =>
    have h := w.traffic_readLines (w.child p).owner σ (ρ.buffer.feed bs).lines
    split
    next v β hv _ => rw [traffic_onSupervisor, ← h, hv]
    next v b o hv _ => rw [traffic_dropReader, ← h, hv]

@[simp] theorem traffic_closeStream (w : World) (p : Nat) (σ : Child.Stream) :
    (w.closeStream p σ).traffic = w.traffic := by
  unfold closeStream
  split <;> simp

@[simp] theorem traffic_deliver (w : World) (p : Nat) (σ : Child.Stream)
    (β : Option (List UInt8)) : (w.deliver p σ β).traffic = w.traffic := by
  cases β <;> simp [deliver]

@[simp] theorem traffic_notice (w : World) (p : Nat) (code : Int) :
    (w.notice p code).traffic = w.traffic := by
  unfold notice
  dsimp only
  split
  · split <;> simp
  · rfl

/-- The end of a process deals with no database. -/
@[simp] theorem traffic_exit (w : World) (p : Nat) (code : Int) :
    (w.exit p code).traffic = w.traffic := by
  unfold exit
  dsimp only
  split <;> simp [Event.isTraffic]

/-- Whatever a process does, it deals with no database. -/
@[simp] theorem traffic_act (w : World) (p : Nat) : (w.act p).traffic = w.traffic := by
  unfold act
  split <;> simp

@[simp] theorem traffic_terminate (w : World) (p : Nat) :
    (w.terminate p).traffic = w.traffic := by
  simp [terminate, Event.isTraffic]

@[simp] theorem traffic_kill (w : World) (p : Nat) : (w.kill p).traffic = w.traffic := by
  simp [kill, Event.isTraffic]

@[simp] theorem traffic_killChild (w : World) (s : Nat) :
    (w.killChild s).traffic = w.traffic := by
  unfold killChild
  split
  · split <;> simp
  · rfl

/-- To launch a process deals with no database. -/
@[simp] theorem traffic_launch (w : World) (s : Nat) (command : List String) :
    (w.launch s command).1.traffic = w.traffic := by
  have h : (w.emit (.spawn command)).traffic = w.traffic := by simp [Event.isTraffic]
  unfold launch
  dsimp only
  split
  · exact h
  · exact h

@[simp] theorem traffic_connect (w : World) (s : Nat) : (w.connect s).1.traffic = w.traffic := by
  simp [connect, Event.isTraffic]

/-- Quiet work at the site of a world leaves the dealings with the database as they are. -/
theorem traffic_atSite {α : Type} {ω : Install.Work α} (hω : Install.IsQuiet ω.run) (w : World) :
    (w.atSite ω).1.traffic = w.traffic := by
  have h := hω.traffic_eq { w.site with events := [] }
  change Sluice.traffic (w.events ++ (ω.run.run { w.site with events := [] }).2.events) = _
  rw [traffic_append, h, traffic_nil, List.append_nil, traffic]

/-! ## Stopping -/

@[simp] theorem traffic_release (w : World) (s : Nat) : (w.release s).traffic = w.traffic := by
  simp [release]

/-- To begin a stop deals with no database. -/
@[simp] theorem traffic_stop (w : World) (s : Nat) : (w.stop s).1.traffic = w.traffic := by
  unfold stop
  split
  · rfl
  · dsimp only
    split <;> simp

end World

/-- To go on with a stop deals with no database. -/
@[simp] theorem StopPhase.traffic_resume (s : Nat) (w : World) (φ : StopPhase) :
    (φ.resume s w).1.traffic = w.traffic := by
  cases φ with
  | grace p t =>
    simp only [resume]
    split
    · simp
    · split
      · split <;> simp
      · simp
  | killed p => simp [resume]

/-- To give up a stop deals with no database. -/
@[simp] theorem StopPhase.traffic_cancel (s : Nat) (w : World) :
    (StopPhase.cancel s w).1.traffic = w.traffic := by
  simp [cancel]

/-! ## Starting -/

namespace World

@[simp] theorem traffic_settle (w : World) (s : Nat) (cause : Fault) (π : Stopping) :
    (w.settle s cause π).1.traffic = w.traffic := by
  unfold settle
  split <;> rfl

@[simp] theorem traffic_fail (w : World) (s : Nat) (cause : Fault) :
    (w.fail s cause).1.traffic = w.traffic :=
  (traffic_settle ..).trans (w.traffic_stop s)

@[simp] theorem traffic_reportExit (w : World) (s : Nat) (code : Int) :
    (w.reportExit s code).1.traffic = w.traffic := w.traffic_fail ..

@[simp] theorem traffic_afterAttempt (w : World) (s p : Nat) (deadline : Time) (b : Bool) :
    (w.afterAttempt s p deadline b).1.traffic = w.traffic := by
  unfold afterAttempt
  split
  · simp
  · rfl

/-- To look at a process deals with no database. -/
@[simp] theorem traffic_poll (w : World) (s p : Nat) (deadline : Time) :
    (w.poll s p deadline).1.traffic = w.traffic := by
  unfold poll
  split
  · simp
  · split
    · split <;> simp
    · dsimp only
      split
      · exact (traffic_afterAttempt ..).trans (w.traffic_connect s)
      · exact w.traffic_connect s

@[simp] theorem traffic_awaitReady (w : World) (s p : Nat) :
    (w.awaitReady s p).1.traffic = w.traffic := by
  unfold awaitReady
  dsimp only
  split <;> simp

@[simp] theorem traffic_adopt (w : World) (s p : Nat) : (w.adopt s p).traffic = w.traffic := rfl

@[simp] theorem traffic_launchProxy (w : World) (s : Nat) (path : File.Path) :
    (w.launchProxy s path).1.traffic = w.traffic := by
  unfold launchProxy
  dsimp only
  split
  next v φ hv =>
    have h := congrArg (fun r ↦ r.1.traffic) hv
    simp only [traffic_launch, traffic_onSupervisor, traffic_say] at h
    split <;> simp [h]
  next v p hv =>
    have h := congrArg (fun r ↦ r.1.traffic) hv
    simp only [traffic_launch, traffic_onSupervisor, traffic_say] at h
    simp [h]

@[simp] theorem traffic_fetch (w : World) (s : Nat) : (w.fetch s).1.traffic = w.traffic :=
  traffic_atSite (Install.isQuiet_ensureBinary ..) w

@[simp] theorem traffic_interrupted (w : World) : w.interrupted.traffic = w.traffic := rfl

@[simp] theorem traffic_obtain (w : World) (s : Nat) : (w.obtain s).1.traffic = w.traffic := by
  unfold obtain
  split
  next v φ hv => rw [← w.traffic_fetch s, hv]
  next v p hv => rw [traffic_launchProxy, ← w.traffic_fetch s, hv]

@[simp] theorem traffic_provide (w : World) (s : Nat) :
    (w.provide s).1.traffic = w.traffic := by
  unfold provide
  split
  · rfl
  · split
    · rfl
    · exact w.traffic_obtain s

@[simp] theorem traffic_cleared (w : World) (s : Nat) (π : Stopping) :
    (w.cleared s π).1.traffic = w.traffic := by
  unfold cleared
  split <;> simp

/-- To begin a start deals with no database. -/
@[simp] theorem traffic_start (w : World) (s : Nat) : (w.start s).1.traffic = w.traffic := by
  unfold start
  split
  · simp
  · exact (traffic_cleared ..).trans (w.traffic_stop s)

end World

/-- To go on with a start deals with no database. -/
@[simp] theorem StartPhase.traffic_resume (s : Nat) (w : World) (φ : StartPhase) :
    (φ.resume s w).1.traffic = w.traffic := by
  cases φ with
  | clearing φ => exact (World.traffic_cleared ..).trans (φ.traffic_resume s w)
  | fetching t => simp [resume]
  | connecting p deadline α => simp [resume]
  | pausing p deadline t => simp [resume]
  | draining p n t => simp [resume]
  | cleaning φ cause => exact (World.traffic_settle ..).trans (φ.traffic_resume s w)

/-- To give up a start deals with no database. -/
@[simp] theorem StartPhase.traffic_cancel (s : Nat) (w : World) (φ : StartPhase) :
    (φ.cancel s w).1.traffic = w.traffic := by
  cases φ with
  | clearing φ => exact (World.traffic_cleared ..).trans (StopPhase.traffic_cancel s w)
  | fetching t => simp [cancel]
  | connecting p deadline α => simp [cancel]
  | pausing p deadline t => simp [cancel]
  | draining p n t => simp [cancel]
  | cleaning φ cause => exact (World.traffic_settle ..).trans (StopPhase.traffic_cancel s w)

end Sluice.Proxy
