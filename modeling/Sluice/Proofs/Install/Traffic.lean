import Sluice.Install.Download
import Sluice.Proofs.Install.Body

/-!
# Downloads and the database

Whatever is done to provide the proxy, nothing of it reaches the database.
-/

namespace Sluice

/-- Whether an event is a dealing with the database. -/
def Event.isTraffic : Event → Bool
  | createPool _ | ping | query _ _ | closePool | awaitPool => true
  | _ => false

/-- The dealings with the database among some events. -/
def traffic (εs : List Event) : List Event := εs.filter Event.isTraffic

@[simp] theorem traffic_nil : traffic [] = [] := rfl

@[simp] theorem traffic_append (εs ηs : List Event) :
    traffic (εs ++ ηs) = traffic εs ++ traffic ηs := List.filter_append ..

@[simp] theorem traffic_singleton (ε : Event) :
    traffic [ε] = if ε.isTraffic then [ε] else [] := by
  cases h : ε.isTraffic <;> simp [traffic, h]

namespace Install

/-- Work at a site that does not deal with the database. -/
structure IsQuiet {α : Type} (m : StateM Site α) : Prop where
  traffic_eq : ∀ σ, traffic (m.run σ).2.events = traffic σ.events

namespace IsQuiet

variable {α β ε : Type}

theorem pure (a : α) : IsQuiet (Pure.pure a) := ⟨fun _ ↦ rfl⟩

theorem get : IsQuiet get := ⟨fun _ ↦ rfl⟩

/-- A change that leaves the dealings with the database alone is quiet. -/
theorem modify {f : Site → Site} (hf : ∀ σ, traffic (f σ).events = traffic σ.events) :
    IsQuiet (modify f) := ⟨hf⟩

/-- Quiet work after quiet work is quiet. -/
theorem bind {m : StateM Site α} {f : α → StateM Site β} (hm : IsQuiet m)
    (hf : ∀ a, IsQuiet (f a)) : IsQuiet (m >>= f) :=
  ⟨fun σ ↦ ((hf _).traffic_eq (m.run σ).2).trans (hm.traffic_eq σ)⟩

/-! Work that may fail -/

theorem ok (a : α) : IsQuiet (Pure.pure a : ExceptT ε (StateM Site) α).run := ⟨fun _ ↦ rfl⟩

theorem throw (e : ε) : IsQuiet (throw e : ExceptT ε (StateM Site) α).run := ⟨fun _ ↦ rfl⟩

theorem lift {m : StateM Site α} (hm : IsQuiet m) :
    IsQuiet (liftM m : ExceptT ε (StateM Site) α).run := ⟨hm.traffic_eq⟩

/-- Quiet work that may fail is quiet, however far it comes. -/
theorem andThen {m : ExceptT ε (StateM Site) α} {f : α → ExceptT ε (StateM Site) β}
    (hm : IsQuiet m.run) (hf : ∀ a, IsQuiet (f a).run) : IsQuiet (m >>= f).run := by
  rw [ExceptT.run_bind]
  refine hm.bind fun r ↦ ?_
  cases r with
  | ok a => exact hf a
  | error e => exact pure _

/-- What stands behind a failure is not done. -/
theorem throw_bind (e : ε) (f : α → ExceptT ε (StateM Site) β) :
    IsQuiet (MonadExcept.throw e >>= f).run := ⟨fun _ ↦ rfl⟩

/-- A result that may be a failure is quiet. -/
theorem ofExcept (r : Except ε α) :
    IsQuiet (MonadExcept.ofExcept r : ExceptT ε (StateM Site) α).run := by
  cases r with
  | ok a => exact ok a
  | error e => exact throw e

end IsQuiet

open Work

/-- To make a record is quiet unless it is a dealing with the database. -/
theorem isQuiet_emit {ε : Event} (hε : ε.isTraffic = false) : IsQuiet (emit ε).run :=
  .lift (.modify fun σ ↦ by simp [hε])

theorem isQuiet_log (ι : Level) (s : String) : IsQuiet (Work.log ι s).run := isQuiet_emit rfl

theorem isQuiet_failed {α : Type} (s : String) : IsQuiet (failed s : Work α).run := .throw _

/-- A change of the files is quiet. -/
theorem isQuiet_change (f : File.Store → Except File.Failure File.Store) : IsQuiet (change f) := by
  refine .bind .get fun σ ↦ ?_
  split
  · exact .bind (.modify fun _ ↦ rfl) fun _ ↦ .pure _
  · exact .pure _

/-- A request is quiet. -/
theorem isQuiet_ask (url : String) : IsQuiet (ask url).run := by
  refine .andThen (isQuiet_emit rfl) fun _ ↦ .andThen (.lift .get) fun σ ↦ ?_
  split
  · exact .ok _
  · exact .andThen (.lift (.modify fun _ ↦ rfl)) fun _ ↦ .ok _

/-- To clear what is left of a download is quiet. -/
theorem isQuiet_clear (p : File.Path) : IsQuiet (clear p) := by
  refine .bind (isQuiet_change _) fun o ↦ ?_
  split
  · split
    · exact .modify fun _ ↦ by simp [Event.isTraffic]
    · exact .pure _
  · exact .pure _

/-! ## Transfers -/

/-- Progress is all that is reported of a transfer. -/
theorem traffic_write (limits : Limits) (total : Int) (ρ : Response) :
    traffic (ρ.write limits total).events = [] := by
  refine List.filter_eq_nil_iff.mpr fun ε hε ↦ ?_
  obtain ⟨ι, s, rfl⟩ := exists_eq_log_of_mem_events hε
  exact Bool.false_ne_true

/-- To write a body is quiet. -/
theorem isQuiet_writeBody (ρ : Response) (p : File.Path) : IsQuiet (writeBody ρ p).run := by
  unfold writeBody
  dsimp only
  split
  · refine .andThen (.ok _) fun total ↦ .andThen (.lift .get) fun σ ↦ ?_
    split
    · exact .throw _
    · refine .andThen (.lift .get) fun σ ↦ .andThen (.lift (.modify fun σ ↦ ?_)) fun _ ↦ ?_
      · simp [traffic_write]
      · split
        · exact .ok _
        · exact .throw _
        · split
          · exact .throw _
          · exact .throw _
        · exact .throw _
  · exact .throw_bind _ _

/-- To follow redirects is quiet. -/
theorem isQuiet_receive (p : File.Path) (n : Nat) (url : String) :
    IsQuiet (receive p n url).run := by
  induction n generalizing url with
  | zero => exact .throw _
  | succ n ih =>
    unfold receive
    dsimp only
    refine .andThen (.lift .get) fun σ ↦ ?_
    split
    · refine .andThen (.ok _) fun υ ↦ .andThen (.lift (isQuiet_ask _)) fun r ↦ ?_
      split
      · exact .throw _
      · exact .throw _
      · split
        · split
          · exact .throw _
          · split
            · exact .throw _
            · split
              · exact ih _
              · exact .throw _
        · split
          · exact .throw _
          · exact isQuiet_writeBody _ _
    · exact .throw_bind _ _

/-- To download a file is quiet. -/
theorem isQuiet_downloadFile (url : String) (p : File.Path) (ownClient : Bool) (timeout : Value) :
    IsQuiet (downloadFile url p ownClient timeout).run := by
  unfold downloadFile
  dsimp only
  -- with and without a client of its own the download goes the same way
  repeat' first
    | split
    | exact .ok _
    | exact .throw _
    | exact isQuiet_emit rfl
    | exact .lift .get
    | exact .lift (isQuiet_receive _ _ _)
    | exact .lift (isQuiet_change _)
    | exact .lift (isQuiet_clear _)
    | refine .andThen ?_ fun _ ↦ ?_

/-- To download the proxy is quiet. -/
theorem isQuiet_downloadBinary (p : File.Path) (version : String) (ownClient : Bool) :
    IsQuiet (downloadBinary p version ownClient).run := by
  unfold downloadBinary
  dsimp only
  refine .andThen (.lift .get) fun σ ↦ .andThen (.ofExcept _) fun url ↦
    .andThen (.lift (isQuiet_change _)) fun o ↦ ?_
  split
  · exact .throw_bind _ _
  · refine .andThen (isQuiet_log _ _) fun _ ↦ .andThen (isQuiet_downloadFile _ _ _ _) fun _ ↦ ?_
    repeat' first
      | split
      | exact .ok _
      | exact isQuiet_failed _
      | exact isQuiet_log _ _
      | exact .lift (isQuiet_change _)
      | refine .andThen ?_ fun _ ↦ ?_

/-- To provide the proxy is quiet. -/
theorem isQuiet_ensureBinary (given : Option String) (mayDownload : Bool) (version : String)
    (ownClient : Bool) : IsQuiet (ensureBinary given mayDownload version ownClient).run := by
  unfold ensureBinary
  dsimp only
  refine .andThen (.lift .get) fun σ ↦ .andThen (.ofExcept _) fun p ↦ ?_
  split
  · exact .andThen (isQuiet_log _ _) fun _ ↦ .ok _
  · split
    · exact .andThen (.ofExcept _) fun url ↦ .throw_bind _ _
    · exact .andThen (isQuiet_log _ _) fun _ ↦
        .andThen (isQuiet_downloadBinary _ _ _) fun _ ↦ .ok _

end Install

end Sluice
