import Sluice.Proofs.Proxy.Lines
import Sluice.Proofs.Proxy.Record
import Sluice.Proofs.Proxy.Startup

/-!
# What is heard of a process

Whoever acts, a supervisor has heard the lines that its process has completed, one after the other
as they were (`Follows.act`).  What comes through a stream of the process goes to the reader of that
stream (`deliver_of_reader`), and its own end, unless something else keeps the streams open, ends
both; anything else is silence (`Unheard`).
-/

namespace Sluice

/-- Whether an event is a launch or a line of output. -/
def Event.isNews : Event → Bool
  | spawn _ | log _ .proxyOutput _ | log _ .proxyErrors _ => true
  | _ => false

namespace Proxy

open Child

namespace Output

/-- Whether nothing more is heard of a stream: it has ended, or a line on it was nested too deep. -/
def isSilent (o : Output) (σ : Stream) : Bool :=
  o.isClosed σ || decide (σ = .output) && o.lines.any Line.isTooDeep

/-- The reader of a stream of the process `p`, if it still reads. -/
def reader? (o : Output) (p : Nat) (σ : Stream) : Option Reader :=
  if o.isSilent σ then none else some ⟨p, σ, o.held σ⟩

end Output

end Proxy

namespace Child

open Proxy

/-- What a process puts through its streams, in the order in which it does. -/
def Behaviour.script (β : Behaviour) : List (Stream × Option (List UInt8)) :=
  β.flow.sorted.map Prod.snd

/-- What comes through the streams of a process when it has ended, in the order in which it does. -/
def Behaviour.aftermath (β : Behaviour) : List (Stream × Option (List UInt8)) :=
  if β.holdsPipes then β.remainder.sorted.map Prod.snd else [(.output, none), (.errors, none)]

/-- The order does not depend on when it begins. -/
theorem map_after (ω : Schedule) (now : Time) : (ω.after now).map Prod.snd = ω.sorted.map Prod.snd := by
  have hle (a b : Time × Stream × Option (List UInt8)) :
      decide (a.1 ≤ b.1) = decide (now + a.1 ≤ now + b.1) := by
    unfold Time at *
    simp
  rw [Schedule.after, Schedule.sorted, Schedule.sorted, ← List.map_mergeSort fun a _ b _ ↦ hle a b,
    List.map_map]
  rfl

/-- What has come through the streams of a process so far. -/
def written (χ : Child) : Output :=
  Output.ofPieces (χ.behaviour.script.take (χ.behaviour.script.length - χ.writes.length)) ++
    if χ.isAlive then []
    else Output.ofPieces (χ.behaviour.aftermath.take (χ.behaviour.aftermath.length - χ.rest.length))

/-- The lines that were completed on the streams of a process so far. -/
def lines (χ : Child) : List Line := χ.written.lines

/-- All that comes through the streams of a process as it stands. -/
def complete (χ : Child) : Output := χ.written ++ Output.ofPieces (χ.coming.map Prod.snd)

/-- However much a process has written when it ends, all its lines are short enough to be read. -/
def Behaviour.IsShortLined (β : Behaviour) : Prop :=
  ∀ n, (Output.ofPieces (β.script.take n ++ β.aftermath)).IsShortLined

/-- What is still to come through the streams of a process is the end of all that does. -/
structure IsAhead (χ : Child) : Prop where
  writes : χ.writes.map Prod.snd <:+ χ.behaviour.script
  rest : χ.isAlive = false → χ.rest.map Prod.snd <:+ χ.behaviour.aftermath

section Written

variable {χ ψ : Child} {t : Time} {σ : Stream} {β : Option (List UInt8)}
  {ws xs : List (Stream × Option (List UInt8))}

/-- What has come of a process that lives is what it has put through its streams. -/
theorem written_of_isAlive (ha : χ.isAlive = true)
    (h : χ.behaviour.script = ws ++ χ.writes.map Prod.snd) : χ.written = .ofPieces ws := by
  simp [written, h, ha]

/-- Nothing has come yet of a script that is all still to come. -/
theorem written_eq_nil (ha : χ.isAlive = true)
    (h : χ.behaviour.script = χ.writes.map Prod.snd) : χ.written = [] :=
  written_of_isAlive ha (h.trans (List.nil_append _).symm)

/-- What has come of a process that has ended is all that it put through its streams, and some of
what outlived it. -/
theorem written_of_not_isAlive (ha : χ.isAlive = false)
    (h : χ.behaviour.script = ws ++ χ.writes.map Prod.snd)
    (hr : χ.behaviour.aftermath = xs ++ χ.rest.map Prod.snd) :
    χ.written = .ofPieces ws ++ Output.ofPieces xs := by
  simp [written, h, hr, ha]

/-- What has come of a process goes by what is still to come. -/
theorem written_congr (hβ : ψ.behaviour = χ.behaviour) (hw : ψ.writes = χ.writes)
    (hr : ψ.rest = χ.rest) (hc : ψ.code = χ.code) : ψ.written = χ.written := by
  rw [written, isAlive, hβ, hw, hr, hc, written, isAlive]

theorem IsAhead.congr (h : χ.IsAhead) (hβ : ψ.behaviour = χ.behaviour) (hw : ψ.writes = χ.writes)
    (hr : ψ.rest = χ.rest) (hc : ψ.code = χ.code) : ψ.IsAhead := by
  refine ⟨by rw [hw, hβ]; exact h.writes, fun ha ↦ ?_⟩
  rw [isAlive, hc] at ha
  rw [hr, hβ]
  exact h.rest ha

/-- What a process that was just launched puts through its streams is all still to come. -/
theorem isAhead_launch (β : Behaviour) (s : Nat) (now : Time) : (launch β s now).IsAhead :=
  ⟨by rw [launch, map_after]; exact List.suffix_rfl, nofun⟩

/-- Nothing has come of a process that was just launched. -/
theorem written_launch (β : Behaviour) (s : Nat) (now : Time) : (launch β s now).written = [] :=
  written_eq_nil rfl (by rw [launch, map_after]; rfl)

/-- What comes through a stream next has come then. -/
theorem IsAhead.flush (h : χ.IsAhead) (hn : χ.nextAct? = some (t, .write σ β)) :
    χ.flush.IsAhead ∧ χ.flush.written = χ.written ++ Output.piece σ β := by
  obtain ⟨ω, hω⟩ := exists_coming_of_nextAct? hn
  obtain ⟨ws, hs⟩ := h.writes
  cases ha : χ.isAlive with
  | true =>
    have hf : χ.flush = { χ with writes := χ.writes.tail } := by rw [Child.flush, ha, if_pos rfl]
    have hw : χ.writes = (t, σ, β) :: ω := by rwa [coming, ha, if_pos rfl] at hω
    have hs' : χ.flush.behaviour.script = (ws ++ [(σ, β)]) ++ χ.flush.writes.map Prod.snd := by
      simp [hf, ← hs, hw]
    have ha' : χ.flush.isAlive = true := χ.isAlive_flush.trans ha
    refine ⟨⟨⟨_, hs'.symm⟩, fun hd ↦ by cases ha'.symm.trans hd⟩, ?_⟩
    rw [written_of_isAlive ha hs.symm, written_of_isAlive ha' hs', Output.ofPieces_append,
      Output.ofPieces_singleton]
  | false =>
    obtain ⟨xs, hr⟩ := h.rest ha
    have hf : χ.flush = { χ with rest := χ.rest.tail } := by rw [Child.flush, ha]; rfl
    have hw : χ.rest = (t, σ, β) :: ω := by rwa [coming, ha, if_neg Bool.false_ne_true] at hω
    have hs' : χ.flush.behaviour.script = ws ++ χ.flush.writes.map Prod.snd := by simp [hf, hs]
    have hr' : χ.flush.behaviour.aftermath = (xs ++ [(σ, β)]) ++ χ.flush.rest.map Prod.snd := by
      simp [hf, ← hr, hw]
    have ha' : χ.flush.isAlive = false := χ.isAlive_flush.trans ha
    refine ⟨⟨⟨_, hs'.symm⟩, fun _ ↦ ⟨_, hr'.symm⟩⟩, ?_⟩
    rw [written_of_not_isAlive ha hs.symm hr.symm, written_of_not_isAlive ha' hs' hr',
      Output.ofPieces_append, Output.ofPieces_singleton, List.append_assoc]

/-- With the end of a process its streams end, unless something else keeps them open. -/
theorem IsAhead.finish (h : χ.IsAhead) (ha : χ.isAlive = true) (n : Int) (now : Time)
    (o : Option Int) : ({ χ.finish n now with seen := o } : Child).IsAhead ∧
      ({ χ.finish n now with seen := o } : Child).written = χ.written ++
        if χ.behaviour.holdsPipes then []
        else Output.piece .output none ++ Output.piece .errors none := by
  obtain ⟨ws, hs⟩ := h.writes
  set ψ : Child := { χ.finish n now with seen := o } with hψ
  have hs' : ψ.behaviour.script = ws ++ ψ.writes.map Prod.snd := hs.symm
  have hrest : ψ.rest = χ.behaviour.rest.after now := rfl
  have hr : ψ.behaviour.aftermath = (if χ.behaviour.holdsPipes then [] else
      [(.output, none), (.errors, none)]) ++ ψ.rest.map Prod.snd := by
    rw [hrest, map_after, show ψ.behaviour = χ.behaviour from rfl, Behaviour.aftermath,
      Behaviour.rest]
    split
    · rw [List.nil_append]
    · simp [Schedule.sorted]
  refine ⟨⟨⟨ws, hs⟩, fun _ ↦ ⟨_, hr.symm⟩⟩, ?_⟩
  rw [written_of_isAlive ha hs.symm, written_of_not_isAlive rfl hs' hr]
  split <;> simp [Output.ofPieces]

/-- Whatever has come of a process with short lines has short lines. -/
theorem isShortLined_written (h : χ.behaviour.IsShortLined) : χ.written.IsShortLined := by
  have hn := h (χ.behaviour.script.length - χ.writes.length)
  rw [Output.ofPieces_append] at hn
  unfold written
  split
  · rw [List.append_nil]
    exact hn.of_append
  · rw [← List.take_append_drop (χ.behaviour.aftermath.length - χ.rest.length)
      χ.behaviour.aftermath, Output.ofPieces_append, ← List.append_assoc] at hn
    exact hn.of_append

/-- Nothing is missing when both streams have ended. -/
theorem lines_complete (h : ∀ σ, χ.written.isClosed σ = true) : χ.complete.lines = χ.lines := by
  rw [complete, Output.lines_append, Output.linesAfter_of_isClosed fun x _ ↦ h x.1, List.append_nil,
    lines]

end Written

end Child

namespace Proxy

open Child

namespace World

/-- A supervisor has heard the lines that were completed in the output `o` of its process `p`.  If
`b` holds nobody else hears anything. -/
structure Follows (b : Prop) (w : World) (s p : Nat) (o : Output) : Prop where
  readers {ρ : Reader} : ρ ∈ (w.supervisor s).readers → ρ.child = p
  reader? (σ : Stream) : (w.supervisor s).readers.find? (·.reads p σ) = o.reader? p σ
  lastError : (w.supervisor s).lastError = latest (.text "") (heard o.lines)
  recorded : b → ∃ εs command ηs, w.events = εs ++ .spawn command :: ηs ∧
    ηs.filter Event.isNews = (heard o.lines).filterMap Line.record?

/-- From `w` to `v` the supervisor `s` heard some lines. -/
structure Hears (b : Prop) (s : Nat) (w v : World) (ℓs : List Line) : Prop where
  lastError : (v.supervisor s).lastError = latest (w.supervisor s).lastError ℓs
  news : b → w.Records Event.isNews v (ℓs.filterMap Line.record?)

variable {b : Prop} {s t p q : Nat} {σ τ : Stream} {β : Option (List UInt8)} {bs : List UInt8}
  {w v u : World} {ℓs κs : List Line} {o : Output}

namespace Hears

/-- A world in which the supervisor says the same and nothing new is recorded has it hear nothing.
-/
theorem of_eq (h : (v.supervisor s).lastError = (w.supervisor s).lastError)
    (hn : b → w.Records Event.isNews v []) : w.Hears b s v [] := ⟨h, hn⟩

/-- Nothing is heard where nothing happens. -/
theorem refl (w : World) : w.Hears b s w [] := of_eq rfl fun _ ↦ .refl w

/-- What is heard adds up. -/
theorem trans (h : w.Hears b s v ℓs) (h' : v.Hears b s u κs) : w.Hears b s u (ℓs ++ κs) where
  lastError := by rw [h'.lastError, h.lastError, latest_append]
  news hb := by
    rw [List.filterMap_append]
    exact (h.news hb).trans (h'.news hb)

/-- Nothing more is heard. -/
theorem trans_nil (h : w.Hears b s v ℓs) (h' : v.Hears b s u []) : w.Hears b s u ℓs := by
  simpa using h.trans h'

end Hears

/-- A supervisor that has heard what was completed, and hears what is completed next, has heard it
all. -/
theorem Follows.next {o' : Output} (h : w.Follows b s p o) (hv : w.Hears b s v ℓs)
    (hl : heard o'.lines = heard o.lines ++ ℓs)
    (hr : ∀ ρ ∈ (v.supervisor s).readers, ρ.child = p)
    (hf : ∀ σ, (v.supervisor s).readers.find? (·.reads p σ) = o'.reader? p σ) :
    v.Follows b s p o' where
  readers hρ := hr _ hρ
  reader? := hf
  lastError := by rw [hv.lastError, h.lastError, hl, latest_append]
  recorded hb := by
    obtain ⟨εs, command, ηs, he, hn⟩ := h.recorded hb
    obtain ⟨θs, hθ, hf⟩ := hv.news hb
    exact ⟨εs, command, ηs ++ θs, by simp [hθ, he], by simp [hf, hn, hl]⟩

/-! ## Readers -/

/-- A reader that is taken out is no longer found, and the others are. -/
theorem find?_filter_reads (ρs : List Reader) (p : Nat) (σ τ : Stream) :
    (ρs.filter (!·.reads p σ)).find? (·.reads p τ) =
      if τ = σ then none else ρs.find? (·.reads p τ) := by
  rw [List.find?_filter]
  split
  next h => simp [h]
  next h =>
    refine congrArg (ρs.find? ·) (funext fun ρ ↦ ?_)
    by_cases hτ : ρ.reads p τ = true
    · have hσ : ρ.reads p σ = false := by
        simp only [Reader.reads, Bool.and_eq_true, decide_eq_true_eq] at hτ
        simp [Reader.reads, hτ, h]
      simp [hτ, hσ]
    · simp [hτ]

/-- The buffer of one reader changes, and the others are as they were. -/
theorem find?_map_reads (ρs : List Reader) (p : Nat) (σ τ : Stream) (β : LineBuffer) :
    (ρs.map fun ρ ↦ if ρ.reads p σ then { ρ with buffer := β } else ρ).find? (·.reads p τ) =
      if τ = σ then (ρs.find? (·.reads p τ)).map ({ · with buffer := β })
      else ρs.find? (·.reads p τ) := by
  rw [List.find?_map]
  have hr : ((·.reads p τ) ∘ fun ρ : Reader ↦ if ρ.reads p σ then { ρ with buffer := β } else ρ) =
      (·.reads p τ) := by
    funext ρ
    simp only [Function.comp_apply]
    split <;> rfl
  rw [hr]
  cases hf : ρs.find? (·.reads p τ) with
  | none => simp
  | some ρ =>
    have hτ : ρ.child = p ∧ ρ.stream = τ := by
      simpa [Reader.reads] using List.find?_some hf
    by_cases h : τ = σ <;> simp [Reader.reads, hτ, h]

/-! ## Hearing -/

/-- A supervisor that hears lines remembers the latest complaint, and nothing else of it changes. -/
theorem supervisor_hear (hs : s < w.supervisors.length) (ℓs : List Line) :
    (w.hear s ℓs).supervisor s =
      { w.supervisor s with lastError := latest (w.supervisor s).lastError ℓs } := by
  rw [hear, supervisor_onSupervisor, if_pos ⟨rfl, hs⟩]
  rfl

/-- The records of lines are news. -/
theorem filter_isNews_record? (ℓs : List Line) :
    (ℓs.filterMap Line.record?).filter Event.isNews = ℓs.filterMap Line.record? := by
  rw [List.filter_eq_self]
  intro ε hε
  obtain ⟨⟨_ | _, bs⟩, -, hr⟩ := List.mem_filterMap.mp hε
  all_goals
    obtain ⟨l, -, rfl⟩ := Option.map_eq_some_iff.mp hr
    rfl

/-- The supervisor that hears some lines hears those. -/
theorem hears_hear (hs : s < w.supervisors.length) (ℓs : List Line) :
    w.Hears b s (w.hear s ℓs) ℓs where
  lastError := by rw [supervisor_hear hs]
  news _ := ⟨_, rfl, filter_isNews_record? ℓs⟩

/-- A supervisor that remembers the same complaint has heard nothing. -/
theorem hears_onSupervisor (w : World) (s t : Nat) {f : Supervisor → Supervisor}
    (hf : ∀ σ, (f σ).lastError = σ.lastError) : w.Hears b s (w.onSupervisor t f) [] := by
  refine .of_eq ?_ fun _ ↦ .of_eq rfl
  rw [supervisor_onSupervisor]
  split
  · exact hf _
  · rfl

/-- When a stream ends its reader hears what is not finished, if there still is one. -/
theorem closeStream_of_reader (hs : s < w.supervisors.length) (ho : (w.child p).owner = s)
    (hρ : (w.supervisor s).readers.find? (·.reads p σ) = o.reader? p σ) :
    w.Hears b s (w.closeStream p σ) (if o.isSilent σ then [] else o.tail σ) ∧
      ((w.closeStream p σ).supervisor s).readers =
        (w.supervisor s).readers.filter (!·.reads p σ) := by
  have hr : w.reader? p σ = o.reader? p σ := by rw [World.reader?, ho, hρ]
  unfold Output.reader? at hr hρ
  by_cases hc : o.isSilent σ = true
  · rw [if_pos hc] at hr hρ ⊢
    rw [closeStream, hr]
    refine ⟨.refl w, (List.filter_eq_self.mpr fun ρ hm ↦ ?_).symm⟩
    simpa using List.find?_eq_none.mp hρ ρ hm
  · rw [if_neg hc] at hr ⊢
    have hv : w.closeStream p σ = (w.hear s (o.tail σ)).dropReader p σ := by
      rw [closeStream, hr]
      dsimp only
      rw [ho, o.finish_held, readLines_eq w s fun _ ↦ Output.stream_of_mem_tail, heard_tail]
    have hd : ((w.hear s (o.tail σ)).child p).owner = s := ho
    have hs' : s < (w.hear s (o.tail σ)).supervisors.length := by simpa [hear] using hs
    rw [hv, dropReader, hd]
    refine ⟨(hears_hear hs _).trans_nil (hears_onSupervisor _ s s fun _ ↦ rfl), ?_⟩
    rw [supervisor_onSupervisor, if_pos ⟨rfl, hs'⟩, supervisor_hear hs]

/-- What comes in is heard by the reader of its stream, if there still is one, and the reader goes
on unless a line is nested too deep. -/
theorem receive_of_reader (hs : s < w.supervisors.length) (ho : (w.child p).owner = s)
    (hρ : (w.supervisor s).readers.find? (·.reads p σ) = o.reader? p σ)
    (hl : (o ++ Output.piece σ (some bs)).IsShortLined) :
    w.Hears b s (w.receive p σ bs)
        (if o.isSilent σ then [] else heard (o.linesAfter (Output.piece σ (some bs)))) ∧
      ((w.receive p σ bs).supervisor s).readers =
        if o.isSilent σ then (w.supervisor s).readers
        else if (o.linesAfter (Output.piece σ (some bs))).any Line.isTooDeep then
          (w.supervisor s).readers.filter (!·.reads p σ)
        else (w.supervisor s).readers.map fun ρ ↦
          if ρ.reads p σ then { ρ with buffer := (o ++ Output.piece σ (some bs)).held σ }
          else ρ := by
  have hr : w.reader? p σ = o.reader? p σ := by rw [World.reader?, ho, hρ]
  unfold Output.reader? at hr
  by_cases hc : o.isSilent σ = true
  · rw [if_pos hc] at hr
    rw [receive, hr, if_pos hc, if_pos hc]
    exact ⟨.refl w, rfl⟩
  · have hclosed : o.isClosed σ = false := by
      cases h : o.isClosed σ with
      | false => rfl
      | true => exact absurd (by rw [Output.isSilent, h, Bool.true_or]) hc
    rw [if_neg hc] at hr
    rw [if_neg hc, if_neg hc, receive, hr]
    dsimp only
    rw [ho, Output.feed_held hclosed hl]
    dsimp only
    rw [readLines_eq w s fun _ ↦ Output.stream_of_mem_linesAfter_piece]
    set ℓs := o.linesAfter (Output.piece σ (some bs)) with hℓ
    have hd : ((w.hear s (heard ℓs)).child p).owner = s := ho
    have hs' : s < (w.hear s (heard ℓs)).supervisors.length := by simpa [hear] using hs
    cases ha : ℓs.any Line.isTooDeep with
    | true =>
      simp only [Bool.not_true, if_true]
      rw [dropReader, hd]
      refine ⟨(hears_hear hs _).trans_nil (hears_onSupervisor _ s s fun _ ↦ rfl), ?_⟩
      rw [supervisor_onSupervisor, if_pos ⟨rfl, hs'⟩, supervisor_hear hs]
    | false =>
      simp only [Bool.not_false, Bool.false_eq_true, if_false]
      refine ⟨(hears_hear hs _).trans_nil (hears_onSupervisor _ s s fun _ ↦ rfl), ?_⟩
      rw [supervisor_onSupervisor, if_pos ⟨rfl, hs'⟩, supervisor_hear hs]

/-! ## Silence -/

/-- From `w` to `v` the supervisor `s` heard nothing, and if `b` holds nobody did. -/
structure Unheard (b : Prop) (s : Nat) (w v : World) : Prop where
  lastError : (v.supervisor s).lastError = (w.supervisor s).lastError
  readers : (v.supervisor s).readers = (w.supervisor s).readers
  news : b → w.Records Event.isNews v []

namespace Unheard

/-- Who goes unheard is not heard. -/
theorem hears (h : w.Unheard b s v) : w.Hears b s v [] := .of_eq h.lastError h.news

/-- Where the supervisors and the record are the same, nobody was heard. -/
theorem of_eq (hs : v.supervisors = w.supervisors) (he : v.events = w.events) : w.Unheard b s v where
  lastError := by rw [supervisor, hs, supervisor]
  readers := by rw [supervisor, hs, supervisor]
  news _ := .of_eq he

/-- Nobody is heard where nothing happens. -/
theorem refl (w : World) : w.Unheard b s w := of_eq rfl rfl

/-- Silence adds up. -/
theorem trans (h : w.Unheard b s v) (h' : v.Unheard b s u) : w.Unheard b s u where
  lastError := h'.lastError.trans h.lastError
  readers := h'.readers.trans h.readers
  news hb := (h.news hb).trans (h'.news hb)

/-- A record that is no news goes unheard. -/
theorem emit (w : World) (s : Nat) {ε : Event} (h : ε.isNews = false) : w.Unheard b s (w.emit ε) :=
  ⟨rfl, rfl, fun _ ↦ w.records_emit_nil h⟩

/-- What supervisors say themselves goes unheard. -/
theorem say (w : World) (s : Nat) (ι : Level) (x : String) : w.Unheard b s (w.say ι x) :=
  emit w s rfl

/-- What a process does by itself goes unheard. -/
theorem onChild (w : World) (s q : Nat) (f : Child → Child) : w.Unheard b s (w.onChild q f) :=
  of_eq rfl rfl

/-- A supervisor that keeps its readers and its complaint has heard nothing. -/
theorem onSupervisor (w : World) (s t : Nat) {f : Supervisor → Supervisor}
    (hf : ∀ σ, (f σ).lastError = σ.lastError ∧ (f σ).readers = σ.readers) :
    w.Unheard b s (w.onSupervisor t f) := by
  refine ⟨?_, ?_, fun _ ↦ .of_eq rfl⟩
  all_goals
    rw [supervisor_onSupervisor]
    split
  · exact (hf _).1
  · rfl
  · exact (hf _).2
  · rfl

end Unheard

/-- A supervisor that hears nothing goes by what it has heard. -/
theorem Follows.still (h : w.Follows b s p o) (hv : w.Unheard b s v) : v.Follows b s p o :=
  h.next hv.hears (List.append_nil _).symm (fun _ hρ ↦ h.readers (hv.readers ▸ hρ))
    fun σ ↦ hv.readers ▸ h.reader? σ

/-- That the end of a process is passed on is no output. -/
theorem unheard_notice (w : World) (s q : Nat) (n : Int) : w.Unheard b s (w.notice q n) := by
  unfold notice
  dsimp only
  split
  · have h : w.Unheard b s (((w.onChild q ({ · with seen := some n })).onSupervisor (w.child q).owner
        ({ · with watches := none })).say .info (exitText n)) :=
      ((Unheard.onChild w s q _).trans (.onSupervisor _ s _ (f := ({ · with watches := none }))
        fun _ ↦ ⟨rfl, rfl⟩)).trans (.say ..)
    split
    · exact h.trans ((Unheard.say ..).trans
        (.onSupervisor _ s _ (f := ({ · with state := .stopped })) fun _ ↦ ⟨rfl, rfl⟩))
    · exact h
  · exact .refl w

/-! ## What comes through a stream -/

/-- What is heard after a piece of output is what was heard before, and the lines that the piece
completes unless its stream is silent. -/
theorem heard_lines_piece (o : Output) (σ : Stream) (β : Option (List UInt8)) :
    heard (o ++ Output.piece σ β).lines = heard o.lines ++
      if o.isSilent σ then [] else heard (o.linesAfter (Output.piece σ β)) := by
  rw [Output.lines_append, heard_append_of_stream fun _ ↦ Output.stream_of_mem_linesAfter_piece,
    Output.isSilent]
  cases hc : o.isClosed σ with
  | false => simp
  | true =>
    -- nothing is completed on a stream that has ended
    rw [Output.linesAfter_of_isClosed fun x hx ↦ Output.stream_of_mem_piece hx ▸ hc]
    simp [heard]

/-- A stream falls silent when it ends, or when a line on it is nested too deep. -/
theorem isSilent_append_piece (o : Output) (σ τ : Stream) (β : Option (List UInt8)) :
    (o ++ Output.piece σ β).isSilent τ = (o.isSilent τ || decide (τ = σ) &&
      (β.isNone || (o.linesAfter (Output.piece σ β)).any Line.isTooDeep)) := by
  have hout (h : (o.linesAfter (Output.piece σ β)).any Line.isTooDeep = true) : σ = .output := by
    obtain ⟨ℓ, hℓ, hd⟩ := List.any_eq_true.mp h
    exact (Output.stream_of_mem_linesAfter_piece hℓ).symm.trans (Line.stream_of_isTooDeep hd)
  rw [Output.isSilent, Output.isClosed_append, Output.isClosed_piece, Output.lines_append,
    List.any_append, Output.isSilent]
  generalize (o.linesAfter (Output.piece σ β)).any Line.isTooDeep = d at hout ⊢
  generalize o.lines.any Line.isTooDeep = a
  cases d with
  | false => cases σ <;> cases τ <;> cases o.isClosed _ <;> simp [Bool.or_comm]
  | true =>
    obtain rfl := hout rfl
    cases τ <;> cases o.isClosed _ <;> simp

/-- A piece of output leaves the buffer of the other stream alone. -/
theorem held_append_piece_of_ne (o : Output) (β : Option (List UInt8)) (h : τ ≠ σ) :
    (o ++ Output.piece σ β).held τ = o.held τ := by
  rw [Output.held, Output.unfinished_append_piece_of_ne _ _ h.symm, Output.held]

/-- Where the readers stand when something has come through a stream. -/
theorem find?_readers_piece {ρs : List Reader} (hρ : ∀ τ, ρs.find? (·.reads p τ) = o.reader? p τ)
    (τ : Stream) : (if o.isSilent σ then ρs
      else if β.isNone || (o.linesAfter (Output.piece σ β)).any Line.isTooDeep then
        ρs.filter (!·.reads p σ)
      else ρs.map fun ρ ↦
        if ρ.reads p σ then { ρ with buffer := (o ++ Output.piece σ β).held σ } else ρ).find?
      (·.reads p τ) = (o ++ Output.piece σ β).reader? p τ := by
  have hρ := hρ τ
  rw [Output.reader?] at hρ ⊢
  rw [isSilent_append_piece]
  generalize (β.isNone || (o.linesAfter (.piece σ β)).any Line.isTooDeep) = d
  by_cases hτ : τ = σ
  · subst hτ
    by_cases hc : o.isSilent τ = true
    · rw [if_pos hc, hρ]
      simp [hc]
    · rw [if_neg hc] at hρ ⊢
      cases d with
      | true =>
        rw [if_pos rfl, find?_filter_reads]
        simp
      | false =>
        rw [if_neg Bool.false_ne_true, find?_map_reads, if_pos rfl, hρ]
        simp [hc]
  · -- another stream is read as before
    have hs : (o.isSilent τ || decide (τ = σ) && d) = o.isSilent τ := by simp [hτ]
    rw [hs, held_append_piece_of_ne o β hτ]
    split
    · exact hρ
    · split
      · rw [find?_filter_reads, if_neg hτ, hρ]
      · rw [find?_map_reads, if_neg hτ, hρ]

/-- What comes through a stream is heard by its reader, if there still is one, and the reader goes
on unless that is the end of the stream or a line is nested too deep. -/
theorem deliver_of_reader (hs : s < w.supervisors.length) (ho : (w.child p).owner = s)
    (hρ : (w.supervisor s).readers.find? (·.reads p σ) = o.reader? p σ)
    (hl : (o ++ Output.piece σ β).IsShortLined) :
    w.Hears b s (w.deliver p σ β)
        (if o.isSilent σ then [] else heard (o.linesAfter (Output.piece σ β))) ∧
      ((w.deliver p σ β).supervisor s).readers =
        if o.isSilent σ then (w.supervisor s).readers
        else if β.isNone || (o.linesAfter (Output.piece σ β)).any Line.isTooDeep then
          (w.supervisor s).readers.filter (!·.reads p σ)
        else (w.supervisor s).readers.map fun ρ ↦
          if ρ.reads p σ then { ρ with buffer := (o ++ Output.piece σ β).held σ } else ρ := by
  cases β with
  | some bs => exact receive_of_reader hs ho hρ hl
  | none =>
    obtain ⟨hh, hr⟩ := closeStream_of_reader (b := b) hs ho hρ
    change w.Hears b s (w.closeStream p σ) _ ∧ ((w.closeStream p σ).supervisor s).readers = _
    rw [hr]
    by_cases hc : o.isSilent σ = true
    · -- whoever does not read the stream any more is not among the readers
      rw [Output.reader?, if_pos hc] at hρ
      rw [if_pos hc] at hh ⊢
      rw [if_pos hc]
      refine ⟨hh, List.filter_eq_self.mpr fun ρ hm ↦ ?_⟩
      simpa using List.find?_eq_none.mp hρ ρ hm
    · have hclosed : o.isClosed σ = false := by
        rw [Output.isSilent, Bool.or_eq_true, not_or] at hc
        simpa using hc.1
      rw [if_neg hc] at hh ⊢
      rw [if_neg hc, Output.linesAfter_piece_none hclosed, heard_tail]
      exact ⟨hh, rfl⟩

/-- What comes through a stream is heard. -/
theorem Follows.deliver (h : w.Follows b s p o) (hs : s < w.supervisors.length)
    (ho : (w.child p).owner = s) (hl : (o ++ Output.piece σ β).IsShortLined) :
    (w.deliver p σ β).Follows b s p (o ++ Output.piece σ β) := by
  obtain ⟨hh, hr⟩ := deliver_of_reader (b := b) hs ho (h.reader? σ) hl
  refine h.next hh (heard_lines_piece ..) (fun ρ hρ ↦ ?_) fun τ ↦ ?_
  · rw [hr] at hρ
    split at hρ
    · exact h.readers hρ
    · split at hρ
      · exact h.readers (List.mem_of_mem_filter hρ)
      · obtain ⟨ρ', hρ', rfl⟩ := List.mem_map.mp hρ
        have hq := h.readers hρ'
        split <;> exact hq
  · rw [hr]
    exact find?_readers_piece h.reader? τ

/-! ## The end of a process -/

/-- Whatever becomes of a process, its owner stays the same. -/
theorem owner_onChild (w : World) (q : Nat) {f : Child → Child} (hf : ∀ χ, (f χ).owner = χ.owner)
    (p : Nat) : ((w.onChild q f).child p).owner = (w.child p).owner := by
  rw [child_onChild]
  split
  · exact hf _
  · rfl

/-- The process `q` has ended, which nobody has noticed. -/
def ended (w : World) (q : Nat) (n : Int) : World :=
  (w.onChild q (·.finish n w.now)).emit (.exit n)

/-- The owner of a process that has ended stays the same. -/
theorem owner_ended (w : World) (q : Nat) (n : Int) (p : Nat) :
    ((w.ended q n).child p).owner = (w.child p).owner :=
  w.owner_onChild q (fun χ ↦ χ.owner_finish n w.now) p

/-- The mere end of a process goes unheard. -/
theorem unheard_ended (w : World) (s q : Nat) (n : Int) : w.Unheard b s (w.ended q n) :=
  (Unheard.onChild w s q _).trans (.emit _ s rfl)

/-- A process ends, then its streams do unless something holds them, and then its end is noticed. -/
theorem exit_eq (w : World) (q : Nat) (n : Int) : w.exit q n =
    (if (w.child q).behaviour.holdsPipes then w.ended q n
      else ((w.ended q n).deliver q .output none).deliver q .errors none).notice q n := by
  have hβ : ((w.ended q n).child q).behaviour = (w.child q).behaviour := by
    change ((w.onChild q _).child q).behaviour = _
    rw [child_onChild]
    split <;> rfl
  rw [← hβ]
  rfl

/-- That a stream ends does not make lines longer. -/
theorem isShortLined_append_none (h : o.IsShortLined) (σ : Stream) :
    (o ++ Output.piece σ none).IsShortLined := by
  intro τ bs hbs
  have hn : (Output.piece σ none).on τ = [] := by
    rw [Output.on, Output.piece]
    cases hd : decide (σ = τ) <;> simp [hd]
  rw [Output.on_append, hn, List.append_nil] at hbs
  exact h τ bs hbs

/-- With its end a process completes what is left on its streams, unless something else keeps them
open. -/
theorem Follows.exit (h : w.Follows b s p o) (hs : s < w.supervisors.length)
    (ho : (w.child p).owner = s) (hl : o.IsShortLined) (n : Int) :
    (w.exit p n).Follows b s p (o ++
      if (w.child p).behaviour.holdsPipes then []
      else Output.piece .output none ++ Output.piece .errors none) := by
  have hw : (w.ended p n).Follows b s p o := h.still (unheard_ended ..)
  have ho₀ : ((w.ended p n).child p).owner = s := (w.owner_ended p n p).trans ho
  rw [exit_eq]
  split
  · rw [List.append_nil]
    exact hw.still (unheard_notice ..)
  · rw [← List.append_assoc]
    have hl₁ := isShortLined_append_none hl .output
    have h₁ := hw.deliver hs ho₀ hl₁
    have ha := alike_deliver (s := s) (w.ended p n) p .output none
    have h₂ := h₁.deliver (ha.supervisors ▸ hs) ((ha.owner p).trans ho₀)
      (isShortLined_append_none hl₁ .errors)
    exact h₂.still (unheard_notice ..)

/-! ## Acts -/

/-- What becomes of the process that acts when something comes through one of its streams. -/
theorem child_act_of_write (hp : p < w.children.length) {t : Time}
    (hn : (w.child p).nextAct? = some (t, .write σ β)) : (w.act p).child p = (w.child p).flush := by
  rw [act, hn]
  dsimp only
  rw [World.child, children_deliver, ← World.child, child_onChild, if_pos ⟨rfl, hp⟩]

/-- What becomes of a process that ends. -/
theorem child_act_of_exit (hp : p < w.children.length) {t : Time} {n : Int}
    (hn : (w.child p).nextAct? = some (t, .exit n)) :
    ∃ o, (w.act p).child p = { (w.child p).finish n w.now with seen := o } := by
  obtain ⟨_, _, _, hn', -⟩ | ⟨_, m, hn', ⟨-, hc⟩ | ⟨-, hc⟩⟩ | ⟨hn', -⟩ := w.children_act p
  · cases hn.symm.trans hn'
  · cases hn.symm.trans hn'
    exact ⟨_, by rw [child_of_children hc, if_pos ⟨rfl, hp⟩]⟩
  · cases hn.symm.trans hn'
    exact ⟨_, by rw [child_of_children hc, if_pos ⟨rfl, hp⟩]⟩
  · cases hn.symm.trans hn'

/-- By an act more may have come through the streams of a process, and nothing else has. -/
theorem isAhead_act (h : (w.child p).IsAhead) (hp : p < w.children.length) (q : Nat) :
    ((w.act q).child p).IsAhead ∧
      ∃ u, ((w.act q).child p).written = (w.child p).written ++ u := by
  by_cases hq : q = p
  · subst hq
    cases hn : (w.child q).nextAct? with
    | none =>
      rw [act, hn]
      exact ⟨h, [], (List.append_nil _).symm⟩
    | some a =>
      obtain ⟨t, ⟨σ, β⟩ | n⟩ := a
      · rw [child_act_of_write hp hn]
        exact ⟨(h.flush hn).1, _, (h.flush hn).2⟩
      · obtain ⟨o, ho⟩ := child_act_of_exit hp hn
        have hf := h.finish (isAlive_of_exit hn) n w.now o
        rw [ho]
        exact ⟨hf.1, _, hf.2⟩
  · rw [w.child_act_of_ne hq]
    exact ⟨h, [], (List.append_nil _).symm⟩

/-- A supervisor hears what comes through the streams of its process when that acts. -/
theorem Follows.act_self (h : w.Follows b s p (w.child p).written) (ha : (w.child p).IsAhead)
    (ho : w.InOrder s) (hp : (w.supervisor s).child = some p)
    (hl : ((w.act p).child p).written.IsShortLined) :
    (w.act p).Follows b s p ((w.act p).child p).written := by
  have hc := ho.launched hp
  cases hn : (w.child p).nextAct? with
  | none => rwa [act, hn]
  | some a =>
    obtain ⟨t, ⟨σ, β⟩ | n⟩ := a
    · rw [child_act_of_write hc hn, (ha.flush hn).2] at hl ⊢
      rw [act, hn]
      exact (h.still (Unheard.onChild w s p _)).deliver ho.known
        ((w.owner_onChild p owner_flush p).trans (ho.owner hp)) hl
    · obtain ⟨o, hχ⟩ := child_act_of_exit hc hn
      rw [hχ, (ha.finish (isAlive_of_exit hn) n w.now o).2] at hl ⊢
      rw [act, hn]
      exact h.exit ho.known (ho.owner hp) hl.of_append n

/-! Other processes -/

/-- Other supervisors do not change with one. -/
theorem supervisor_onSupervisor_of_ne (w : World) (ht : t ≠ s) (f : Supervisor → Supervisor) :
    (w.onSupervisor t f).supervisor s = w.supervisor s := by
  rw [supervisor_onSupervisor, if_neg fun h ↦ ht h.1]

/-- Other supervisors do not change when one reads lines. -/
theorem supervisor_readLines_of_ne (w : World) (ht : t ≠ s) (σ : Stream) (ls : List (List UInt8)) :
    (w.readLines t σ ls).1.supervisor s = w.supervisor s := by
  have hm : ls = (ls.map (Line.mk σ)).map Line.bytes := by simp [Function.comp_def]
  rw [hm, readLines_eq w t fun ℓ hℓ ↦ by obtain ⟨_, -, rfl⟩ := List.mem_map.mp hℓ; rfl]
  exact supervisor_onSupervisor_of_ne _ ht _

/-- Other supervisors do not change when a stream ends. -/
theorem supervisor_closeStream_of_ne (w : World) (hq : (w.child q).owner ≠ s) (σ : Stream) :
    (w.closeStream q σ).supervisor s = w.supervisor s := by
  unfold closeStream
  split
  · rfl
  next ρ _ =>
    rw [dropReader, supervisor_onSupervisor_of_ne, supervisor_readLines_of_ne w hq]
    rwa [World.child, children_readLines]

/-- Other supervisors do not change when one gets output. -/
theorem supervisor_receive_of_ne (w : World) (hq : (w.child q).owner ≠ s) (σ : Stream)
    (bs : List UInt8) : (w.receive q σ bs).supervisor s = w.supervisor s := by
  unfold receive
  dsimp only
  split
  · rfl
  next ρ _ =>
    have hr := supervisor_readLines_of_ne w hq σ (ρ.buffer.feed bs).lines
    have hc := w.children_readLines (w.child q).owner σ (ρ.buffer.feed bs).lines
    split
    next v β hv _ =>
      rw [hv] at hr
      rw [supervisor_onSupervisor_of_ne _ hq, hr]
    next v _ _ hv _ =>
      rw [hv] at hr hc
      rw [dropReader, supervisor_onSupervisor_of_ne, hr]
      rwa [World.child, hc]

/-- Other supervisors do not change when something comes through a stream. -/
theorem supervisor_deliver_of_ne (w : World) (hq : (w.child q).owner ≠ s) (σ : Stream)
    (β : Option (List UInt8)) : (w.deliver q σ β).supervisor s = w.supervisor s := by
  cases β with
  | some bs => exact supervisor_receive_of_ne w hq σ bs
  | none => exact supervisor_closeStream_of_ne w hq σ

/-- What another supervisor hears does not count unless nobody else is to hear anything. -/
theorem unheard_act_of_ne (w : World) (hq : (w.child q).owner ≠ s) (hb : ¬ b) :
    w.Unheard b s (w.act q) := by
  have hu {v u : World} (hs : u.supervisor s = v.supervisor s) : v.Unheard b s u :=
    ⟨by rw [hs], by rw [hs], fun h ↦ absurd h hb⟩
  unfold act
  split
  next t σ β _ =>
    have ho : ((w.onChild q (·.flush)).child q).owner ≠ s := by
      rwa [owner_onChild _ _ owner_flush]
    exact (Unheard.onChild w s q _).trans (hu (supervisor_deliver_of_ne _ ho σ β))
  next t n _ =>
    have hw : w.Unheard b s (w.ended q n) := unheard_ended ..
    have ho : ((w.ended q n).child q).owner ≠ s := by rwa [owner_ended]
    have ho' : (((w.ended q n).deliver q .output none).child q).owner ≠ s := by
      rwa [World.child, children_deliver]
    rw [exit_eq]
    split
    · exact hw.trans (unheard_notice ..)
    · exact ((hw.trans (hu (supervisor_deliver_of_ne _ ho .output none))).trans
        (hu (supervisor_deliver_of_ne _ ho' .errors none))).trans (unheard_notice ..)
  · exact .refl w

/-- Without a reader nothing comes of what comes through a stream. -/
theorem deliver_of_reader?_eq_none (h : w.reader? q σ = none) (β : Option (List UInt8)) :
    w.deliver q σ β = w := by
  cases β with
  | some bs => rw [deliver, receive, h]
  | none => rw [deliver, closeStream, h]

/-- A process that nobody reads is not heard. -/
theorem unheard_act_of_reader? (w : World) (s : Nat) (hq : ∀ σ, w.reader? q σ = none) :
    w.Unheard b s (w.act q) := by
  unfold act
  split
  next t σ β hn =>
    have hr : (w.onChild q (·.flush)).reader? q σ = none := by
      rw [World.reader?, owner_onChild _ _ owner_flush]
      exact hq σ
    rw [deliver_of_reader?_eq_none hr]
    exact .onChild ..
  next t n hn =>
    have hr (σ : Stream) : (w.ended q n).deliver q σ none = w.ended q n := by
      refine deliver_of_reader?_eq_none ?_ none
      rw [World.reader?, owner_ended]
      exact hq σ
    rw [exit_eq, hr, hr, ite_self]
    exact (unheard_ended ..).trans (unheard_notice ..)
  · exact .refl w

/-- Of a process that it does not hold a supervisor hears nothing. -/
theorem Follows.act_of_ne (h : w.Follows b s p o) (hq : q ≠ p)
    (hb : b → ∀ t, t ≠ s → (w.supervisor t).readers = []) : (w.act q).Follows b s p o := by
  by_cases hn : (w.child q).owner ≠ s ∧ ¬ b
  · exact h.still (w.unheard_act_of_ne hn.1 hn.2)
  · -- whoever launched it does not read it: it is not the one held, or nobody else reads
    refine h.still (w.unheard_act_of_reader? s fun σ ↦ ?_)
    rw [World.reader?, List.find?_eq_none]
    intro ρ hρ hr
    by_cases ho : (w.child q).owner = s
    · rw [ho] at hρ
      simp only [Reader.reads, Bool.and_eq_true, decide_eq_true_eq] at hr
      exact hq (hr.1.symm.trans (h.readers hρ))
    · rw [hb (by_contra fun hb ↦ hn ⟨ho, hb⟩) _ ho] at hρ
      cases hρ

/-- Whoever acts: a supervisor hears what comes through the streams of its process. -/
theorem Follows.act (h : w.Follows b s p (w.child p).written) (ha : (w.child p).IsAhead)
    (ho : w.InOrder s) (hp : (w.supervisor s).child = some p)
    (hb : b → ∀ t, t ≠ s → (w.supervisor t).readers = []) (q : Nat)
    (hl : ((w.act q).child p).written.IsShortLined) :
    (w.act q).Follows b s p ((w.act q).child p).written := by
  by_cases hq : q = p
  · subst hq
    exact h.act_self ha ho hp hl
  · rw [w.child_act_of_ne hq]
    exact h.act_of_ne hq hb

end World

end Proxy

end Sluice
