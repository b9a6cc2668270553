import Mathlib.Data.List.Basic
import Mathlib.Data.List.Induction
import Sluice.Server.Lifetime

/-!
# A server leaves by one path

The serving may end, fail or be told to stop, signals and stray faults may come at any time and as
often as they like: once anything has happened for which a server leaves, it calls for one shutdown
after the serving has ended, and leaves with a code that tells whether the serving failed first and
whether all was closed in time.
-/

namespace Sluice.Server

open List

variable {σ : Terms} {ℓ : Life} {ms : List Mark} {m : Mark}

/-! ## What the marks of a life tell -/

/-- The seconds of grace, where a mark is the call for a shutdown. -/
def Mark.grace? : Mark → Option Value
  | .shutdown g => some g
  | _ => none

/-- The shutdowns that have been called for, each by its seconds of grace. -/
def calls (ms : List Mark) : List Value := ms.filterMap Mark.grace?

/-- The serving failed, and no request to stop had been noticed. -/
def FailsFirst (ms : List Mark) : Prop :=
  ∃ φ before after, ms = before ++ .ended (some φ) :: after ∧ .noticed ∉ before

/-- Before each call for a shutdown the serving had ended. -/
def CallsLate (ms : List Mark) : Prop :=
  ∀ before g after, ms = before ++ .shutdown g :: after → ∃ φ, .ended φ ∈ before

/-- What marks amount to, one after the other. -/
structure Digest where
  hasEnded : Bool := false
  isNoticed : Bool := false
  failsFirst : Bool := false
  calls : List Value := []
  answers : List (Except Fault Bool) := []

def Digest.add (ρ : Digest) : Mark → Digest
  | .ended φ =>
    { ρ with hasEnded := true, failsFirst := ρ.failsFirst || (φ.isSome && !ρ.isNoticed) }
  | .noticed => { ρ with isNoticed := true }
  | .shutdown g => { ρ with calls := ρ.calls ++ [g] }
  | .answered r => { ρ with answers := ρ.answers ++ [r] }
  | .begun | .befell _ | .failed _ => ρ

def digest (ms : List Mark) : Digest := ms.foldl Digest.add {}

/-- Marks are digested one by one. -/
@[simp] theorem digest_concat : digest (ms ++ [m]) = (digest ms).add m := by
  simp [digest]

/-- Where a list with one more element begins anew, it does so there or within the list. -/
theorem concat_eq_append_cons {α : Type} {as before after : List α} {a b : α} :
    as ++ [a] = before ++ b :: after ↔
      (after = [] ∧ as = before ∧ a = b) ∨
        ∃ rest, after = rest ++ [a] ∧ as = before ++ b :: rest := by
  constructor
  · intro h
    rcases eq_nil_or_concat' after with rfl | ⟨rest, c, rfl⟩
    · obtain ⟨hs, ha⟩ := append_inj' h rfl
      exact .inl ⟨rfl, hs, (cons.inj ha).1⟩
    · have h' : as ++ [a] = (before ++ b :: rest) ++ [c] := by simpa using h
      obtain ⟨hs, ha⟩ := append_inj' h' rfl
      exact .inr ⟨rest, by rw [(cons.inj ha).1], hs⟩
  · rintro (⟨rfl, rfl, rfl⟩ | ⟨rest, rfl, rfl⟩)
    · rfl
    · simp

/-- The serving fails first at a mark that says so, if no request to stop was noticed before. -/
theorem failsFirst_concat : FailsFirst (ms ++ [m]) ↔
    FailsFirst ms ∨ (∃ φ, m = .ended (some φ)) ∧ .noticed ∉ ms := by
  constructor
  · rintro ⟨φ, before, after, h, hn⟩
    rcases concat_eq_append_cons.1 h with ⟨-, rfl, rfl⟩ | ⟨rest, -, rfl⟩
    · exact .inr ⟨⟨φ, rfl⟩, hn⟩
    · exact .inl ⟨φ, before, rest, rfl, hn⟩
  · rintro (⟨φ, before, after, rfl, hn⟩ | ⟨⟨φ, rfl⟩, hn⟩)
    · exact ⟨φ, before, after ++ [m], by simp, hn⟩
    · exact ⟨φ, ms, [], rfl, hn⟩

/-- A call for a shutdown is late if the serving has ended before. -/
theorem CallsLate.concat (h : CallsLate ms) (hm : ∀ g, m = .shutdown g → ∃ φ, .ended φ ∈ ms) :
    CallsLate (ms ++ [m]) := by
  intro before g after hms
  rcases concat_eq_append_cons.1 hms with ⟨-, rfl, rfl⟩ | ⟨rest, -, rfl⟩
  · exact hm g rfl
  · exact h before g rest rfl

/-- The digest knows whether the serving has ended. -/
theorem hasEnded_digest : (digest ms).hasEnded = true ↔ ∃ φ, .ended φ ∈ ms := by
  induction ms using reverseRecOn with
  | nil => simp [digest]
  | append_singleton ms m ih =>
    rw [digest_concat]
    cases m <;> simp [Digest.add, ih]

/-- The digest knows whether a request to stop was noticed. -/
theorem isNoticed_digest : (digest ms).isNoticed = true ↔ .noticed ∈ ms := by
  induction ms using reverseRecOn with
  | nil => simp [digest]
  | append_singleton ms m ih =>
    rw [digest_concat]
    cases m <;> simp [Digest.add, ih]

/-- The digest knows whether the serving failed first. -/
theorem failsFirst_digest : (digest ms).failsFirst = true ↔ FailsFirst ms := by
  induction ms using reverseRecOn with
  | nil => simp [digest, FailsFirst]
  | append_singleton ms m ih =>
    rw [digest_concat, failsFirst_concat, ← ih, ← isNoticed_digest]
    cases m with
    | ended φ => cases φ <;> simp [Digest.add]
    | _ => simp [Digest.add]

/-- The digest knows the calls for a shutdown. -/
theorem calls_digest : (digest ms).calls = calls ms := by
  induction ms using reverseRecOn with
  | nil => rfl
  | append_singleton ms m ih =>
    rw [digest_concat, calls, filterMap_append, ← calls, ← ih]
    cases m <;> simp [Digest.add, Mark.grace?]

/-- The digest knows the answers to calls for a shutdown. -/
theorem mem_answers_digest {r : Except Fault Bool} :
    r ∈ (digest ms).answers ↔ .answered r ∈ ms := by
  induction ms using reverseRecOn with
  | nil => simp [digest]
  | append_singleton ms m ih =>
    rw [digest_concat]
    cases m <;> simp [Digest.add, ih]

/-! ## Where a server can stand -/

/-- What a server waits for, where its tasks stand and what has happened go together. -/
inductive Possible (σ : Terms) : Point → Serving → Watch → Digest → Prop
  | watching {w : Watch} (h : w ≠ .dismissed) : Possible σ .watching .going w {}
  | served {w : Watch} {φ : Option Fault} (h : w ≠ .dismissed)
      (hφ : ∀ ψ, φ = some ψ → ψ.kind ≠ .cancelled) :
      Possible σ .watching (.ended φ) w { hasEnded := true, failsFirst := φ.isSome }
  | parting : Possible σ .parting .leaving .gone { isNoticed := true }
  | parted {φ : Option Fault} :
      Possible σ .parting (.ended φ) .gone { isNoticed := true, hasEnded := true }
  | tidying {w : Watch} {φ : Option Fault} {n b : Bool} (h : w ≠ .waiting) :
      Possible σ (.tidying b) (.ended φ) w ⟨true, n, b, [], []⟩
  | closing {w : Watch} {φ : Option Fault} {n b : Bool} :
      Possible σ (.closing b) (.ended φ) w ⟨true, n, b, [σ.grace], []⟩
  | left {w : Watch} {φ : Option Fault} {n b c : Bool} :
      Possible σ (.left (if b || !c then 1 else 0)) (.ended φ) w ⟨true, n, b, [σ.grace], [.ok c]⟩
  | raised {w : Watch} {φ : Option Fault} {n b : Bool} {ψ : Fault} :
      Possible σ (.raised ψ) (.ended φ) w ⟨true, n, b, [σ.grace], [.error ψ]⟩

/-- A server stands where it can stand. -/
def IsPlaced (σ : Terms) (ℓ : Life) : Prop :=
  Possible σ ℓ.point ℓ.serving ℓ.watch (digest ℓ.marks)

/-- The serving does not give up of itself. -/
def Life.Move.IsOrdinary : Life.Move → Prop
  | .fall (some φ) => φ.kind ≠ .cancelled
  | _ => True

/-- A server that goes on stands where it can stand. -/
theorem isPlaced_goOn (h : IsPlaced σ ℓ) : IsPlaced σ (σ.goOn ℓ) := by
  obtain ⟨s, a, w, p, ms⟩ := ℓ
  simp only [IsPlaced] at h ⊢
  generalize hρ : digest ms = ρ at h
  cases h with
  | watching hw =>
    by_cases hgone : w = .gone
    · subst hgone
      simpa [Terms.goOn, Life.note, hρ, Digest.add] using Possible.parting
    · simpa [Terms.goOn, hgone, hρ] using Possible.watching hw
  | @served w φ hw hφ =>
    have hd : w.dismiss ≠ .waiting := by cases w <;> simp [Watch.dismiss]
    cases φ with
    | none => simpa [Terms.goOn, Life.tidy, hρ] using Possible.tidying hd
    | some φ =>
      simpa [Terms.goOn, Life.note, Life.tidy, hφ φ rfl, hρ, Digest.add] using Possible.tidying hd
  | parting => simpa [Terms.goOn, hρ] using Possible.parting
  | @parted φ =>
    have hd : Watch.gone.dismiss ≠ .waiting := by simp [Watch.dismiss]
    simpa [Terms.goOn, Life.tidy, hρ] using Possible.tidying hd
  | @tidying w φ n b hw =>
    by_cases hgone : w = .gone
    · simpa [Terms.goOn, Life.note, hgone, hρ, Digest.add] using Possible.closing
    · simpa [Terms.goOn, hgone, hρ] using Possible.tidying hw
  | closing => simpa [Terms.goOn, hρ] using Possible.closing
  | left => simpa only [Terms.goOn, hρ] using Possible.left
  | raised => simpa [Terms.goOn, hρ] using Possible.raised

/-- A watch may be gone wherever a server stands. -/
theorem Possible.ring {p : Point} {s : Serving} {w : Watch} {ρ : Digest} (h : Possible σ p s w ρ) :
    Possible σ p s .gone ρ := by
  cases h with
  | watching => exact .watching nofun
  | served _ hφ => exact .served nofun hφ
  | parting => exact .parting
  | parted => exact .parted
  | tidying => exact .tidying nofun
  | closing => exact .closing
  | left => exact .left
  | raised => exact .raised

/-- A server that is answered stands where it can stand. -/
theorem isPlaced_answer (h : IsPlaced σ ℓ) (r : Except Fault Bool) :
    IsPlaced σ (σ.act ℓ (.answer r)) := by
  obtain ⟨s, a, w, p, ms⟩ := ℓ
  simp only [IsPlaced] at h ⊢
  generalize hρ : digest ms = ρ at h
  cases h with
  | watching hw => simpa [Terms.act, hρ] using Possible.watching hw
  | served hw hφ => simpa [Terms.act, hρ] using Possible.served hw hφ
  | parting => simpa [Terms.act, hρ] using Possible.parting
  | parted => simpa [Terms.act, hρ] using Possible.parted
  | tidying hw => simpa [Terms.act, hρ] using Possible.tidying hw
  | closing =>
    cases r with
    | ok c =>
      simp only [Terms.act, Life.note, digest_concat, hρ]
      exact .left
    | error φ => simpa [Terms.act, Life.note, hρ, Digest.add] using Possible.raised
  | left => simpa only [Terms.act, hρ] using Possible.left
  | raised => simpa [Terms.act, hρ] using Possible.raised

/-- What one move preserves. -/
theorem isPlaced_act (h : IsPlaced σ ℓ) {μ : Life.Move} (hμ : μ.IsOrdinary) :
    IsPlaced σ (σ.act ℓ μ) := by
  cases μ with
  | befall ι =>
    rw [Terms.act]
    split
    · exact h
    · simpa [IsPlaced, Life.note, Digest.add] using h
  | fall φ =>
    rw [Terms.act]
    split
    · next hs =>
      simp only [IsPlaced, hs, Life.note, digest_concat] at h ⊢
      generalize digest ℓ.marks = ρ at h
      generalize ℓ.point = p, ℓ.watch = w at h
      cases h with
      | watching hw =>
        have hφ : ∀ ψ, φ = some ψ → ψ.kind ≠ .cancelled := by
          rintro ψ rfl
          exact hμ
        simpa [Digest.add] using Possible.served hw hφ
    · exact h
  | part φ =>
    rw [Terms.act]
    split
    · next hs =>
      simp only [IsPlaced, hs, Life.note, digest_concat] at h ⊢
      generalize digest ℓ.marks = ρ at h
      generalize ℓ.point = p, ℓ.watch = w at h
      cases h with
      | parting => simpa [Digest.add] using Possible.parted
    · exact h
  | ring =>
    rw [Terms.act]
    split
    · exact h.ring
    · exact h
  | go => exact isPlaced_goOn h
  | answer r => exact isPlaced_answer h r

/-! ## What a move leaves behind -/

/-- A server that goes on makes one mark at most, and calls for a shutdown only while it tidies up.
-/
theorem marks_goOn (σ : Terms) (ℓ : Life) : (σ.goOn ℓ).marks = ℓ.marks ∨
    ∃ m, (σ.goOn ℓ).marks = ℓ.marks ++ [m] ∧ (∀ ι, m ≠ .befell ι) ∧
      ∀ g, m = .shutdown g → ∃ b, ℓ.point = .tidying b := by
  unfold Terms.goOn
  split <;> try split
  all_goals simp_all [Life.note, Life.tidy]

/-- To go on asks for no stop. -/
@[simp] theorem isAsked_goOn (σ : Terms) (ℓ : Life) : (σ.goOn ℓ).isAsked = ℓ.isAsked := by
  unfold Terms.goOn
  split <;> try split
  all_goals rfl

/-- A move leaves one mark at most.  A call for a shutdown is left at the end only, and an incident
that asks to stop is heard. -/
theorem marks_act (σ : Terms) (ℓ : Life) (μ : Life.Move) : (σ.act ℓ μ).marks = ℓ.marks ∨
    ∃ m, (σ.act ℓ μ).marks = ℓ.marks ++ [m] ∧
      (∀ ι, m = .befell ι → σ.asksToStop ι = true → (σ.act ℓ μ).isAsked = true) ∧
      ∀ g, m = .shutdown g → ∃ b, ℓ.point = .tidying b := by
  cases μ with
  | befall ι =>
    simp only [Terms.act]
    split
    · exact .inl rfl
    · refine .inr ⟨.befell ι, rfl, ?_, nofun⟩
      rintro κ h ha
      cases h
      simp [ha]
  | fall φ | part φ =>
    simp only [Terms.act]
    split
    · exact .inr ⟨.ended φ, rfl, nofun, nofun⟩
    · exact .inl rfl
  | ring =>
    simp only [Terms.act]
    split <;> exact .inl rfl
  | go =>
    rcases marks_goOn σ ℓ with h | ⟨m, h, hι, hg⟩
    · exact .inl h
    · exact .inr ⟨m, h, fun ι hm ↦ absurd hm (hι ι), hg⟩
  | answer r =>
    simp only [Terms.act]
    split
    · exact .inr ⟨.answered _, rfl, nofun, nofun⟩
    · exact .inr ⟨.answered _, rfl, nofun, nofun⟩
    · exact .inl rfl

/-- A request to stop is not taken back. -/
theorem isAsked_act (h : ℓ.isAsked = true) (μ : Life.Move) : (σ.act ℓ μ).isAsked = true := by
  cases μ with
  | go => rwa [Terms.act, isAsked_goOn]
  | _ =>
    simp only [Terms.act]
    split <;> simp [Life.note, h]

/-- Whatever happens, shutdowns are called for when the serving has ended. -/
theorem callsLate_act (h : IsPlaced σ ℓ) (hl : CallsLate ℓ.marks) (μ : Life.Move) :
    CallsLate (σ.act ℓ μ).marks := by
  rcases marks_act σ ℓ μ with hm | ⟨m, hm, -, hs⟩
  · rwa [hm]
  · rw [hm]
    refine hl.concat fun g hg ↦ ?_
    obtain ⟨b, hb⟩ := hs g hg
    rw [← hasEnded_digest]
    rw [IsPlaced, hb] at h
    generalize digest ℓ.marks = ρ at h ⊢
    generalize ℓ.serving = s at h
    cases h
    rfl

/-- An incident that asks to stop is heard. -/
def HearsAll (σ : Terms) (ℓ : Life) : Prop :=
  ∀ ι, .befell ι ∈ ℓ.marks → σ.asksToStop ι = true → ℓ.isAsked = true

/-- Whatever happens, incidents that ask to stop are heard. -/
theorem hearsAll_act (h : HearsAll σ ℓ) (μ : Life.Move) : HearsAll σ (σ.act ℓ μ) := by
  intro ι hι ha
  rcases marks_act σ ℓ μ with hm | ⟨m, hm, hb, -⟩
  · rw [hm] at hι
    exact isAsked_act (h ι hι ha) μ
  · rw [hm] at hι
    rcases mem_append.1 hι with hι | hι
    · exact isAsked_act (h ι hι ha) μ
    · exact hb ι (mem_singleton.1 hι).symm ha

/-! ## How far a life can go -/

def Point.toGo : Point → Nat
  | watching => 4
  | parting => 3
  | tidying _ => 2
  | closing _ => 1
  | left _ | raised _ => 0

def Serving.toGo : Serving → Nat
  | ended _ => 0
  | _ => 1

def Watch.toGo : Watch → Nat
  | gone => 0
  | _ => 1

/-- A bound on the moves to come that change something, incidents aside. -/
def Life.toGo (ℓ : Life) : Nat := ℓ.point.toGo + ℓ.serving.toGo + ℓ.watch.toGo

@[simp] theorem Watch.toGo_dismiss (w : Watch) : w.dismiss.toGo = w.toGo := by cases w <;> rfl

/-- A server that goes on comes closer to its end, unless it has nothing to do. -/
theorem toGo_goOn (σ : Terms) (ℓ : Life) : σ.goOn ℓ = ℓ ∨ (σ.goOn ℓ).toGo < ℓ.toGo := by
  obtain ⟨s, a, w, p, ms⟩ := ℓ
  cases p with
  | watching =>
    cases s with
    | ended φ =>
      cases φ with
      | none => exact .inr (by simp [Terms.goOn, Life.tidy, Life.toGo, Point.toGo])
      | some φ =>
        by_cases hφ : φ.kind = .cancelled
        · exact .inr (by simp [Terms.goOn, hφ, Life.toGo, Point.toGo])
        · exact .inr (by simp [Terms.goOn, hφ, Life.note, Life.tidy, Life.toGo, Point.toGo])
    | going | leaving =>
      by_cases hw : w = .gone
      · exact .inr (by simp [Terms.goOn, hw, Life.note, Life.toGo, Point.toGo, Serving.toGo])
      · exact .inl (by simp [Terms.goOn, hw])
  | parting =>
    cases s with
    | ended φ => exact .inr (by simp [Terms.goOn, Life.tidy, Life.toGo, Point.toGo])
    | going | leaving => exact .inl rfl
  | tidying b =>
    by_cases hw : w = .gone
    · exact .inr (by simp [Terms.goOn, hw, Life.note, Life.toGo, Point.toGo])
    · exact .inl (by simp [Terms.goOn, hw])
  | closing | left | raised => exact .inl rfl

def Life.Move.isIncident : Life.Move → Bool
  | befall _ => true
  | _ => false

/-- What befalls a server brings it no closer to its end. -/
theorem toGo_befall (σ : Terms) (ℓ : Life) (ι : Incident) :
    (σ.act ℓ (.befall ι)).toGo = ℓ.toGo := by
  simp only [Terms.act]
  split <;> rfl

/-- Every other move brings a server closer to its end, or changes nothing. -/
theorem toGo_act (σ : Terms) (ℓ : Life) {μ : Life.Move} (hμ : μ.isIncident = false) :
    σ.act ℓ μ = ℓ ∨ (σ.act ℓ μ).toGo < ℓ.toGo := by
  cases μ with
  | befall ι => cases hμ
  | fall φ | part φ =>
    simp only [Terms.act]
    split
    · next hs => exact .inr (by simp [Life.toGo, Life.note, Serving.toGo, hs])
    · exact .inl rfl
  | ring =>
    simp only [Terms.act]
    split
    · next hw =>
      have hone : 0 < ℓ.watch.toGo := by
        cases h : ℓ.watch <;> simp_all [Watch.toGo]
      exact .inr (by simpa [Life.toGo, Watch.toGo] using hone)
    · exact .inl rfl
  | go => exact toGo_goOn σ ℓ
  | answer r =>
    simp only [Terms.act]
    split
    · next hp => exact .inr (by simp [Life.toGo, Life.note, Point.toGo, hp])
    · next hp => exact .inr (by simp [Life.toGo, Life.note, Point.toGo, hp])
    · exact .inl rfl

/-- How many moves change something, incidents aside. -/
def Terms.steps (σ : Terms) (ℓ : Life) : List Life.Move → Nat
  | [] => 0
  | μ :: μs => (if μ.isIncident || σ.act ℓ μ = ℓ then 0 else 1) + σ.steps (σ.act ℓ μ) μs

/-- A server makes no more moves that change something than it has before it. -/
theorem steps_add_toGo_le (σ : Terms) (ℓ : Life) (μs : List Life.Move) :
    σ.steps ℓ μs + (σ.run ℓ μs).toGo ≤ ℓ.toGo := by
  induction μs generalizing ℓ with
  | nil => simp [Terms.steps, Terms.run]
  | cons μ μs ih =>
    have hrest := ih (σ.act ℓ μ)
    rw [Terms.run, foldl_cons, ← Terms.run, Terms.steps]
    cases hμ : μ.isIncident with
    | true =>
      obtain ⟨ι, rfl⟩ : ∃ ι, μ = .befall ι := by cases μ <;> simp_all [Life.Move.isIncident]
      rw [toGo_befall] at hrest
      simpa using hrest
    | false =>
      rcases toGo_act σ ℓ hμ with h | h
      · rw [h] at hrest ⊢
        simpa using hrest
      · split <;> omega

/-! ## Runs -/

/-- What holds of a life all the time. -/
structure Sound (σ : Terms) (ℓ : Life) : Prop where
  placed : IsPlaced σ ℓ
  late : CallsLate ℓ.marks
  hears : HearsAll σ ℓ

/-- What is sound holds at the beginning. -/
theorem sound_start : Sound σ {} where
  placed := .watching nofun
  late := by
    intro before g after h
    have hmem : .shutdown g ∈ ({} : Life).marks := h ▸ mem_append_right _ mem_cons_self
    simp at hmem
  hears := by
    intro ι hι
    simp at hι

/-- Every ordinary move keeps what is sound. -/
theorem Sound.act (h : Sound σ ℓ) {μ : Life.Move} (hμ : μ.IsOrdinary) : Sound σ (σ.act ℓ μ) where
  placed := isPlaced_act h.placed hμ
  late := callsLate_act h.placed h.late μ
  hears := hearsAll_act h.hears μ

/-- Every run of ordinary moves keeps what is sound. -/
theorem Sound.run (h : Sound σ ℓ) {μs : List Life.Move} (hμs : ∀ μ ∈ μs, μ.IsOrdinary) :
    Sound σ (σ.run ℓ μs) := by
  induction μs generalizing ℓ with
  | nil => exact h
  | cons μ μs ih =>
    rw [forall_mem_cons] at hμs
    exact ih (h.act hμs.1) hμs.2

/-- No move of the server, and none of what it waits for, changes anything any more. -/
def IsThrough (σ : Terms) (ℓ : Life) : Prop :=
  ∀ φ r, ∀ μ ∈ [Life.Move.ring, .go, .part φ, .answer r], σ.act ℓ μ = ℓ

/-- Nothing has happened for which a server leaves. -/
def IsUndisturbed (σ : Terms) (ℓ : Life) : Prop :=
  (∀ φ, .ended φ ∉ ℓ.marks) ∧ ∀ ι, .befell ι ∈ ℓ.marks → σ.asksToStop ι = false

/-- A server that still serves and was not asked to stop is undisturbed. -/
theorem Sound.isUndisturbed (h : Sound σ ℓ) (hs : ℓ.serving = .going) (ha : ℓ.isAsked = false) :
    IsUndisturbed σ ℓ := by
  constructor
  · intro φ hφ
    have hended := hasEnded_digest.2 ⟨φ, hφ⟩
    have hp := h.placed
    rw [IsPlaced, hs] at hp
    generalize digest ℓ.marks = ρ at hp hended
    generalize ℓ.point = p, ℓ.watch = w at hp
    cases hp
    cases hended
  · intro ι hι
    by_contra hasks
    have := h.hears ι hι (by simpa using hasks)
    simp [ha] at this

/-- Where nothing more comes of itself, nothing has happened at all or the server is gone. -/
theorem Sound.undisturbed_or_last (h : Sound σ ℓ) (ht : IsThrough σ ℓ) :
    IsUndisturbed σ ℓ ∨ (∃ n, ℓ.point = .left n) ∨ ∃ φ, .answered (.error φ) ∈ ℓ.marks := by
  have hring : σ.act ℓ .ring = ℓ := ht none (.ok true) _ (by simp)
  have hgo : (σ.goOn ℓ).point = ℓ.point :=
    congrArg Life.point (ht none (.ok true) .go (by simp))
  have hpart : (σ.act ℓ (.part none)).serving = ℓ.serving :=
    congrArg Life.serving (ht none (.ok true) _ (by simp))
  have hanswer : (σ.act ℓ (.answer (.ok true))).point = ℓ.point :=
    congrArg Life.point (ht none (.ok true) _ (by simp))
  have hp := h.placed
  have hundisturbed := h.isUndisturbed
  rw [IsPlaced] at hp
  simp only [← mem_answers_digest]
  obtain ⟨s, a, w, p, ms⟩ := ℓ
  simp only at *
  generalize digest ms = ρ at hp ⊢
  cases hp with
  | watching hw =>
    cases w with
    | dismissed => exact absurd rfl hw
    | gone => simp [Terms.goOn] at hgo
    | waiting =>
      cases a with
      | false => exact .inl (hundisturbed rfl rfl)
      | true => simp [Terms.act] at hring
  | @served _ φ =>
    cases φ with
    | none => simp [Terms.goOn, Life.tidy] at hgo
    | some φ =>
      simp only [Terms.goOn] at hgo
      split at hgo <;> simp [Life.tidy] at hgo
  | parting => simp [Terms.act] at hpart
  | parted => simp [Terms.goOn, Life.tidy] at hgo
  | @tidying w φ n b hw =>
    cases w with
    | waiting => exact absurd rfl hw
    | dismissed => simp [Terms.act] at hring
    | gone => simp [Terms.goOn] at hgo
  | closing => simp [Terms.act] at hanswer
  | left => exact .inr (.inl ⟨_, rfl⟩)
  | @raised _ _ _ _ ψ => exact .inr (.inr ⟨ψ, mem_singleton.2 rfl⟩)

/-- What is promised of the life of a server. -/
structure LeavesOnce (σ : Terms) (ℓ : Life) : Prop where
  once : calls ℓ.marks = [] ∨ calls ℓ.marks = [σ.grace]
  late : CallsLate ℓ.marks
  code : ∀ n, ℓ.point = .left n → calls ℓ.marks = [σ.grace] ∧ (n = 0 ∨ n = 1) ∧
    (n = 0 ↔ ¬ FailsFirst ℓ.marks ∧ .answered (.ok true) ∈ ℓ.marks)
  leaves : IsThrough σ ℓ →
    IsUndisturbed σ ℓ ∨ (∃ n, ℓ.point = .left n) ∨ ∃ φ, .answered (.error φ) ∈ ℓ.marks

/-- A sound life leaves once. -/
theorem leavesOnce_of_sound (h : Sound σ ℓ) : LeavesOnce σ ℓ where
  once := by
    have hp := h.placed
    rw [← calls_digest]
    rw [IsPlaced] at hp
    generalize digest ℓ.marks = ρ at hp ⊢
    generalize ℓ.point = p, ℓ.serving = s, ℓ.watch = w at hp
    cases hp <;> simp
  late := h.late
  code := by
    intro n hn
    have hp := h.placed
    rw [← calls_digest, ← failsFirst_digest, ← mem_answers_digest]
    rw [IsPlaced, hn] at hp
    generalize digest ℓ.marks = ρ at hp ⊢
    generalize ℓ.serving = s, ℓ.watch = w at hp
    cases hp with
    | @left _ _ _ b c => cases b <;> cases c <;> simp
  leaves := h.undisturbed_or_last

/-- In whatever order the serving ends, requests to stop come in and the tasks have their turns,
there is one call for a shutdown at most, with the grace laid down and once the serving has ended.
A server that leaves has called for it, and its code is zero just if the serving had not failed
before a request to stop was noticed and all was closed in time.  It takes six moves at most; where
no more is to come, it has left, unless nothing happened to make it or the shutdown failed itself.
-/
theorem leavesOnce_of_run (σ : Terms) {μs : List Life.Move} (h : ∀ μ ∈ μs, μ.IsOrdinary) :
    LeavesOnce σ (σ.run {} μs) ∧ σ.steps {} μs ≤ 6 := by
  refine ⟨leavesOnce_of_sound (sound_start.run h), ?_⟩
  have hsteps : σ.steps {} μs + (σ.run {} μs).toGo ≤ 6 := steps_add_toGo_le σ {} μs
  omega

/-- The serving fails when a signal has come that nobody has noticed yet, and more comes while all
is being closed. -/
def crossing : List Life.Move :=
  [.befall (.signal "SIGTERM"), .ring, .fall (some ⟨.runtime, []⟩), .go,
    .befall (.signal "SIGINT"), .go, .befall (.stray "lost task"), .answer (.ok true)]

theorem leavesOnce_crossing :
    LeavesOnce ⟨true, .int 10⟩ (Terms.run ⟨true, .int 10⟩ {} crossing) ∧
      (Terms.run ⟨true, .int 10⟩ {} crossing).point = .left 1 := by
  have h : ∀ μ ∈ crossing, μ.IsOrdinary := by simp [crossing, Life.Move.IsOrdinary]
  exact ⟨(leavesOnce_of_run _ h).1, by decide⟩

/-! ## The course of a life -/

namespace Course

variable {κ : Course}

/-- Moves may be made in two parts. -/
theorem run_append (σ : Terms) (ℓ : Life) (μs νs : List Life.Move) :
    σ.run ℓ (μs ++ νs) = σ.run (σ.run ℓ μs) νs := foldl_append ..

/-- Incidents ask to stop and leave their marks. -/
theorem run_befall (hℓ : ℓ.point.isLast = false) (ιs : List (Time × Incident)) :
    σ.run ℓ (befall ιs) = { ℓ with
      isAsked := ℓ.isAsked || ιs.any fun ι ↦ σ.asksToStop ι.2
      marks := ℓ.marks ++ ιs.map fun ι ↦ .befell ι.2 } := by
  induction ιs generalizing ℓ with
  | nil => simp [befall, Terms.run]
  | cons ι ιs ih =>
    have hact : σ.act ℓ (.befall ι.2) =
        { ℓ.note (.befell ι.2) with isAsked := ℓ.isAsked || σ.asksToStop ι.2 } := by
      simp [Terms.act, hℓ]
    have hrest := ih (ℓ := σ.act ℓ (.befall ι.2)) (by rwa [hact])
    rw [hact] at hrest
    simpa [befall, Terms.run, hact, Life.note, Bool.or_assoc] using hrest

/-- Incidents come in the order of their moments. -/
theorem pairwise_ordered (κ : Course) : κ.ordered.Pairwise (·.1 ≤ ·.1) := by
  have h : κ.ordered.Pairwise fun ι κ ↦ decide (ι.1 ≤ κ.1) = true :=
    pairwise_mergeSort (fun _ _ _ ↦ by simpa using Int.le_trans)
      (fun _ _ ↦ by simpa using Int.le_total _ _) κ.incidents
  simpa using h

/-- The incident that stops a server is among those up to the end of the serving. -/
theorem any_earlier {ι : Time × Incident} (h : κ.stop? = some ι) :
    (κ.earlier.any fun ι ↦ κ.asksToStop ι.2) = true := by
  obtain ⟨hasks, before, after, hm, -⟩ := find?_eq_some_iff_append.1 h
  obtain ⟨rest, hrest⟩ : κ.meanwhile <+: κ.ordered := takeWhile_prefix _
  have hordered : κ.ordered = before ++ ι :: (after ++ rest) := by
    rw [← hrest, hm, append_assoc, cons_append]
  have hle : ∀ κ ∈ before, κ.1 ≤ ι.1 := by
    have hsorted := hordered ▸ κ.pairwise_ordered
    exact fun κ hκ ↦ (pairwise_append.1 hsorted).2.2 κ hκ ι mem_cons_self
  have hmem : ι ∈ κ.earlier := by
    rw [earlier, h, hordered, takeWhile_append_of_pos (by simpa using hle)]
    exact mem_append_right _ (by simp)
  exact any_eq_true.2 ⟨ι, hmem, hasks⟩

/-- The serving ends, and a shutdown is called for. -/
theorem point_run_parting (hκ : ∀ φ, κ.serving.fault = some φ → φ.kind ≠ .cancelled) {a : Bool}
    (ha : κ.stop?.isSome → a = true) (ms : List Mark) :
    (κ.run (κ.run { isAsked := a, marks := ms } κ.parting) [.ring, .go]).point =
      .closing (κ.stop?.isNone && κ.serving.fault.isSome) := by
  cases hstop : κ.stop? with
  | some ι =>
    obtain rfl : a = true := ha (by simp [hstop])
    simp [parting, hstop, Terms.run, Terms.act, Terms.goOn, Life.note, Life.tidy, Watch.dismiss]
  | none =>
    cases hφ : κ.serving.fault with
    | none =>
      simp [parting, hstop, hφ, Terms.run, Terms.act, Terms.goOn, Life.note, Life.tidy,
        Watch.dismiss]
    | some φ =>
      simp [parting, hstop, hφ, hκ φ hφ, Terms.run, Terms.act, Terms.goOn, Life.note, Life.tidy,
        Watch.dismiss]

/-- The exit code tells whether the serving failed of itself and whether the closing was clean. -/
theorem exitCode_eq (hκ : ∀ φ, κ.serving.fault = some φ → φ.kind ≠ .cancelled) :
    κ.exitCode =
      if (κ.stop?.isNone && κ.serving.fault.isSome) || !κ.closure.isClean then 1 else 0 := by
  have hearlier : κ.run {} (befall κ.earlier) = _ := run_befall rfl κ.earlier
  have hasked : κ.stop?.isSome →
      (false || κ.earlier.any fun ι ↦ κ.asksToStop ι.2) = true := by
    intro h
    obtain ⟨ι, hι⟩ := Option.isSome_iff_exists.1 h
    simpa using any_earlier hι
  have hclosing := point_run_parting hκ hasked ([.begun] ++ κ.earlier.map fun ι ↦ .befell ι.2)
  have hlater := run_befall (σ := κ.toTerms) (by rw [hclosing]; rfl) κ.later
  have hpoint : κ.life.point = .left
      (if (κ.stop?.isNone && κ.serving.fault.isSome) || !κ.closure.isClean then 1 else 0) := by
    rw [life, moves, run_append, run_append, run_append, run_append, hearlier, hlater]
    simp only [Terms.run, foldl_cons, foldl_nil] at hclosing ⊢
    simp only [Terms.act] at hclosing ⊢
    simp only [hclosing]
  rw [exitCode, hpoint]

end Course

end Sluice.Server
