import Mathlib.Data.List.Infix
import Mathlib.Data.List.Induction
import Mathlib.Order.Defs.LinearOrder
import Sluice.Proofs.File.Store
import Sluice.Proofs.Install.Body
import Sluice.Proofs.Install.Pursuit

/-!
# The progress of a download

While a body of known length is written, each step of bytes is reported at the first chunk that
completes it.  What the loop keeps is that the next report is due less than a step ahead
(`IsOnPace`).  A chunk longer than a step would break this, for it makes one report at most.
-/

namespace Sluice.Install

open File List

variable {step n : Nat} {total : Int} {β : ByteArray} {αs βs γs δs : List ByteArray} {ω : Writing}

/-! ## Beginnings of a body -/

theorem size_joined_mono (h : αs <+: βs) : (joined αs).size ≤ (joined βs).size := by
  obtain ⟨γs, rfl⟩ := h
  rw [joined_append, ByteArray.size_append]
  exact Nat.le_add_right ..

theorem size_joined_concat (βs : List ByteArray) (β : ByteArray) :
    (joined (βs ++ [β])).size = (joined βs).size + β.size := by
  simp [joined_append]

/-- The first boundary between the chunks `βs` that is at or past `n` bytes comes after `γs`. -/
structure Reaches (n : Nat) (γs βs : List ByteArray) : Prop where
  isPrefix : γs <+: βs
  le_size : n ≤ (joined γs).size
  size_lt : ∀ δs, δs <+: γs → δs ≠ γs → (joined δs).size < n

theorem exists_reaches (h : n ≤ (joined βs).size) : ∃ γs, Reaches n γs βs := by
  induction βs using List.reverseRecOn with
  | nil => exact ⟨[], prefix_rfl, h, fun δs hδ hne ↦ absurd (prefix_nil.mp hδ) hne⟩
  | append_singleton βs β ih =>
    by_cases hn : n ≤ (joined βs).size
    · obtain ⟨γs, hγ⟩ := ih hn
      exact ⟨γs, hγ.isPrefix.trans (prefix_append ..), hγ.le_size, hγ.size_lt⟩
    · refine ⟨βs ++ [β], prefix_rfl, h, ?_⟩
      intro δs hδ hne
      have hδβ := (prefix_concat_iff.mp hδ).resolve_left hne
      exact (size_joined_mono hδβ).trans_lt (not_le.mp hn)

/-- A boundary is at or past `n` bytes if it is at or past the first one of them. -/
theorem Reaches.isPrefix_iff (h : Reaches n γs βs) (hδ : δs <+: βs) :
    γs <+: δs ↔ n ≤ (joined δs).size := by
  constructor
  · intro hγ
    exact h.le_size.trans (size_joined_mono hγ)
  · intro hn
    rcases prefix_or_prefix_of_prefix h.isPrefix hδ with hγ | hδγ
    · exact hγ
    · have heq : δs = γs := by
        by_contra hne
        exact absurd hn (not_le.mpr (h.size_lt δs hδγ hne))
      rw [heq]

/-! ## What stands written -/

/-- What stands of a body when some chunks have come. -/
def written (step : Nat) (total : Int) (βs : List ByteArray) : Writing :=
  βs.foldl (Writing.write step total) { nextReport := step }

theorem written_concat (βs : List ByteArray) (β : ByteArray) :
    written step total (βs ++ [β]) = (written step total βs).write step total β := foldl_concat ..

theorem content_written (βs : List ByteArray) : (written step total βs).content = joined βs := by
  rw [written, content_foldl_write, ByteArray.empty_append]

theorem write_of_due (h : 0 < total) (hdue : ω.nextReport ≤ (ω.content ++ β).size) :
    ω.write step total β = ⟨ω.content ++ β, ω.nextReport + step,
      ω.events ++ [Writing.report (ω.content ++ β).size total]⟩ := if_pos ⟨h, hdue⟩

theorem write_of_not_due (h : ¬ (0 < total ∧ ω.nextReport ≤ (ω.content ++ β).size)) :
    ω.write step total β = ⟨ω.content ++ β, ω.nextReport, ω.events⟩ := if_neg h

/-- No record is made if the length is not known. -/
theorem events_written_of_nonpos (h : total ≤ 0) (βs : List ByteArray) :
    (written step total βs).events = [] := by
  induction βs using List.reverseRecOn with
  | nil => rfl
  | append_singleton βs β ih =>
    rw [written_concat, write_of_not_due fun hdue ↦ Int.not_lt.mpr h hdue.1]
    exact ih

theorem events_written_mono (step : Nat) (total : Int) (h : αs <+: βs) :
    (written step total αs).events <+: (written step total βs).events := by
  obtain ⟨γs, rfl⟩ := h
  induction γs using List.reverseRecOn with
  | nil => simp
  | append_singleton γs γ ih =>
    rw [← append_assoc, written_concat]
    refine ih.trans ?_
    by_cases hdue : 0 < total ∧ (written step total (αs ++ γs)).nextReport ≤
        ((written step total (αs ++ γs)).content ++ γ).size
    · rw [write_of_due hdue.1 hdue.2]
      exact prefix_append ..
    · rw [write_of_not_due hdue]

/-! ## The pace of the reports -/

/-- There is a record for each complete step, and the next is due when another one is complete. -/
structure IsOnPace (step : Nat) (ω : Writing) : Prop where
  nextReport_eq : ω.nextReport = (ω.events.length + 1) * step
  le_size : ω.events.length * step ≤ ω.content.size
  size_lt : ω.content.size < ω.nextReport

theorem IsOnPace.write (h : IsOnPace step ω) (htotal : 0 < total) (hβ : β.size ≤ step) :
    IsOnPace step (ω.write step total β) := by
  have hsize : (ω.content ++ β).size = ω.content.size + β.size := ByteArray.size_append
  by_cases hdue : ω.nextReport ≤ (ω.content ++ β).size
  · rw [write_of_due htotal hdue]
    refine ⟨?_, ?_, ?_⟩
    · rw [length_append, length_singleton, Nat.succ_mul, h.nextReport_eq]
    · rw [length_append, length_singleton, ← h.nextReport_eq]
      exact hdue
    · rw [hsize]
      exact Nat.add_lt_add_of_lt_of_le h.size_lt hβ
  · rw [write_of_not_due fun hd ↦ hdue hd.2]
    refine ⟨h.nextReport_eq, ?_, not_le.mp hdue⟩
    rw [hsize]
    exact h.le_size.trans (Nat.le_add_right ..)

theorem isOnPace_written (hstep : 0 < step) (htotal : 0 < total) (hβs : ∀ β ∈ βs, β.size ≤ step) :
    IsOnPace step (written step total βs) := by
  induction βs using List.reverseRecOn with
  | nil => exact ⟨(Nat.one_mul step).symm, (Nat.zero_mul step).le, hstep⟩
  | append_singleton βs β ih =>
    rw [written_concat]
    rw [forall_mem_append, forall_mem_singleton] at hβs
    exact (ih hβs.1).write htotal hβs.2

theorem IsOnPace.length_events (h : IsOnPace step ω) : ω.events.length = ω.content.size / step :=
  (Nat.div_eq_of_lt_le h.le_size (h.nextReport_eq ▸ h.size_lt)).symm

/-- There are as many records as complete steps. -/
theorem length_events_written (hstep : 0 < step) (htotal : 0 < total)
    (hβs : ∀ β ∈ βs, β.size ≤ step) :
    (written step total βs).events.length = (joined βs).size / step := by
  rw [(isOnPace_written hstep htotal hβs).length_events, content_written]

/-- The record of a step is made at the first boundary at or past it. -/
theorem events_written_of_reaches {k : Nat} (hstep : 0 < step) (htotal : 0 < total)
    (hβs : ∀ β ∈ βs, β.size ≤ step) (hk : 0 < k) (h : Reaches (k * step) γs βs) :
    ∃ εs, εs.length = k - 1 ∧
      (written step total γs).events = εs ++ [Writing.report (joined γs).size total] := by
  have hγs : ∀ β ∈ γs, β.size ≤ step := fun β hβ ↦ hβs β (h.isPrefix.subset hβ)
  rcases γs.eq_nil_or_concat' with rfl | ⟨δs, β, rfl⟩
  · -- no step is complete before the first chunk
    have hle : k * step ≤ 0 := h.le_size
    exact absurd hle (not_le.mpr (Nat.mul_pos hk hstep))
  rw [forall_mem_append, forall_mem_singleton] at hγs
  have hpace := isOnPace_written hstep htotal hγs.1
  set ω := written step total δs with hω
  have hcontent : ω.content = joined δs := content_written δs
  have hsize : (ω.content ++ β).size = (joined (δs ++ [β])).size := by
    simp [hcontent, joined_append]
  -- before the last chunk the step is not complete, but the one before it is
  have hlt : (joined δs).size < k * step :=
    h.size_lt δs (prefix_append ..) fun he ↦ by simpa using congrArg length he
  have hlength : ω.events.length = k - 1 := by
    rw [hpace.length_events, hcontent]
    have hle : k * step ≤ (joined δs).size + β.size := by
      rw [← size_joined_concat]
      exact h.le_size
    have hbefore : (k - 1) * step ≤ (joined δs).size := by
      rw [Nat.sub_one_mul]
      exact Nat.sub_le_of_le_add (hle.trans (Nat.add_le_add_left hγs.2 _))
    exact Nat.div_eq_of_lt_le hbefore (by rwa [Nat.sub_add_cancel hk])
  have hdue : ω.nextReport ≤ (ω.content ++ β).size := by
    rw [hpace.nextReport_eq, hlength, Nat.sub_add_cancel hk, hsize]
    exact h.le_size
  refine ⟨ω.events, hlength, ?_⟩
  rw [written_concat, ← hω, write_of_due htotal hdue, hsize]

/-! ## Progress as a whole -/

/-- The chunks of a body that come before its end or an interruption. -/
def Response.delivered (limits : Limits) (ρ : Response) : List ByteArray :=
  chunks limits.chunkSize ρ.interruption.isNone .empty ρ.body

/-- What is written of a body of announced length `total`, and what is reported, when the chunks
`αs` have come.  The record of a step is there from the first boundary at or past that step on. -/
structure Tallies (step : Nat) (total : Int) (αs : List ByteArray) (ω : Writing) : Prop where
  content_eq : ω.content = joined αs
  length_events : 0 < total → ω.events.length = (joined αs).size / step
  report : 0 < total → ∀ k, 0 < k → k * step ≤ (joined αs).size → ∃ γs, Reaches (k * step) γs αs ∧
    ω.events[k - 1]? = some (Writing.report (joined γs).size total) ∧
    ∀ δs, δs <+: αs → (k ≤ (written step total δs).events.length ↔ γs <+: δs)
  silent : total ≤ 0 → ω.events = []

theorem tallies_written (hstep : 0 < step) (total : Int) (hβs : ∀ β ∈ αs, β.size ≤ step) :
    Tallies step total αs (written step total αs) where
  content_eq := content_written αs
  length_events htotal := length_events_written hstep htotal hβs
  report htotal k hk hle := by
    obtain ⟨γs, hγ⟩ := exists_reaches hle
    refine ⟨γs, hγ, ?_, ?_⟩
    · obtain ⟨εs, hlength, hε⟩ := events_written_of_reaches hstep htotal hβs hk hγ
      obtain ⟨ηs, hη⟩ := events_written_mono step total hγ.isPrefix
      rw [← hη, hε, append_assoc, ← hlength, getElem?_append_right le_rfl]
      simp
    · intro δs hδ
      rw [length_events_written hstep htotal fun β hβ ↦ hβs β (hδ.subset hβ),
        Nat.le_div_iff_mul_le hstep, hγ.isPrefix_iff hδ]
  silent htotal := events_written_of_nonpos htotal αs

/-- Wherever a body is cut off, the chunks that have come are written in order.  If its length is
known there is a record for each complete step, made at the first boundary at or past the step;
otherwise there is none.  This is what stands at the path of a body when it is written. -/
theorem tallies_of_delivered {limits : Limits} (hstep : 0 < limits.progressStep)
    (hle : limits.chunkSize ≤ limits.progressStep) (total : Int)
    (hβs : ∀ β ∈ βs, β.size ≤ limits.chunkSize) :
    (∀ αs, αs <+: βs →
        Tallies limits.progressStep total αs (written limits.progressStep total αs)) ∧
      ∀ (σ : Site) (p : Path) (ρ : Response) (τ : Store) (κ : Key) (μ : Nat), σ.limits = limits →
        ρ.length = .ok total → ρ.delivered limits = βs → σ.store.create p = .ok (τ, κ, μ) →
        let ω := written limits.progressStep total βs
        let σ' := ((writeBody ρ p).run.run σ).2
        σ'.store.at? p = some (.file μ ω.content) ∧ σ'.events = σ.events ++ ω.events := by
  constructor
  · intro αs hα
    exact tallies_written hstep total fun β hβ ↦ (hβs β (hα.subset hβ)).trans hle
  · rintro σ p ρ τ κ μ rfl hlength rfl hc
    simp only [run_writeBody, hlength, hc]
    exact ⟨(Store.touches_create hc _).2, rfl⟩

/-- A site where a body is written in chunks of two bytes and every third byte completes a step. -/
def narrow : Site where
  host := ⟨"linux", "x64"⟩
  limits := { chunkSize := 2, progressStep := 3 }

/-- An answer that announces the length of its body, which comes in pieces of other sizes. -/
def announced : Response where
  headers := [("Content-Length", "7")]
  body := [⟨#[1, 2, 3]⟩, ⟨#[4, 5, 6, 7]⟩]

theorem tallies_of_delivered_announced :
    let p : Path := ⟨.root, ["proxy"]⟩
    let βs := announced.delivered narrow.limits
    0 < narrow.limits.progressStep ∧ narrow.limits.chunkSize ≤ narrow.limits.progressStep ∧
      (∀ β ∈ βs, β.size ≤ narrow.limits.chunkSize) ∧ announced.length = .ok 7 ∧
      (written narrow.limits.progressStep 7 βs).events.length = 2 ∧
      ((writeBody announced p).run.run narrow).2.store.at? p =
        some (.file 0o644 ⟨#[1, 2, 3, 4, 5, 6, 7]⟩) := by
  intro p βs
  have hstep : 0 < narrow.limits.progressStep := by decide
  have hle : narrow.limits.chunkSize ≤ narrow.limits.progressStep := by decide
  have hβs : ∀ β ∈ βs, β.size ≤ narrow.limits.chunkSize := fun β hβ ↦
    size_le_of_mem_chunks (by decide) hβ
  have hlength : announced.length = .ok 7 := by decide
  obtain ⟨htallies, hwritten⟩ := tallies_of_delivered hstep hle 7 hβs
  have hall := htallies βs prefix_rfl
  have hat := (hwritten narrow p announced _ _ 0o644 rfl hlength rfl rfl).1
  refine ⟨hstep, hle, hβs, hlength, ?_, ?_⟩
  · rw [hall.length_events (by decide)]
    decide
  · have hjoined : joined βs = ⟨#[1, 2, 3, 4, 5, 6, 7]⟩ := by decide
    rw [hat, hall.content_eq, hjoined]

end Sluice.Install
