import Mathlib.Data.List.DropRight
import Sluice.Proofs.Proxy.View

/-!
# Lines of output

What processes write is told byte by byte here (`Output`), so that it does not matter how it is cut
into pieces.  A line feed completes a line, which is what was written on the same stream since the
line feed before, and so does the end of a stream if something is not finished (`Output.lines`).
What comes through a stream that has ended does not count.  As long as lines are short a buffer
always holds what is not finished, whatever pieces come in (`Output.feed_held`).

A line may say what went wrong (`Line.complaint?`).  The standard output is not read any further
behind a line that is nested too deep, so not all lines may be heard (`heard`).
-/

namespace Sluice.Proxy

open Child

/-- A line that was written on a stream. -/
structure Line where
  stream : Stream
  bytes : List UInt8
  deriving DecidableEq

/-! ## Bytes and lines -/

/-- What has come through either stream, one byte after the other, and `none` where it ended. -/
abbrev Output := List (Stream × Option UInt8)

namespace Output

variable {σ τ : Stream} {b : UInt8} {bs : List UInt8} {β : Option (List UInt8)} {o u v : Output}

/-- What was written on a stream. -/
def on (o : Output) (σ : Stream) : List UInt8 := (o.filter (·.1 = σ)).filterMap Prod.snd

/-- Whether a stream has ended. -/
def isClosed (o : Output) (σ : Stream) : Bool := o.any (· = (σ, none))

/-- What was written on a stream since its last line feed. -/
def unfinished (o : Output) (σ : Stream) : List UInt8 := (o.on σ).rtakeWhile (· != 10)

/-- The line that the end of a stream completes, if something is not finished. -/
def tail (o : Output) (σ : Stream) : List Line :=
  if (o.unfinished σ).isEmpty then [] else [⟨σ, o.unfinished σ⟩]

/-- The line that is completed by what comes through a stream next. -/
def completed (o : Output) : Stream × Option UInt8 → List Line
  | (σ, some b) => if b = 10 then [⟨σ, o.unfinished σ⟩] else []
  | (σ, none) => o.tail σ

/-- The lines that are completed when `o` has come and some more does. -/
def linesAfter (o : Output) : Output → List Line
  | [] => []
  | x :: u => (if o.isClosed x.1 then [] else o.completed x) ++ linesAfter (o ++ [x]) u

/-- The lines that were completed, in the order in which they were. -/
def lines (o : Output) : List Line := linesAfter [] o

/-- A piece of output on one stream, or the end of that. -/
def piece (σ : Stream) : Option (List UInt8) → Output
  | some bs => bs.map fun b ↦ (σ, some b)
  | none => [(σ, none)]

/-- What has come through either stream piece by piece. -/
def ofPieces (ws : List (Stream × Option (List UInt8))) : Output :=
  ws.flatMap fun (σ, β) ↦ piece σ β

/-- Every line is shorter than what a line may have: no longer stretch is without a line feed. -/
def IsShortLined (o : Output) : Prop :=
  ∀ σ bs, bs <:+: o.on σ → 10 ∉ bs → bs.length < streamLimit

/-- What was written on a stream is written in order. -/
theorem on_append (o u : Output) (σ : Stream) : (o ++ u).on σ = o.on σ ++ u.on σ := by
  simp [on]

/-- A stream has ended if it has at some place. -/
theorem isClosed_append (o u : Output) (σ : Stream) :
    (o ++ u).isClosed σ = (o.isClosed σ || u.isClosed σ) := List.any_append ..

/-- A stream ends where its end comes. -/
theorem isClosed_piece (σ τ : Stream) (β : Option (List UInt8)) :
    (piece σ β).isClosed τ = (decide (σ = τ) && β.isNone) := by
  cases β with
  | some bs => simp [isClosed, piece]
  | none => simp [isClosed, piece]

/-- Output does not end a stream. -/
theorem isClosed_append_some (o : Output) (σ τ : Stream) (b : UInt8) :
    (o ++ [(σ, some b)]).isClosed τ = o.isClosed τ := by
  simp [isClosed]

/-- A byte is put behind what is not finished, and a line feed finishes that. -/
theorem unfinished_append_self (o : Output) (σ : Stream) (b : UInt8) :
    (o ++ [(σ, some b)]).unfinished σ = if b = 10 then [] else o.unfinished σ ++ [b] := by
  have h : (o ++ [(σ, some b)]).on σ = o.on σ ++ [b] := by simp [on]
  rw [unfinished, h, List.rtakeWhile_concat]
  simp [unfinished]

/-- What comes through one stream leaves the unfinished line of the other alone. -/
theorem unfinished_append_piece_of_ne (o : Output) (β : Option (List UInt8)) (h : τ ≠ σ) :
    (o ++ piece τ β).unfinished σ = o.unfinished σ := by
  have hp : (piece τ β).on σ = [] := by cases β <;> simp [on, piece, h]
  rw [unfinished, on_append, hp, List.append_nil, unfinished]

/-- The lines completed after some output go by all that came before. -/
theorem linesAfter_append (o u v : Output) :
    linesAfter o (u ++ v) = linesAfter o u ++ linesAfter (o ++ u) v := by
  induction u generalizing o with
  | nil => simp [linesAfter]
  | cons x u ih => simp [linesAfter, ih]

/-- The lines of two outputs are those of the first one and those that the second one completes
behind it. -/
theorem lines_append (o u : Output) : (o ++ u).lines = o.lines ++ linesAfter o u :=
  linesAfter_append [] o u

/-- The last line of a stream is on that stream. -/
theorem stream_of_mem_tail {ℓ : Line} (h : ℓ ∈ o.tail σ) : ℓ.stream = σ := by
  unfold tail at h
  split at h
  · cases h
  · rw [List.mem_singleton.mp h]

/-- What comes through a stream completes a line of that stream. -/
theorem stream_of_mem_completed {ℓ : Line} {x : Stream × Option UInt8} (h : ℓ ∈ o.completed x) :
    ℓ.stream = x.1 := by
  obtain ⟨σ, _ | b⟩ := x
  · exact stream_of_mem_tail h
  · rw [completed] at h
    split at h
    · rw [List.mem_singleton.mp h]
    · cases h

/-- Every line that is completed is one of a stream through which something comes. -/
theorem exists_of_mem_linesAfter {ℓ : Line} (h : ℓ ∈ linesAfter o u) : ∃ x ∈ u, ℓ.stream = x.1 := by
  induction u generalizing o with
  | nil => cases h
  | cons x u ih =>
    rw [linesAfter] at h
    obtain h | h := List.mem_append.mp h
    · split at h
      · cases h
      · exact ⟨x, List.mem_cons_self, stream_of_mem_completed h⟩
    · obtain ⟨y, hy, hℓ⟩ := ih h
      exact ⟨y, List.mem_cons_of_mem _ hy, hℓ⟩

/-- A piece of output is on its stream. -/
theorem stream_of_mem_piece {x : Stream × Option UInt8} (h : x ∈ piece σ β) : x.1 = σ := by
  cases β with
  | some bs =>
    obtain ⟨b, -, rfl⟩ := List.mem_map.mp h
    rfl
  | none => rw [List.mem_singleton.mp h]

/-- A piece of output completes lines on its stream alone. -/
theorem stream_of_mem_linesAfter_piece {ℓ : Line} (h : ℓ ∈ linesAfter o (piece σ β)) :
    ℓ.stream = σ := by
  obtain ⟨x, hx, hℓ⟩ := exists_of_mem_linesAfter h
  exact hℓ.trans (stream_of_mem_piece hx)

/-- Nothing is completed on streams that have ended. -/
theorem linesAfter_of_isClosed (h : ∀ x ∈ u, o.isClosed x.1 = true) : linesAfter o u = [] := by
  induction u generalizing o with
  | nil => rfl
  | cons x u ih =>
    rw [linesAfter, if_pos (h x List.mem_cons_self), List.nil_append]
    refine ih fun y hy ↦ ?_
    rw [isClosed_append, h y (List.mem_cons_of_mem _ hy), Bool.true_or]

/-- The end of a stream completes what was not finished. -/
theorem linesAfter_piece_none (h : o.isClosed σ = false) :
    linesAfter o (piece σ none) = o.tail σ := by
  simp [piece, linesAfter, completed, h]

theorem piece_some_cons (σ : Stream) (b : UInt8) (bs : List UInt8) :
    piece σ (some (b :: bs)) = (σ, some b) :: piece σ (some bs) := rfl

/-- Behind a line nothing is unfinished. -/
theorem unfinished_append_piece_line (o : Output) (σ : Stream) (bs : List UInt8) :
    (o ++ piece σ (some (bs ++ [10]))).unfinished σ = [] := by
  have hp : piece σ (some (bs ++ [10])) = piece σ (some bs) ++ [(σ, some 10)] := by simp [piece]
  rw [hp, ← List.append_assoc, unfinished_append_self, if_pos rfl]

/-- A whole line comes in. -/
theorem linesAfter_piece_line (ho : o.isClosed σ = false) (h : 10 ∉ bs) :
    linesAfter o (piece σ (some (bs ++ [10]))) = [⟨σ, o.unfinished σ ++ bs⟩] := by
  induction bs generalizing o with
  | nil => simp [piece, linesAfter, completed, ho]
  | cons b bs ih =>
    rw [List.mem_cons, not_or] at h
    obtain ⟨hb, hbs⟩ := h
    have ho' : (o ++ [(σ, some b)]).isClosed σ = false := (isClosed_append_some ..).trans ho
    rw [List.cons_append, piece_some_cons, linesAfter, ho, if_neg Bool.false_ne_true, completed,
      if_neg (Ne.symm hb), ih ho' hbs, unfinished_append_self, if_neg (Ne.symm hb)]
    simp

/-- Whole lines come in, one after the other. -/
theorem linesAfter_ofPieces (ho : o.isClosed σ = false) (hu : o.unfinished σ = [])
    {ls : List (List UInt8)} (h : ∀ l ∈ ls, 10 ∉ l) :
    linesAfter o (ofPieces (ls.map fun l ↦ (σ, some (l ++ [10])))) = ls.map (Line.mk σ) := by
  induction ls generalizing o with
  | nil => rfl
  | cons l ls ih =>
    obtain ⟨hl, hls⟩ := List.forall_mem_cons.mp h
    have hopen : (o ++ piece σ (some (l ++ [10]))).isClosed σ = false := by
      rw [isClosed_append, ho, isClosed_piece, Option.isNone_some, Bool.and_false, Bool.or_false]
    rw [List.map_cons, ofPieces, List.flatMap_cons, ← ofPieces, linesAfter_append,
      linesAfter_piece_line ho hl, hu, ih hopen (unfinished_append_piece_line ..) hls]
    rfl

/-- Pieces come one after the other. -/
theorem ofPieces_append (ws xs : List (Stream × Option (List UInt8))) :
    ofPieces (ws ++ xs) = ofPieces ws ++ ofPieces xs := List.flatMap_append ..

theorem ofPieces_singleton (w : Stream × Option (List UInt8)) : ofPieces [w] = piece w.1 w.2 :=
  List.flatMap_singleton ..

/-! ## Buffers -/

/-- Output that is shorter than a line may be has short lines. -/
theorem isShortLined_of_length (h : o.length < streamLimit) : o.IsShortLined := by
  intro σ bs hbs _
  have hl : (o.on σ).length ≤ o.length :=
    Nat.le_trans (List.length_filterMap_le ..) (List.length_filter_le ..)
  exact Nat.lt_of_le_of_lt (Nat.le_trans hbs.length_le hl) h

/-- The beginning of output with short lines has short lines. -/
theorem IsShortLined.of_append (h : (o ++ u).IsShortLined) : o.IsShortLined := by
  intro σ bs hbs
  refine h σ bs (hbs.trans ?_)
  rw [on_append]
  exact (List.prefix_append ..).isInfix

/-- What is not finished of short lines is short. -/
theorem IsShortLined.length_unfinished (h : o.IsShortLined) (σ : Stream) :
    (o.unfinished σ).length < streamLimit := by
  refine h σ _ (List.rtakeWhile_suffix _ _).isInfix fun hm ↦ ?_
  simpa using List.mem_rtakeWhile_imp hm

/-- The buffer that holds what is not finished on a stream. -/
def held (o : Output) (σ : Stream) : LineBuffer :=
  ⟨(o.unfinished σ).reverse, (o.unfinished σ).length⟩

/-- The bytes of a piece are put into the buffer one by one, which gives out the lines that they
complete. -/
theorem foldl_push_held (ho : o.isClosed σ = false) (h : (o ++ piece σ (some bs)).IsShortLined)
    (ls : List (List UInt8)) : bs.foldl LineBuffer.push ⟨ls, some (o.held σ)⟩ =
      ⟨((linesAfter o (piece σ (some bs))).map Line.bytes).reverse ++ ls,
        some ((o ++ piece σ (some bs)).held σ)⟩ := by
  induction bs generalizing o ls with
  | nil => simp [piece, linesAfter]
  | cons b bs ih =>
    rw [piece_some_cons, List.append_cons] at h
    have hl := h.of_append.of_append.length_unfinished σ
    have hpush : LineBuffer.push ⟨ls, some (o.held σ)⟩ b =
        ⟨((if b = 10 then [o.unfinished σ] else []) ++ ls),
          some ((o ++ [(σ, some b)]).held σ)⟩ := by
      rw [LineBuffer.push, held, held, unfinished_append_self]
      dsimp only
      split
      next hb =>
        rw [if_neg (Nat.not_lt.mpr (Nat.le_of_lt hl))]
        simp
      next hb => simp
    have ho' : (o ++ [(σ, some b)]).isClosed σ = false := (isClosed_append_some ..).trans ho
    rw [List.foldl_cons, hpush, ih ho' h, piece_some_cons, linesAfter, List.append_cons o, ho,
      if_neg Bool.false_ne_true, completed]
    split <;> simp

/-- However much comes in at once, the lines that it completes come out and the buffer holds what is
not finished. -/
theorem feed_held (ho : o.isClosed σ = false) (h : (o ++ piece σ (some bs)).IsShortLined) :
    (o.held σ).feed bs = ⟨(linesAfter o (piece σ (some bs))).map Line.bytes,
      some ((o ++ piece σ (some bs)).held σ)⟩ := by
  have hl : ((o ++ piece σ (some bs)).held σ).size ≤ streamLimit :=
    Nat.le_of_lt (h.length_unfinished σ)
  rw [LineBuffer.feed, foldl_push_held ho h]
  simp [hl]

/-- A buffer whose stream ends gives out what was not finished. -/
theorem finish_held (o : Output) (σ : Stream) :
    (o.held σ).finish.toList = (o.tail σ).map Line.bytes := by
  rw [LineBuffer.finish, tail, held]
  simp only [List.isEmpty_reverse, List.reverse_reverse]
  split <;> rfl

end Output

/-! ## What lines say -/

namespace Line

/-- Whether a line is not blank. -/
def hasText (ℓ : Line) : Bool := (lineText? ℓ.bytes).isSome

/-- The record that is made of a line, unless it is blank. -/
def record? (ℓ : Line) : Option Event := (lineText? ℓ.bytes).map fun l ↦
  match ℓ.stream with
  | .output => .log .info .proxyOutput l
  | .errors => .log .warning .proxyErrors l

/-- What a line says went wrong: any text on the error stream, or a record of an error level on the
standard output. -/
def complaint? : Line → Option Value
  | ⟨.errors, bs⟩ => (lineText? bs).map .text
  | ⟨.output, bs⟩ => (lineText? bs).bind fun l ↦
    match Json.read false l.toList with
    | .ok (.record ρ) => if levelOf ρ ∈ errorLevels then some (messageOf ρ l) else none
    | _ => none

/-- A line on the standard output whose containers are nested too deep. -/
def isTooDeep : Line → Bool
  | ⟨.errors, _⟩ => false
  | ⟨.output, bs⟩ => (lineText? bs).any fun l ↦
    match Json.read false l.toList with
    | .error ⟨.tooDeep _, _⟩ => true
    | _ => false

section HasText

variable {ℓ : Line}

/-- Of a blank line no record is made. -/
theorem record?_eq_none (h : ℓ.hasText = false) : ℓ.record? = none := by
  rw [hasText, Option.isSome_eq_false_iff, Option.isNone_iff_eq_none] at h
  rw [record?, h, Option.map_none]

/-- A blank line does not complain. -/
theorem complaint?_eq_none (h : ℓ.hasText = false) : ℓ.complaint? = none := by
  rw [hasText, Option.isSome_eq_false_iff, Option.isNone_iff_eq_none] at h
  obtain ⟨_ | _, bs⟩ := ℓ <;> simp_all [complaint?]

/-- A line that is nested too deep is not blank. -/
theorem hasText_of_isTooDeep (h : ℓ.isTooDeep = true) : ℓ.hasText = true := by
  obtain ⟨_ | _, bs⟩ := ℓ
  · rw [hasText]
    rw [isTooDeep] at h
    cases ht : lineText? bs with
    | none => simp [ht] at h
    | some l => rfl
  · cases h

/-- Only the standard output has lines that are nested too deep. -/
theorem stream_of_isTooDeep (h : ℓ.isTooDeep = true) : ℓ.stream = .output := by
  obtain ⟨_ | _, bs⟩ := ℓ
  · rfl
  · cases h

end HasText

end Line

/-- The standard output is read on unless a line is nested too deep. -/
theorem structuredError_cases {bs : List UInt8} {l : String} (h : lineText? bs = some l) :
    structuredError l = .ok (Line.complaint? ⟨.output, bs⟩) ∧
        Line.isTooDeep ⟨.output, bs⟩ = false ∨
      ∃ φ, structuredError l = .error φ ∧ Line.complaint? ⟨.output, bs⟩ = none ∧
        Line.isTooDeep ⟨.output, bs⟩ = true := by
  simp only [structuredError, Line.complaint?, Line.isTooDeep, h, Option.bind_some, Option.any_some]
  obtain ⟨φ, r⟩ | v := Json.read false l.toList
  · cases φ <;> simp
  · cases v <;> simp

/-- A line that is nested too deep does not complain. -/
theorem Line.complaint?_of_isTooDeep {ℓ : Line} (h : ℓ.isTooDeep = true) : ℓ.complaint? = none := by
  obtain ⟨l, hl⟩ := Option.isSome_iff_exists.mp (hasText_of_isTooDeep h)
  obtain ⟨_ | _, bs⟩ := ℓ
  · obtain ⟨-, hd⟩ | ⟨φ, -, hc, -⟩ := structuredError_cases hl
    · cases hd.symm.trans h
    · exact hc
  · cases h

/-- What went wrong according to the latest of some lines that tells, if one does. -/
def latest (v : Value) (ℓs : List Line) : Value := (ℓs.filterMap Line.complaint?).getLast?.getD v

/-- The latest complaint of two runs of lines is that of the second one, if it has one. -/
theorem latest_append (v : Value) (ℓs κs : List Line) :
    latest v (ℓs ++ κs) = latest (latest v ℓs) κs := by
  rw [latest, latest, latest, List.filterMap_append, List.getLast?_append]
  cases (κs.filterMap Line.complaint?).getLast? <;> rfl

/-- The lines that are heard: none on the standard output behind one that is nested too deep. -/
def heard : List Line → List Line
  | [] => []
  | ℓ :: ℓs => if ℓ.isTooDeep then ℓ :: ℓs.filter (·.stream = .errors) else ℓ :: heard ℓs

section Heard

variable {ℓs κs : List Line} {ℓ : Line}

/-- Behind a line that is nested too deep only the error stream is heard. -/
theorem heard_append (ℓs κs : List Line) : heard (ℓs ++ κs) =
    heard ℓs ++ if ℓs.any Line.isTooDeep then κs.filter (·.stream = .errors) else heard κs := by
  induction ℓs with
  | nil => rfl
  | cons ℓ ℓs ih =>
    rw [List.cons_append, heard, heard]
    split
    next h => simp [h]
    next h => simp [h, ih]

/-- The error stream is heard as a whole. -/
theorem heard_of_errors (h : ∀ ℓ ∈ ℓs, ℓ.stream = .errors) : heard ℓs = ℓs := by
  induction ℓs with
  | nil => rfl
  | cons ℓ ℓs ih =>
    have hd : ¬ ℓ.isTooDeep = true := fun hd ↦ by
      cases (Line.stream_of_isTooDeep hd).symm.trans (h ℓ List.mem_cons_self)
    rw [heard, if_neg hd, ih fun κ hκ ↦ h κ (List.mem_cons_of_mem _ hκ)]

/-- What comes in on one stream is heard as long as that is read. -/
theorem heard_append_of_stream {σ : Stream} (h : ∀ κ ∈ κs, κ.stream = σ) : heard (ℓs ++ κs) =
    heard ℓs ++ if σ = .output ∧ ℓs.any Line.isTooDeep = true then [] else heard κs := by
  rw [heard_append]
  cases σ with
  | output =>
    have hn : κs.filter (·.stream = .errors) = [] := by
      simp only [List.filter_eq_nil_iff, decide_eq_true_eq]
      exact fun κ hκ he ↦ by cases he.symm.trans (h κ hκ)
    simp [hn]
  | errors =>
    have hs : κs.filter (·.stream = .errors) = κs := by
      simpa [List.filter_eq_self] using h
    simp [hs, heard_of_errors h]

/-- The last line of a stream is heard. -/
theorem heard_tail (o : Output) (σ : Stream) : heard (o.tail σ) = o.tail σ := by
  unfold Output.tail
  split
  · rfl
  · simp [heard]

/-- What is heard was written. -/
theorem heard_sublist (ℓs : List Line) : (heard ℓs).Sublist ℓs := by
  induction ℓs with
  | nil => exact .slnil
  | cons ℓ ℓs ih =>
    rw [heard]
    split
    · exact List.filter_sublist.cons_cons ℓ
    · exact ih.cons_cons ℓ

/-- Every line that says something is heard, unless it is on the standard output behind one that is
nested too deep. -/
theorem filter_hasText_heard_iff : (heard ℓs).filter Line.hasText = ℓs.filter Line.hasText ↔
    ℓs.Pairwise fun ℓ κ ↦ ℓ.isTooDeep = true → κ.hasText = true → κ.stream = .errors := by
  induction ℓs with
  | nil => simp [heard]
  | cons ℓ ℓs ih =>
    rw [heard, List.pairwise_cons]
    split
    next hd =>
      -- here lines are lost, unless all that have a text are on the error stream
      have hs : ℓ.hasText = true := Line.hasText_of_isTooDeep hd
      have hp (h : ∀ κ ∈ ℓs, κ.hasText = true → κ.stream = .errors) : ℓs.Pairwise fun ℓ κ ↦
          ℓ.isTooDeep = true → κ.hasText = true → κ.stream = .errors :=
        List.pairwise_iff_forall_sublist.mpr fun hκ _ ↦ h _ (hκ.subset (by simp))
      rw [List.filter_cons_of_pos hs, List.filter_cons_of_pos hs, List.cons.injEq]
      simp only [hd, true_and, true_imp_iff]
      refine ⟨fun h ↦ ?_, fun ⟨h, _⟩ ↦ ?_⟩
      · have hm (κ : Line) (hκ : κ ∈ ℓs) (hsκ : κ.hasText = true) : κ.stream = .errors := by
          have hf := List.mem_filter.mpr ⟨hκ, hsκ⟩
          rw [← h] at hf
          simpa using List.of_mem_filter (List.mem_of_mem_filter hf)
        exact ⟨hm, hp hm⟩
      · rw [List.filter_filter]
        exact List.filter_congr fun κ hκ ↦ by simpa using h κ hκ
    next hd =>
      simp only [hd, Bool.false_eq_true, false_imp_iff, implies_true, true_and, ← ih]
      by_cases hs : ℓ.hasText = true
      · rw [List.filter_cons_of_pos hs, List.filter_cons_of_pos hs, List.cons.injEq]
        simp
      · rw [List.filter_cons_of_neg hs, List.filter_cons_of_neg hs]

/-- Blank lines make no difference to what is made of lines that have text. -/
theorem filterMap_filter_hasText {α : Type} {f : Line → Option α}
    (hf : ∀ ℓ, ℓ.hasText = false → f ℓ = none) (ℓs : List Line) :
    (ℓs.filter Line.hasText).filterMap f = ℓs.filterMap f := by
  rw [List.filterMap_filter]
  refine List.filterMap_congr fun ℓ _ ↦ ?_
  split
  · rfl
  next h => exact (hf ℓ (by simpa using h)).symm

/-- So it is recorded. -/
theorem filterMap_record?_heard_iff :
    (heard ℓs).filterMap Line.record? = ℓs.filterMap Line.record? ↔
      (heard ℓs).filter Line.hasText = ℓs.filter Line.hasText := by
  have hr (ℓ : Line) (h : ℓ.hasText = false) : ℓ.record? = none := Line.record?_eq_none h
  have hl (ℓs : List Line) : (ℓs.filterMap Line.record?).length = (ℓs.filter Line.hasText).length := by
    rw [← filterMap_filter_hasText hr, List.length_filterMap_eq_countP, List.countP_eq_length]
    intro ℓ hℓ
    simpa [Line.record?, Line.hasText] using List.of_mem_filter hℓ
  refine ⟨fun h ↦ ((heard_sublist ℓs).filter _).eq_of_length ?_, fun h ↦ ?_⟩
  · rw [← hl, h, hl]
  · rw [← filterMap_filter_hasText hr, h, filterMap_filter_hasText hr]

/-- And what it says went wrong counts, if nothing later does. -/
theorem latest_heard (v : Value) (h : (heard ℓs).filter Line.hasText = ℓs.filter Line.hasText) :
    latest v (heard ℓs) = latest v ℓs := by
  have hc (ℓ : Line) (h : ℓ.hasText = false) : ℓ.complaint? = none := Line.complaint?_eq_none h
  rw [latest, ← filterMap_filter_hasText hc, h, filterMap_filter_hasText hc, latest]

end Heard

/-! ## Reading -/

namespace World

/-- The world in which a supervisor has heard some lines. -/
def hear (w : World) (s : Nat) (ℓs : List Line) : World :=
  ({ w with events := w.events ++ ℓs.filterMap Line.record? }).onSupervisor s fun σ ↦
    { σ with lastError := latest σ.lastError ℓs }

variable {s p : Nat} {w : World}

theorem onSupervisor_self (w : World) (s : Nat) : w.onSupervisor s (fun σ ↦ σ) = w := by
  have h : w.supervisors.modify s (fun σ ↦ σ) = w.supervisors := List.modify_id s w.supervisors
  rw [onSupervisor, h]

@[simp] theorem hear_nil (w : World) (s : Nat) : w.hear s [] = w := by
  simp [hear, latest, onSupervisor_self]

/-- Lines may be heard in two parts. -/
theorem hear_hear (w : World) (s : Nat) (ℓs κs : List Line) :
    (w.hear s ℓs).hear s κs = w.hear s (ℓs ++ κs) := by
  simp only [hear, onSupervisor, latest_append, List.filterMap_append, List.append_assoc,
    List.modify_modify_eq]
  rfl

/-- A line that is heard is recorded, and remembered if it complains. -/
theorem hear_singleton (w : World) (s : Nat) (ℓ : Line) : w.hear s [ℓ] =
    ({ w with events := w.events ++ ℓ.record?.toList }).onSupervisor s fun σ ↦
      { σ with lastError := ℓ.complaint?.getD σ.lastError } := by
  unfold hear latest
  cases hr : ℓ.record? <;> cases hc : ℓ.complaint? <;> simp [hr, hc]

/-- The reader of a stream goes on unless a line is nested too deep. -/
theorem readLine_eq (w : World) (s : Nat) (ℓ : Line) :
    w.readLine s ℓ.stream ℓ.bytes = (w.hear s [ℓ], !ℓ.isTooDeep) := by
  obtain ⟨σ, bs⟩ := ℓ
  rw [hear_singleton]
  unfold readLine
  cases ht : lineText? bs with
  | none =>
    cases σ <;> simp [ht, Line.record?, Line.complaint?, Line.isTooDeep, onSupervisor_self]
  | some l =>
    cases σ with
    | errors => simp [ht, Line.record?, Line.complaint?, Line.isTooDeep, log, emit]
    | output =>
      obtain ⟨hs, hd⟩ | ⟨φ, hs, hc, hd⟩ := structuredError_cases ht
      · cases hc : (⟨.output, bs⟩ : Line).complaint? with
        | none => simp [hs, hc, hd, ht, Line.record?, onSupervisor_self, log, emit]
        | some v => simp [hs, hc, hd, ht, Line.record?, log, emit]
      · simp [hs, hc, hd, ht, Line.record?, onSupervisor_self, log, emit]

/-- Of some lines on one stream, those are heard up to the first one that is nested too deep. -/
theorem readLines_eq (w : World) (s : Nat) {σ : Stream} {ℓs : List Line}
    (h : ∀ ℓ ∈ ℓs, ℓ.stream = σ) : w.readLines s σ (ℓs.map Line.bytes) =
      (w.hear s (heard ℓs), !ℓs.any Line.isTooDeep) := by
  induction ℓs generalizing w with
  | nil => simp [readLines, heard]
  | cons ℓ ℓs ih =>
    obtain rfl := h ℓ List.mem_cons_self
    have hs : ∀ κ ∈ ℓs, κ.stream = ℓ.stream := fun κ hκ ↦ h κ (List.mem_cons_of_mem _ hκ)
    rw [List.map_cons, readLines, readLine_eq, heard]
    cases hd : ℓ.isTooDeep with
    | true =>
      -- the rest is on the same stream, which is the standard output
      have hn : ℓs.filter (·.stream = .errors) = [] := by
        simp only [List.filter_eq_nil_iff, decide_eq_true_eq]
        exact fun κ hκ he ↦ by
          cases he.symm.trans ((hs κ hκ).trans (Line.stream_of_isTooDeep hd))
      simp [hd, hn]
    | false =>
      simp only [Bool.not_false, ih _ hs, hear_hear, List.any_cons, hd, Bool.false_or]
      rfl

end World

end Sluice.Proxy
