import Sluice.Proofs.Json.Reading
import Sluice.Server.Reply

/-!
# Rows as a document

Rows leave as the data of a result, whose text is what the client reads.  NaN leaves as null, but an
infinite number leaves as it is.  So the text is JSON just when no cell is infinite, and then a
strict reader finds the rows again, with their columns in order (`reads_ofResult`).
-/

namespace Sluice.Server

open Decimal Json

variable {v : Value} {n : Nat} {fs : Row} {ρs : List Row}

/-! ## Cells and rows -/

/-- No cell is an infinite number. -/
def AllBounded (ρs : List Row) : Prop :=
  ∀ ρ ∈ ρs, ∀ f ∈ ρ, ∀ x, f.2 = .float x → x.isInfinite = false

/-- No cell is an integer that is longer than a reader takes it. -/
def AllShort (ρs : List Row) : Prop :=
  ∀ ρ ∈ ρs, ∀ f ∈ ρ, ∀ z, f.2 = .int z → digitCount z.natAbs ≤ maxDigits

/-- A cell leaves as a number that is not finite only if it is infinite. -/
theorem isStrict_toJson : isStrict (Cell.ofValue v).toJson = true ↔
    ∀ x, v = .float x → x.isInfinite = false := by
  cases v with
  | float x =>
    have hv : (Cell.ofValue (.float x)).toJson = if x.isNaN then .null else .float x := rfl
    rw [hv]
    cases hx : x.isNaN with
    | true =>
      have hi : x.isInfinite = false := by
        unfold Binary64.isNaN at hx
        unfold Binary64.isInfinite
        cases hview : x.view <;> simp_all
      exact ⟨fun _ y hy ↦ by cases hy; exact hi, fun _ ↦ rfl⟩
    | false =>
      rw [if_neg Bool.false_ne_true, isStrict, hx]
      constructor
      · rintro h y ⟨⟩
        simpa using h
      · intro h
        rw [h x rfl]
        rfl
  | _ => exact ⟨fun _ _ h ↦ (by cases h), fun _ ↦ rfl⟩

theorem legible_toJson (hx : ∀ x, v = .float x → x.isInfinite = false)
    (hz : ∀ z, v = .int z → digitCount z.natAbs ≤ maxDigits) :
    Legible n (Cell.ofValue v).toJson := by
  cases v with
  | null => exact .null
  | bool => exact .bool
  | int z => exact .int (hz z rfl)
  | float x =>
    have hv : (Cell.ofValue (.float x)).toJson = if x.isNaN then .null else .float x := rfl
    rw [hv]
    split
    · exact .null
    next hn => exact .float (Bool.eq_false_iff.mpr hn) (hx x rfl)
  | _ => exact .text

/-- What is said of every cell that leaves is said of every cell. -/
theorem forall_mem_toJson {ρ : Row} {P : String × Value → Prop} :
    (∀ f ∈ Row.toJson ρ, P f) ↔ ∀ f ∈ ρ, P (f.1, (Cell.ofValue f.2).toJson) := by
  rw [Row.toJson, Row.cells, List.map_map]
  exact List.forall_mem_map

theorem isStrict_rows :
    isStrict (.list ((rowsToJson ρs).map .record)) = true ↔ AllBounded ρs := by
  rw [isStrict, areStrict_iff, List.forall_mem_map, rowsToJson, List.forall_mem_map]
  refine forall₂_congr fun ρ _ ↦ ?_
  rw [isStrict, areStrictFields_iff, forall_mem_toJson]
  exact forall₂_congr fun f _ ↦ isStrict_toJson

theorem legible_rows (hx : AllBounded ρs) (hk : ∀ ρ ∈ ρs, (ρ.map Prod.fst).Nodup)
    (hz : AllShort ρs) :
    Legible (n + 2) (.list ((rowsToJson ρs).map .record)) := by
  refine .list (List.forall_mem_map.mpr (List.forall_mem_map.mpr fun ρ hρ ↦ .record ?_ ?_))
  · rw [Row.toJson_names]
    exact hk ρ hρ
  · exact forall_mem_toJson.mpr fun f hf ↦ legible_toJson (hx ρ hρ f hf) (hz ρ hρ f hf)

/-! ## Results -/

/-- A result whose data are rows.  Whatever else it holds, a reader takes it back. -/
structure HasRows (fs : Row) (ρs : List Row) : Prop where
  names : (fs.map Prod.fst).Nodup
  data : fs.get? "data" = some (.list ((rowsToJson ρs).map .record))
  others : ∀ f ∈ fs, f.1 ≠ "data" → Legible (maxDepth - 1) f.2

theorem isStrict_of_legible (h : Legible n v) : isStrict v = true := by
  induction h with
  | float hn hi => rw [isStrict, hn, hi]; rfl
  | list _ ih => rw [isStrict, areStrict_iff]; exact ih
  | record _ _ ih => rw [isStrict, areStrictFields_iff]; exact ih
  | _ => rfl

/-- Where all names differ, no field hides another one. -/
theorem get?_of_mem {f : String × Value} (hk : (fs.map Prod.fst).Nodup) (hf : f ∈ fs) :
    Row.get? fs f.1 = some f.2 := by
  induction fs with
  | nil => cases hf
  | cons g fs ih =>
    obtain ⟨hg, hk⟩ := List.nodup_cons.mp hk
    rw [Row.get?, List.lookup_cons]
    obtain rfl | hf := List.mem_cons.mp hf
    · rw [beq_self_eq_true]
    · have hne : f.1 ≠ g.1 := fun he ↦ hg (he ▸ List.mem_map_of_mem hf)
      rw [beq_eq_false_iff_ne.mpr hne]
      exact ih hk hf

/-- The fields of a result are its data and others. -/
theorem HasRows.forall_mem_iff (h : HasRows fs ρs) {P : Value → Prop}
    (hP : ∀ v, Legible (maxDepth - 1) v → P v) :
    (∀ f ∈ fs, P f.2) ↔ P (.list ((rowsToJson ρs).map .record)) := by
  constructor
  · intro hall
    obtain ⟨ls, rs, hfs, -⟩ := List.lookup_eq_some_iff.mp h.data
    exact hall _ (hfs ▸ List.mem_append_right ls List.mem_cons_self)
  · intro hdata f hf
    by_cases hname : f.1 = "data"
    · have hv := get?_of_mem h.names hf
      rw [hname, h.data] at hv
      exact Option.some.inj hv ▸ hdata
    · exact hP f.2 (h.others f hf hname)

/-! ## What is read again -/

variable {w : Value}

theorem exists_of_echoes_list {vs : List Value} (h : Echoes (.list vs) w) :
    ∃ ws, w = .list ws ∧ List.Forall₂ Echoes vs ws := by
  cases h with
  | same => exact ⟨vs, rfl, List.forall₂_same.mpr fun _ _ ↦ .same⟩
  | list h => exact ⟨_, rfl, h⟩

theorem exists_of_echoes_record (h : Echoes (.record fs) w) :
    ∃ gs : Row, w = .record gs ∧ gs.map Prod.fst = fs.map Prod.fst ∧
      List.Forall₂ Echoes (fs.map Prod.snd) (gs.map Prod.snd) := by
  cases h with
  | same => exact ⟨fs, rfl, rfl, List.forall₂_same.mpr fun _ _ ↦ .same⟩
  | record hk h => exact ⟨_, rfl, hk, h⟩

/-- What stands under a name comes back under it. -/
theorem exists_get?_of_echoes {gs : Row} (hk : gs.map Prod.fst = fs.map Prod.fst)
    (h : List.Forall₂ Echoes (fs.map Prod.snd) (gs.map Prod.snd)) {k : String}
    (hv : Row.get? fs k = some v) : ∃ w, Row.get? gs k = some w ∧ Echoes v w := by
  induction fs generalizing gs with
  | nil => cases hv
  | cons f fs ih =>
    cases gs with
    | nil => cases hk
    | cons g gs =>
      obtain ⟨l, u⟩ := f
      obtain ⟨m, w⟩ := g
      obtain ⟨rfl, hks⟩ := List.cons.inj hk
      obtain ⟨he, hes⟩ := List.forall₂_cons.mp h
      rw [Row.get?, List.lookup_cons] at hv ⊢
      cases hkm : k == m with
      | true =>
        rw [hkm] at hv
        cases hv
        exact ⟨w, rfl, he⟩
      | false =>
        rw [hkm] at hv
        exact ih hks hes hv

/-- Rows come back as rows with the same columns. -/
theorem exists_rows_of_echoes {ws : List Value}
    (h : List.Forall₂ Echoes (ρs.map .record) ws) : ∃ σs : List Row,
      ws = σs.map .record ∧ σs.map (·.map Prod.fst) = ρs.map (·.map Prod.fst) := by
  induction ρs generalizing ws with
  | nil =>
    cases h
    exact ⟨[], rfl, rfl⟩
  | cons ρ ρs ih =>
    obtain ⟨w, ws, he, hes, rfl⟩ := List.forall₂_cons_left_iff.mp h
    obtain ⟨σ, rfl, hk, -⟩ := exists_of_echoes_record he
    obtain ⟨σs, rfl, hks⟩ := ih hes
    exact ⟨σ :: σs, rfl, by rw [List.map_cons, hk, hks, List.map_cons]⟩

/-- A strict reader finds rows in the data of a text: as many as there were, each with the columns
that it had and in their order, and with their values but for the floating point numbers. -/
def ReadsRows (s : List Char) (ρs : List Row) : Prop :=
  ∃ (fs : Row) (σs : List Row), Json.read true s = .ok (.record fs) ∧
    fs.get? "data" = some (.list (σs.map .record)) ∧ σs.length = ρs.length ∧
    σs.map (·.map Prod.fst) = ρs.map (·.map Prod.fst) ∧
    Echoes (.list ((rowsToJson ρs).map .record)) (.list (σs.map .record))

/-- The text of a result whose data are rows is JSON just when no cell is infinite, and then a
strict reader finds the rows in it. -/
theorem reads_ofResult (h : HasRows fs ρs) (hk : ∀ ρ ∈ ρs, (ρ.map Prod.fst).Nodup)
    (hz : AllShort ρs) :
    (IsJson (ToolReply.ofResult (.record fs)).text.toList ↔ AllBounded ρs) ∧
      (AllBounded ρs → ReadsRows (ToolReply.ofResult (.record fs)).text.toList ρs) := by
  have ht : (ToolReply.ofResult (.record fs)).text.toList = write (.record fs) :=
    String.toList_ofList
  rw [ht, isJson_write_iff]
  constructor
  · rw [isStrict, areStrictFields_iff, h.forall_mem_iff fun v ↦ isStrict_of_legible, isStrict_rows]
  · intro hx
    have hl : Legible maxDepth (.record fs) := .record h.names <|
      (h.forall_mem_iff fun v ↦ id).mpr (legible_rows (n := 977) hx hk hz)
    obtain ⟨w, hw, he⟩ := read_write hl
    obtain ⟨gs, rfl, hks, hes⟩ := exists_of_echoes_record he
    obtain ⟨u, hu, heu⟩ := exists_get?_of_echoes hks hes h.data
    obtain ⟨ws, rfl, hws⟩ := exists_of_echoes_list heu
    obtain ⟨σs, rfl, hσs⟩ := exists_rows_of_echoes hws
    refine ⟨gs, σs, hw, hu, ?_, ?_, heu⟩
    · have hlen := hws.length_eq
      rw [List.length_map, List.length_map, length_rowsToJson] at hlen
      exact hlen.symm
    · rw [hσs, rowsToJson, List.map_map]
      exact List.map_congr_left fun ρ _ ↦ Row.toJson_names ρ

/-! ## The rows of a query -/

/-- What a query answers is a result whose data are its rows. -/
theorem exists_hasRows {τ : Gate.Table} {time : Value} (ht : Legible (maxDepth - 1) time)
    (hn : digitCount τ.rows.length ≤ maxDigits) (appliedLimit : Option Int) :
    ∃ fs, Gate.rowsResult τ appliedLimit time = .record fs ∧ HasRows fs τ.rows := by
  have hnames : ["success", "data", "columns", "row_count", "truncated", "execution_time_ms",
      "message"].Nodup := by decide
  refine ⟨_, rfl, hnames, rfl, fun f hf hdata ↦ ?_⟩
  simp only [List.mem_cons, List.not_mem_nil, or_false] at hf
  obtain rfl | rfl | rfl | rfl | rfl | rfl | rfl := hf
  · exact .bool
  · exact absurd rfl hdata
  · exact .list (n := 978) (List.forall_mem_map.mpr fun _ _ ↦ .text)
  · exact .int hn
  · exact .bool
  · exact ht
  · exact .text

/-- Two rows of two columns, where a text and a name have to be escaped and one number is none. -/
def sample : Gate.Table where
  columns := ["id", "a\"b"]
  rows := [[("id", .int 7), ("a\"b", .text "x\ny")],
    [("id", .float ⟨0x7FF8000000000000⟩), ("a\"b", .bytes [0, 255])]]

theorem reads_ofResult_sample : ∃ fs, Gate.rowsResult sample none (.int 3) = .record fs ∧
    HasRows fs sample.rows ∧ (∀ ρ ∈ sample.rows, (ρ.map Prod.fst).Nodup) ∧
    AllShort sample.rows ∧ IsJson (ToolReply.ofResult (.record fs)).text.toList ∧
    ReadsRows (ToolReply.ofResult (.record fs)).text.toList sample.rows := by
  obtain ⟨fs, hfs, h⟩ := exists_hasRows (τ := sample) (.int (by decide) : Legible _ (.int 3))
    (by decide) none
  have hk : ∀ ρ ∈ sample.rows, (ρ.map Prod.fst).Nodup := by decide
  have hcell (f : String × Value) (hf : f ∈ sample.rows.flatten) :
      (∀ z, f.2 = .int z → digitCount z.natAbs ≤ maxDigits) ∧
        ∀ x, f.2 = .float x → x.isInfinite = false := by
    simp only [sample, List.flatten_cons, List.flatten_nil, List.append_nil, List.cons_append,
      List.nil_append, List.mem_cons, List.not_mem_nil, or_false] at hf
    obtain rfl | rfl | rfl | rfl := hf <;> constructor <;> intro a ha <;> cases ha <;> decide
  have hz : AllShort sample.rows := fun ρ hρ f hf ↦ (hcell f (List.mem_flatten_of_mem hρ hf)).1
  have hx : AllBounded sample.rows := fun ρ hρ f hf ↦ (hcell f (List.mem_flatten_of_mem hρ hf)).2
  obtain ⟨hjson, hreads⟩ := reads_ofResult h hk hz
  exact ⟨fs, hfs, h, hk, hz, hjson.mpr hx, hreads hx⟩

/-- A cell that is infinite. -/
def unbounded : Gate.Table where
  columns := ["x"]
  rows := [[("x", .float ⟨0x7FF0000000000000⟩)]]

/-- Not all results whose data are rows have a text that is JSON. -/
theorem not_forall_isJson_ofResult : ¬ ∀ (fs : Row) (ρs : List Row), HasRows fs ρs →
    (∀ ρ ∈ ρs, (ρ.map Prod.fst).Nodup) →
    AllShort ρs → IsJson (ToolReply.ofResult (.record fs)).text.toList := by
  intro hall
  obtain ⟨fs, hfs, h⟩ := exists_hasRows (τ := unbounded) (.int (by decide) : Legible _ (.int 0))
    (by decide) none
  have hz : AllShort unbounded.rows := by
    intro ρ hρ f hf z hz
    cases List.mem_singleton.mp hρ
    cases List.mem_singleton.mp hf
    cases hz
  have hjson := hall fs unbounded.rows h (by decide) hz
  have ht : (ToolReply.ofResult (.record fs)).text.toList = write (.record fs) :=
    String.toList_ofList
  rw [ht, isJson_write_iff, ← hfs] at hjson
  exact absurd hjson (by decide)

end Sluice.Server
