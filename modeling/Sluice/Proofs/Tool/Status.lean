import Mathlib.Data.List.Nodup
import Sluice.Gate.Call

/-!
# The table that a description is about

Columns and indexes are asked for by the table's name.  The metadata is taken from the first row
whose name is the table's up to letter case, so it is another table's wherever a row of such a name
comes before the table's own.
-/

namespace Sluice.Gate

open List Tool Value

variable {ρ : Row} {ρs : List Row} {n : List Char}

/-- A row on tables tells of the table of a name. -/
def TellsOf (ρ : Row) (n : List Char) : Prop := ρ.get? "Name" = some (.text (String.ofList n))

/-- Rows on tables: each of a name, and no two of the same. -/
structure AreStatuses (ρs : List Row) : Prop where
  named : ∀ ρ ∈ ρs, ∃ n, TellsOf ρ n
  distinct : (ρs.map (·.get? "Name")).Nodup

theorem statusName_of_tellsOf (h : TellsOf ρ n) : statusName ρ = Text.lower n := by
  rw [statusName, h]
  simp

theorem AreStatuses.nodup (h : AreStatuses ρs) : ρs.Nodup := h.distinct.of_map _

/-! ## Rows as they leave -/

theorem get?_toJson (ρ : Row) (k : String) :
    ρ.toJson.get? k = (ρ.get? k).map fun v ↦ (Cell.ofValue v).toJson := by
  induction ρ with
  | nil => rfl
  | cons f ρ ih =>
    obtain ⟨l, v⟩ := f
    by_cases h : k = l
    · simp [Row.toJson, Row.cells, Row.get?, h]
    · have h' : (k == l) = false := by simpa using h
      simpa [Row.toJson, Row.cells, Row.get?, lookup_cons, h'] using ih

theorem TellsOf.toJson (h : TellsOf ρ n) : TellsOf ρ.toJson n := by
  rw [TellsOf, get?_toJson, h]
  rfl

theorem statusName_toJson (h : ∃ n, TellsOf ρ n) : statusName ρ.toJson = statusName ρ := by
  obtain ⟨n, hn⟩ := h
  rw [statusName_of_tellsOf hn, statusName_of_tellsOf hn.toJson]

/-- The same row is found among the rows as they leave. -/
theorem findStatus?_rowsToJson (h : ∀ ρ ∈ ρs, ∃ n, TellsOf ρ n) :
    findStatus? (rowsToJson ρs) n = (findStatus? ρs n).map Row.toJson := by
  induction ρs with
  | nil => rfl
  | cons ρ ρs ih =>
    have hρ := statusName_toJson (h ρ mem_cons_self)
    have hρs := ih fun σ hσ ↦ h σ (mem_cons_of_mem _ hσ)
    unfold findStatus? rowsToJson at hρs ⊢
    rw [map_cons, find?_cons, find?_cons, hρ]
    cases statusName ρ == Text.lower n with
    | true => rfl
    | false => exact hρs

/-! ## The row that is found -/

/-- Where there is a row of the name up to letter case, such a row is found. -/
theorem exists_findStatus? (hρ : ρ ∈ ρs) (hname : statusName ρ = Text.lower n) :
    ∃ σ ∈ ρs, findStatus? ρs n = some σ ∧ statusName σ = Text.lower n := by
  have hsome : (findStatus? ρs n).isSome := by
    rw [findStatus?, find?_isSome]
    exact ⟨ρ, hρ, by simpa using hname⟩
  obtain ⟨σ, hσ⟩ := Option.isSome_iff_exists.1 hsome
  exact ⟨σ, mem_of_find?_eq_some hσ, hσ, by simpa using find?_some hσ⟩

theorem findStatus?_eq_some_iff {before after : List Row}
    (h : AreStatuses (before ++ ρ :: after)) (hn : TellsOf ρ n) :
    findStatus? (before ++ ρ :: after) n = some ρ ↔
      ∀ τ ∈ before, statusName τ ≠ Text.lower n := by
  constructor
  · intro hfound τ hτ hname
    -- the row that is found is among those before, where the row itself is not
    obtain ⟨σ, hmem, hσ, -⟩ := exists_findStatus? hτ hname
    have hσρ : σ = ρ := by
      rw [findStatus?, find?_append] at hfound
      rw [findStatus?] at hσ
      rw [hσ] at hfound
      exact Option.some.inj hfound
    have hdisjoint := (nodup_append.1 h.nodup).2.2
    exact hdisjoint ρ (hσρ ▸ hmem) ρ mem_cons_self rfl
  · intro hbefore
    have hnone : find? (fun σ ↦ statusName σ == Text.lower n) before = none := by
      simpa using hbefore
    rw [findStatus?, find?_append, hnone, Option.none_or, find?_cons_of_pos]
    simpa using statusName_of_tellsOf hn

/-- The metadata that a description shows. -/
def metadataIn : Value → Value
  | .record fs => Row.get fs "metadata"
  | _ => .null

theorem metadataIn_description {columns indexes : List Row} {v : Value}
    (h : ∀ ρ ∈ ρs, ∃ n, TellsOf ρ n) (hfound : findStatus? ρs n = some ρ)
    (hv : description (String.ofList n) columns indexes ρs = .ok v) :
    metadataIn v = metadataOf ρ.toJson := by
  unfold description at hv
  split at hv
  · cases hv
  · obtain rfl := Except.ok.inj hv
    have hmetadata : metadata? (rowsToJson ρs) n = some (metadataOf ρ.toJson) := by
      rw [metadata?, findStatus?_rowsToJson h, hfound]
      rfl
    simp [metadataIn, Row.get, Row.get?, lookup_cons, hmetadata]

/-- The metadata is taken from a row whose name is the table's up to letter case.  It is the table's
own row if none of those before it has such a name; whatever the order of the rows, if no other row
has one. -/
theorem description_takes (h : AreStatuses ρs) (hρ : ρ ∈ ρs) (hn : TellsOf ρ n) :
    (∃ σ ∈ ρs, findStatus? ρs n = some σ ∧ statusName σ = Text.lower n ∧
        ∀ columns indexes v, description (String.ofList n) columns indexes ρs = .ok v →
          metadataIn v = metadataOf σ.toJson) ∧
      (∀ before after, ρs = before ++ ρ :: after →
        (findStatus? ρs n = some ρ ↔ ∀ τ ∈ before, statusName τ ≠ Text.lower n)) ∧
      ((∀ σs : List Row, σs.Perm ρs → findStatus? σs n = some ρ) ↔
        ∀ τ ∈ ρs, statusName τ = Text.lower n → τ = ρ) := by
  refine ⟨?_, ?_, ?_⟩
  · obtain ⟨σ, hmem, hfound, hname⟩ := exists_findStatus? hρ (statusName_of_tellsOf hn)
    exact ⟨σ, hmem, hfound, hname, fun _ _ _ hv ↦ metadataIn_description h.named hfound hv⟩
  · rintro before after rfl
    exact findStatus?_eq_some_iff h hn
  · constructor
    · intro hall τ hτ hname
      -- an order in which the other row comes first
      have hperm : (τ :: ρs.erase τ).Perm ρs := (perm_cons_erase hτ).symm
      have hfirst : findStatus? (τ :: ρs.erase τ) n = some τ := by
        rw [findStatus?, find?_cons_of_pos (by simpa using hname)]
      exact Option.some.inj (hfirst.symm.trans (hall _ hperm))
    · intro honly σs hperm
      obtain ⟨σ, hmem, hfound, hname⟩ :=
        exists_findStatus? (hperm.mem_iff.2 hρ) (statusName_of_tellsOf hn)
      rw [hfound, honly σ (hperm.mem_iff.1 hmem) hname]

/-- Two tables of different names. -/
def apart : List Row :=
  [[("Name", .text "a_b"), ("Engine", .text "InnoDB")],
    [("Name", .text "a1b"), ("Engine", .text "MyISAM")]]

theorem areStatuses_apart : AreStatuses apart where
  named := by
    intro ρ hρ
    simp only [apart, mem_cons, not_mem_nil, or_false] at hρ
    rcases hρ with rfl | rfl
    · exact ⟨"a_b".toList, rfl⟩
    · exact ⟨"a1b".toList, rfl⟩
  distinct := by decide

theorem description_takes_apart :
    AreStatuses apart ∧ ∀ σs : List Row, σs.Perm apart → findStatus? σs "a_b".toList =
      some [("Name", .text "a_b"), ("Engine", .text "InnoDB")] := by
  refine ⟨areStatuses_apart, ?_⟩
  refine (description_takes areStatuses_apart mem_cons_self rfl).2.2.2 fun τ hτ hname ↦ ?_
  simp only [apart, mem_cons, not_mem_nil, or_false] at hτ
  rcases hτ with rfl | rfl
  · rfl
  · exact absurd hname (by decide)

/-- Two tables whose names differ in the case of a letter. -/
def twins : List Row :=
  [[("Name", .text "Users"), ("Engine", .text "MyISAM")],
    [("Name", .text "users"), ("Engine", .text "InnoDB")]]

theorem areStatuses_twins : AreStatuses twins where
  named := by
    intro ρ hρ
    simp only [twins, mem_cons, not_mem_nil, or_false] at hρ
    rcases hρ with rfl | rfl
    · exact ⟨"Users".toList, rfl⟩
    · exact ⟨"users".toList, rfl⟩
  distinct := by decide

/-- Asked about one of them, a description shows the metadata of the other. -/
theorem not_forall_metadata?_eq :
    ¬ ∀ (ρs : List Row) (ρ : Row) (n : List Char), AreStatuses ρs → ρ ∈ ρs → TellsOf ρ n →
      identifier n = n → n ≠ [] → metadata? ρs n = some (metadataOf ρ) := by
  intro h
  have hclaim := h twins _ "users".toList areStatuses_twins (mem_cons_of_mem _ mem_cons_self) rfl
    (by decide) (by decide)
  have hfound : metadata? twins "users".toList =
      some (metadataOf [("Name", .text "Users"), ("Engine", .text "MyISAM")]) := by
    decide
  rw [hfound] at hclaim
  exact absurd hclaim (by decide)

end Sluice.Gate
