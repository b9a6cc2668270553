import Mathlib.Data.List.Forall2
import Mathlib.Data.List.Induction
import Mathlib.Data.List.Nodup
import Sluice.Tool.Schema

/-!
# Rows on indexes, grouped

The rows of one name become one entry, whatever rows of other names stand between them.  The
invariant of the loop is that the entries found so far are those of the rows read so far
(`foldlM_addIndexRow`); a row adds to one of them, or one more, and touches no other.
-/

namespace Sluice.Tool

open List Value

variable {ρ : Row} {ρs σs : List Row} {κ μ : Option String} {ι : Index}

/-! ## Rows as a server gives them -/

/-- A text, or nothing. -/
inductive IsName : Value → Prop
  | null : IsName .null
  | text (s : String) : IsName (.text s)

/-- An integer, of which a truth value is one, or nothing. -/
inductive IsNumeral : Value → Prop
  | null : IsNumeral .null
  | bool (b : Bool) : IsNumeral (.bool b)
  | int (z : Int) : IsNumeral (.int z)

/-- A row on an index: of some name, at some place, and with a flag against duplicates. -/
structure IsIndexRow (ρ : Row) : Prop where
  name : IsName (ρ.get "Key_name")
  place : IsNumeral (ρ.get "Seq_in_index")
  flag : IsNumeral (ρ.get "Non_unique")

/-- What a numeral counts as. -/
def numeral : Value → Int
  | .int z => z
  | .bool b => if b then 1 else 0
  | _ => 0

def nameValue : Option String → Value
  | none => .null
  | some s => .text s

/-- The name of a row's index. -/
def keyOf (ρ : Row) : Option String :=
  match ρ.get "Key_name" with
  | .text s => some s
  | _ => none

/-- The place of a column in its index. -/
def IndexColumn.number (γ : IndexColumn) : Int := numeral γ.sequence

/-- The place of a row's column in its index. -/
def placeOf (ρ : Row) : Int := numeral (ρ.get "Seq_in_index")

/-- The flag of a row against an index without duplicates. -/
def flagOf (ρ : Row) : Int := numeral (ρ.get "Non_unique")

/-- The rows on one index. -/
def rowsOf (κ : Option String) (ρs : List Row) : List Row := ρs.filter (keyOf · = κ)

/-- The names of the indexes, in order of first appearance. -/
def keys (ρs : List Row) : List (Option String) := (ρs.map keyOf).eraseDups

/-- A name is the value of its key. -/
theorem IsName.eq_nameValue (h : IsName (ρ.get "Key_name")) :
    ρ.get "Key_name" = nameValue (keyOf ρ) := by
  unfold keyOf
  generalize ρ.get "Key_name" = v at h
  cases h <;> rfl

@[simp] theorem canBeKey_nameValue : (nameValue κ).canBeKey = true := by cases κ <;> rfl

@[simp] theorem sameKey_nameValue : sameKey (nameValue κ) (nameValue μ) = decide (κ = μ) := by
  rw [Bool.eq_iff_iff]
  cases κ <;> cases μ <;> simp [sameKey, nameValue, isNumber]

/-- Whether an index is unique is told by a flag that is zero then. -/
theorem isUnique_eq (h : IsNumeral (ρ.get "Non_unique")) : isUnique ρ = .ok (flagOf ρ == 0) := by
  unfold isUnique flagOf
  generalize ρ.get "Non_unique" = v at h
  cases h with
  | null => rfl
  | bool b => cases b <;> rfl
  | int z => by_cases hz : z = 0 <;> simp [isTruthy, toInteger, numeral, hz]

/-- The place of a column in its index is a number. -/
theorem IsNumeral.extended?_place {γ : IndexColumn} (h : IsNumeral γ.sequence) :
    γ.place.isNumber = true ∧ γ.place.extended? = some (.at γ.number 1) := by
  unfold IndexColumn.place IndexColumn.number
  generalize γ.sequence = v at h
  cases h with
  | null => exact ⟨rfl, rfl⟩
  | bool b => cases b <;> exact ⟨rfl, rfl⟩
  | int z => by_cases hz : z = 0 <;> simp [isTruthy, numeral, isNumber, extended?, hz]

/-- Columns are compared by their numbers. -/
theorem lt?_place {γ δ : IndexColumn} (hγ : IsNumeral γ.sequence) (hδ : IsNumeral δ.sequence) :
    lt? γ.place δ.place = some (decide (γ.number < δ.number)) := by
  obtain ⟨hn, he⟩ := hγ.extended?_place
  obtain ⟨hn', he'⟩ := hδ.extended?_place
  generalize γ.place = v at hn he
  generalize δ.place = w at hn' he'
  cases v <;> simp only [isNumber, Bool.false_eq_true] at hn <;>
    cases w <;> simp only [isNumber, Bool.false_eq_true] at hn' <;>
    simp [lt?, isNumber, he, he', Extended.lt]

/-! ## Names -/

/-- A key is one of some rows'. -/
theorem mem_keys : κ ∈ keys ρs ↔ ∃ ρ ∈ ρs, keyOf ρ = κ := by
  simp [keys, mem_eraseDups]

/-- A row brings its key along unless that is known. -/
theorem keys_concat (ρs : List Row) (ρ : Row) :
    keys (ρs ++ [ρ]) = keys ρs ++ if keyOf ρ ∈ keys ρs then [] else [keyOf ρ] := by
  simp only [keys, map_append, eraseDups_append, map_cons, map_nil, mem_eraseDups, removeAll,
    filter_cons, filter_nil, elem_eq_mem, Bool.not_eq_true', decide_eq_false_iff_not]
  by_cases h : keyOf ρ ∈ ρs.map keyOf
  · simp only [h, not_true_eq_false, if_true, if_false, eraseDups_nil]
  · simp only [h, not_false_eq_true, if_true, if_false, eraseDups_cons, filter_nil, eraseDups_nil]

/-- Every key counts once. -/
theorem nodup_keys (ρs : List Row) : (keys ρs).Nodup := by
  induction ρs using reverseRecOn with
  | nil => exact nodup_nil
  | append_singleton ρs ρ ih =>
    rw [keys_concat]
    split
    · simpa using ih
    · next h => simpa using ih.concat h

/-- The keys do not depend on the order of the rows, except for theirs. -/
theorem keys_perm (hp : σs.Perm ρs) : (keys σs).Perm (keys ρs) :=
  (perm_ext_iff_of_nodup (nodup_keys σs) (nodup_keys ρs)).2 fun κ ↦ by
    simp [mem_keys, hp.mem_iff]

@[simp] theorem rowsOf_concat_self : rowsOf (keyOf ρ) (ρs ++ [ρ]) = rowsOf (keyOf ρ) ρs ++ [ρ] := by
  simp [rowsOf]

/-- A row of another key makes no difference to the rows of a key. -/
theorem rowsOf_concat_of_ne (h : keyOf ρ ≠ κ) : rowsOf κ (ρs ++ [ρ]) = rowsOf κ ρs := by
  simp [rowsOf, h]

/-- A key that no row has has no rows. -/
theorem rowsOf_eq_nil (h : κ ∉ keys ρs) : rowsOf κ ρs = [] := by
  simp only [rowsOf, filter_eq_nil_iff, decide_eq_true_eq]
  exact fun ρ hρ hκ ↦ h (mem_keys.2 ⟨ρ, hρ, hκ⟩)

/-! ## The loop over the rows -/

/-- An entry with one column more. -/
def Index.add (ι : Index) (γ : IndexColumn) : Index := { ι with columns := ι.columns ++ [γ] }

/-- The entry of a name before its columns are sorted. -/
def collected (ρs : List Row) (κ : Option String) : Index where
  name := nameValue κ
  unique := ((rowsOf κ ρs).head?.map flagOf).getD 0 == 0
  columns := (rowsOf κ ρs).map indexColumnOf

/-- A row of another index makes no difference to what was collected. -/
theorem collected_concat_of_ne (h : keyOf ρ ≠ κ) : collected (ρs ++ [ρ]) κ = collected ρs κ := by
  simp [collected, rowsOf_concat_of_ne h]

/-- A row of a name that is there adds its column to the entry of that name. -/
theorem collected_concat_self (h : keyOf ρ ∈ keys ρs) :
    collected (ρs ++ [ρ]) (keyOf ρ) =
      (collected ρs (keyOf ρ)).add (indexColumnOf ρ) := by
  obtain ⟨σ, hσ, hk⟩ := mem_keys.1 h
  have hne : rowsOf (keyOf ρ) ρs ≠ [] :=
    ne_nil_of_mem (mem_filter.2 ⟨hσ, by simpa using hk⟩)
  simp [Index.add, collected, head?_append_of_ne_nil _ hne]

/-- A row of a new name is an entry of its own. -/
theorem collected_concat_new (h : keyOf ρ ∉ keys ρs) :
    collected (ρs ++ [ρ]) (keyOf ρ) =
      ⟨nameValue (keyOf ρ), flagOf ρ == 0, [indexColumnOf ρ]⟩ := by
  simp [collected, rowsOf_eq_nil h]

/-- Among entries of distinct names, only the one of the given name gets the column. -/
theorem addToIndex_map {f : Option String → Index} (hf : ∀ μ, (f μ).name = nameValue μ)
    (γ : IndexColumn) {κs : List (Option String)} (hn : κs.Nodup) :
    addToIndex (nameValue κ) γ (κs.map f) =
      κs.map fun μ ↦ if μ = κ then (f μ).add γ else f μ := by
  induction κs with
  | nil => rfl
  | cons μ κs ih =>
    rw [nodup_cons] at hn
    by_cases h : μ = κ
    · subst h
      have hrest : ∀ ν ∈ κs, ν ≠ μ := fun ν hν h ↦ hn.1 (h ▸ hν)
      simp only [map_cons, addToIndex, hf, sameKey_nameValue, decide_true, if_true, cons.injEq,
        Index.add, true_and]
      exact map_congr_left fun ν hν ↦ (if_neg (hrest ν hν)).symm
    · simp [addToIndex, hf, h, ih hn.2]

/-- What one row does to the entries of the rows before it. -/
theorem addIndexRow_collected (h : IsIndexRow ρ) :
    addIndexRow ((keys ρs).map (collected ρs)) ρ =
      .ok ((keys (ρs ++ [ρ])).map (collected (ρs ++ [ρ]))) := by
  have hname := h.name.eq_nameValue
  have hany : ((keys ρs).map (collected ρs)).any (sameKey ·.name (nameValue (keyOf ρ))) =
      decide (keyOf ρ ∈ keys ρs) := by
    rw [Bool.eq_iff_iff]
    simp [collected]
  by_cases hk : keyOf ρ ∈ keys ρs
  · have hadd := addToIndex_map (f := collected ρs) (κ := keyOf ρ) (fun _ ↦ rfl) (indexColumnOf ρ)
      (nodup_keys ρs)
    have hmap : ∀ μ ∈ keys ρs, (if μ = keyOf ρ then (collected ρs μ).add (indexColumnOf ρ)
        else collected ρs μ) = collected (ρs ++ [ρ]) μ := by
      intro μ _
      by_cases hμ : μ = keyOf ρ
      · rw [if_pos hμ, hμ, collected_concat_self hk]
      · rw [if_neg hμ, collected_concat_of_ne (Ne.symm hμ)]
    have hkeys : keys (ρs ++ [ρ]) = keys ρs := by simp [keys_concat, hk]
    rw [hkeys, ← map_congr_left hmap, ← hadd]
    simp [addIndexRow, hname, hany, hk, pure, Except.pure]
  · have hold : ∀ μ ∈ keys ρs, collected ρs μ = collected (ρs ++ [ρ]) μ :=
      fun μ hμ ↦ (collected_concat_of_ne fun h ↦ hk (h ▸ hμ)).symm
    have hkeys : keys (ρs ++ [ρ]) = keys ρs ++ [keyOf ρ] := by simp [keys_concat, hk]
    rw [hkeys, map_append, ← map_congr_left hold, map_singleton, collected_concat_new hk]
    simp [addIndexRow, hname, hany, hk, isUnique_eq h.flag]

/-- The entries found so far are those of the rows read so far. -/
theorem foldlM_addIndexRow (h : ∀ ρ ∈ ρs, IsIndexRow ρ) :
    ρs.foldlM addIndexRow [] = .ok ((keys ρs).map (collected ρs)) := by
  induction ρs using reverseRecOn with
  | nil => rfl
  | append_singleton ρs ρ ih =>
    have hrows : ρs.foldlM addIndexRow [] = .ok ((keys ρs).map (collected ρs)) :=
      ih fun σ hσ ↦ h σ (mem_append_left _ hσ)
    have hrow : IsIndexRow ρ := h ρ (by simp)
    rw [foldlM_append, hrows]
    show (addIndexRow _ ρ >>= fun ιs ↦ pure ιs) = _
    rw [addIndexRow_collected hrow]
    rfl

/-! ## The order within an entry -/

/-- Columns by place, those of one place in the order they came in. -/
def sorted (γs : List IndexColumn) : List IndexColumn := γs.mergeSort (·.number ≤ ·.number)

section Sorted

variable {γs δs : List IndexColumn}

theorem perm_sorted (γs : List IndexColumn) : (sorted γs).Perm γs := mergeSort_perm γs _

/-- Sorted columns come in the order of their numbers. -/
theorem pairwise_sorted (γs : List IndexColumn) :
    (sorted γs).Pairwise (·.number ≤ ·.number) := by
  have h : (sorted γs).Pairwise fun γ δ ↦ decide (γ.number ≤ δ.number) = true :=
    pairwise_mergeSort (fun _ _ _ ↦ by simpa using Int.le_trans)
      (fun _ _ ↦ by simpa using Int.le_total _ _) γs
  simpa using h

/-- Columns of one number keep their order. -/
theorem filter_sorted (z : Int) (γs : List IndexColumn) :
    (sorted γs).filter (·.number = z) = γs.filter (·.number = z) := by
  have hle : (γs.filter (·.number = z)).Pairwise
      fun γ δ ↦ decide (γ.number ≤ δ.number) = true :=
    pairwise_of_forall_mem_list fun γ hγ δ hδ ↦ by
      have hz := of_decide_eq_true (mem_filter.1 hγ).2
      have hz' := of_decide_eq_true (mem_filter.1 hδ).2
      simp [hz, hz']
  -- equal places are in order, so they keep their order, and no other column has that place
  have hsub : γs.filter (·.number = z) <+ sorted γs :=
    sublist_mergeSort (fun _ _ _ ↦ by simpa using Int.le_trans)
      (fun _ _ ↦ by simpa using Int.le_total _ _) hle filter_sublist
  have hsub' := hsub.filter (·.number = z)
  rw [filter_filter] at hsub'
  simp only [Bool.and_self] at hsub'
  exact (hsub'.eq_of_length ((perm_sorted γs).filter _).length_eq.symm).symm

/-- Where places are distinct, the order in which columns come does not matter. -/
theorem sorted_eq_of_perm (hn : (γs.map IndexColumn.number).Nodup) (h : δs.Perm γs) :
    sorted δs = sorted γs := by
  have hp : (sorted δs).Perm (sorted γs) := (perm_sorted δs).trans (h.trans (perm_sorted γs).symm)
  refine hp.eq_of_pairwise (fun γ δ hγ hδ hle hge ↦ ?_) (pairwise_sorted δs) (pairwise_sorted γs)
  have hγ' : γ ∈ γs := ((perm_sorted δs).trans h).mem_iff.1 hγ
  have hδ' : δ ∈ γs := (perm_sorted γs).mem_iff.1 hδ
  exact inj_on_of_nodup_map hn hγ' hδ' (Int.le_antisymm hle hge)

/-- Values that can all be compared do not clash. -/
theorem firstClash?_go_eq_none {vs before : List Value}
    (h : ∀ v ∈ before ++ vs, ∀ w ∈ before ++ vs, comparable v w = true) :
    firstClash?.go before vs = none := by
  induction vs generalizing before with
  | nil => rfl
  | cons v vs ih =>
    have hrest := @ih (before ++ [v]) (by simpa using h)
    cases before with
    | nil => exact hrest
    | cons w ws =>
      have hvw : comparable v w = true := h v (by simp) w (by simp)
      simpa [firstClash?.go, hvw] using hrest

/-- Columns with numbers are sorted, and this does not fail. -/
theorem sortColumns_eq (h : ∀ γ ∈ γs, IsNumeral γ.sequence) : sortColumns γs = .ok (sorted γs) := by
  have hclash : firstClash? (γs.map IndexColumn.place) = none := by
    refine firstClash?_go_eq_none fun v hv w hw ↦ ?_
    obtain ⟨γ, hγ, rfl⟩ := mem_map.1 hv
    obtain ⟨δ, hδ, rfl⟩ := mem_map.1 hw
    simp [comparable, lt?_place (h γ hγ) (h δ hδ)]
  have hle : ∀ γ ∈ γs, ∀ δ ∈ γs, placeLe γ.place δ.place = decide (γ.number ≤ δ.number) := by
    intro γ hγ δ hδ
    rw [Bool.eq_iff_iff]
    simp [placeLe, lt?_place (h δ hδ) (h γ hγ)]
  have hsort : γs.mergeSort (fun γ δ ↦ placeLe γ.place δ.place) = sorted γs := by
    simpa [sorted] using map_mergeSort (f := id) hle
  rw [sortColumns, hclash, hsort]

end Sorted

/-! ## The entries -/

/-- The entry of a name. -/
def entryOf (ρs : List Row) (κ : Option String) : Index :=
  { collected ρs κ with columns := sorted (collected ρs κ).columns }

/-- The rows of indexes are grouped into one entry for each key. -/
theorem groupIndexes_eq (h : ∀ ρ ∈ ρs, IsIndexRow ρ) :
    groupIndexes ρs = .ok ((keys ρs).map (entryOf ρs)) := by
  have hsort : ∀ κ, sortColumns (collected ρs κ).columns = .ok (sorted (collected ρs κ).columns) := by
    refine fun κ ↦ sortColumns_eq fun γ hγ ↦ ?_
    obtain ⟨ρ, hρ, rfl⟩ := mem_map.1 hγ
    exact (h ρ (mem_filter.1 hρ).1).place
  have hentry : (fun ι : Index ↦ do
      return { ι with columns := ← sortColumns ι.columns : Index }) ∘ collected ρs =
      fun κ ↦ (pure (entryOf ρs κ) : Except IndexError Index) := by
    funext κ
    simp only [Function.comp_apply, hsort κ]
    rfl
  rw [groupIndexes, foldlM_addIndexRow h]
  show ((keys ρs).map (collected ρs)).mapM _ = _
  rw [mapM_map, hentry, mapM_pure]
  rfl

/-- An entry as it follows from the rows of its name. -/
structure IsEntry (ρs : List Row) (κ : Option String) (ι : Index) : Prop where
  name : ι.name = nameValue κ
  unique : ∃ ρ, (rowsOf κ ρs).head? = some ρ ∧ (ι.unique = true ↔ flagOf ρ = 0)
  perm : ι.columns.Perm ((rowsOf κ ρs).map indexColumnOf)
  order : ι.columns.Pairwise (·.number ≤ ·.number)
  stable : ∀ z, ι.columns.filter (·.number = z) =
    ((rowsOf κ ρs).map indexColumnOf).filter (·.number = z)

/-- The entry of a key is what the rows of that key say. -/
theorem isEntry_entryOf (h : κ ∈ keys ρs) : IsEntry ρs κ (entryOf ρs κ) where
  name := rfl
  unique := by
    obtain ⟨ρ, hρ, hk⟩ := mem_keys.1 h
    have hne : rowsOf κ ρs ≠ [] := ne_nil_of_mem (mem_filter.2 ⟨hρ, by simpa using hk⟩)
    refine ⟨(rowsOf κ ρs).head hne, head?_eq_some_head hne, ?_⟩
    simp [entryOf, collected, head?_eq_some_head hne]
  perm := perm_sorted _
  order := pairwise_sorted _
  stable z := filter_sorted z _

/-- The places of an index are distinct, and its rows agree on whether it admits duplicates. -/
structure IsSteady (ρs : List Row) : Prop where
  place : ∀ κ ∈ keys ρs, ((rowsOf κ ρs).map placeOf).Nodup
  flag : ∀ ρ ∈ ρs, ∀ σ ∈ ρs, keyOf ρ = keyOf σ → flagOf ρ = flagOf σ

/-- The entry of a key is the same for any order of steady rows. -/
theorem entryOf_eq_of_perm (h : IsSteady ρs) (hp : σs.Perm ρs) (hκ : κ ∈ keys ρs) :
    entryOf σs κ = entryOf ρs κ := by
  have hrows : (rowsOf κ σs).Perm (rowsOf κ ρs) := hp.filter _
  have hsort : sorted ((rowsOf κ σs).map indexColumnOf) =
      sorted ((rowsOf κ ρs).map indexColumnOf) := by
    refine sorted_eq_of_perm ?_ (hrows.map indexColumnOf)
    rw [map_map]
    exact h.place κ hκ
  obtain ⟨ρ, hρ, -⟩ := (isEntry_entryOf hκ).unique
  obtain ⟨σ, hσ, -⟩ := (isEntry_entryOf ((keys_perm hp).mem_iff.2 hκ)).unique
  have hρm := mem_filter.1 (mem_of_mem_head? hρ)
  have hσm := mem_filter.1 (hrows.mem_iff.1 (mem_of_mem_head? hσ))
  have hflag : flagOf σ = flagOf ρ :=
    h.flag σ hσm.1 ρ hρm.1 ((of_decide_eq_true hσm.2).trans (of_decide_eq_true hρm.2).symm)
  simp only [entryOf, collected, hsort, hρ, hσ, Option.map_some, hflag]

/-- There is one entry for each name, in order of first appearance: its columns are those of the
rows of that name by place, and its first row tells whether it admits duplicates.  If places are
distinct, the order of the rows decides about no more than the order of the entries. -/
theorem groupIndexes_entries (h : ∀ ρ ∈ ρs, IsIndexRow ρ) :
    ∃ ιs, groupIndexes ρs = .ok ιs ∧ Forall₂ (IsEntry ρs) (keys ρs) ιs ∧
      (IsSteady ρs → ∀ σs : List Row, σs.Perm ρs →
        ∃ κs, groupIndexes σs = .ok κs ∧ κs.Perm ιs) := by
  refine ⟨(keys ρs).map (entryOf ρs), groupIndexes_eq h, ?_, fun hs σs hp ↦ ?_⟩
  · rw [forall₂_map_right_iff]
    exact forall₂_same.2 fun κ hκ ↦ isEntry_entryOf hκ
  · refine ⟨_, groupIndexes_eq fun σ hσ ↦ h σ (hp.mem_iff.1 hσ), ?_⟩
    have hsame : ∀ κ ∈ keys σs, entryOf σs κ = entryOf ρs κ :=
      fun κ hκ ↦ entryOf_eq_of_perm hs hp ((keys_perm hp).mem_iff.1 hκ)
    rw [map_congr_left hsame]
    exact (keys_perm hp).map _

/-- Two indexes, of which one has a row before and a row after the other. -/
def alternating : List Row :=
  [[("Key_name", .text "by_name"), ("Seq_in_index", .int 2), ("Non_unique", .int 1),
      ("Column_name", .text "first")],
    [("Key_name", .text "PRIMARY"), ("Seq_in_index", .int 1), ("Non_unique", .int 0),
      ("Column_name", .text "id")],
    [("Key_name", .text "by_name"), ("Seq_in_index", .null), ("Non_unique", .int 1),
      ("Column_name", .text "last")]]

/-- The rows of the example are rows of indexes. -/
theorem isIndexRow_alternating : ∀ ρ ∈ alternating, IsIndexRow ρ := by
  intro ρ hρ
  simp only [alternating, mem_cons, not_mem_nil, or_false] at hρ
  rcases hρ with rfl | rfl | rfl
  · exact ⟨.text _, .int _, .int _⟩
  · exact ⟨.text _, .int _, .int _⟩
  · exact ⟨.text _, .null, .int _⟩

/-- The keys of the example come as they first appear. -/
theorem keys_alternating : keys alternating = [some "by_name", some "PRIMARY"] := by decide

/-- The rows of the example say the same of one index. -/
theorem isSteady_alternating : IsSteady alternating where
  place := by decide
  flag := by decide

theorem groupIndexes_alternating :
    ∃ ιs, groupIndexes alternating = .ok ιs ∧
      Forall₂ (IsEntry alternating) [some "by_name", some "PRIMARY"] ιs ∧
        ∃ κs, groupIndexes alternating.reverse = .ok κs ∧ κs.Perm ιs := by
  obtain ⟨ιs, hok, hentries, hperm⟩ := groupIndexes_entries isIndexRow_alternating
  rw [keys_alternating] at hentries
  exact ⟨ιs, hok, hentries, hperm isSteady_alternating _ (reverse_perm _)⟩

end Sluice.Tool
