import Sluice.Proofs.Json.Grammar
import Sluice.Server.Web

/-!
# What is written is JSON

The text of a value belongs to the grammar just when all numbers in the value are finite
(`isJson_write_iff`): what is not finite is written as a bare word, which the grammar does not have.
-/

namespace Sluice.Json

open Decimal Server

/-! ## Strings -/

theorem isHexDigit_hexDigit {n : Nat} (h : n < 16) : IsHexDigit (Text.hexDigit n) := by
  unfold IsHexDigit
  revert n
  decide

/-- An escaped character is one that a string may have. -/
theorem isCharacter_escapeChar (c : Char) : IsCharacter (escapeChar c) := by
  unfold escapeChar
  split
  next h => exact .escaped (by obtain rfl | rfl := h <;> decide)
  next hc =>
    obtain ⟨hq, hb⟩ := not_or.mp hc
    have hhex (n : Nat) : IsHexDigit (Text.hexDigit (n % 16)) :=
      isHexDigit_hexDigit (Nat.mod_lt n (by decide))
    repeat' split
    any_goals exact .escaped (by decide)
    · exact .unit (hhex _) (hhex _) (hhex _) (hhex _)
    · exact .unescaped (by omega) hq hb

/-- A quoted text is a string. -/
theorem isString_quote (s : List Char) : IsString (quote s) := by
  unfold quote
  rw [List.flatMap_def]
  refine .mk fun t ht ↦ ?_
  obtain ⟨c, -, rfl⟩ := List.mem_map.mp ht
  exact isCharacter_escapeChar c

/-! ## Containers -/

theorem writeList_eq_map (vs : List Value) : writeList vs = vs.map write := by
  induction vs with
  | nil => rfl
  | cons v vs ih => rw [writeList, ih, List.map_cons]

theorem writeFields_eq_map (fs : List (String × Value)) :
    writeFields fs = (fs.map fun f ↦ (quote f.1.toList, ' ' :: write f.2)).map
      fun m ↦ m.1 ++ ':' :: m.2 := by
  induction fs with
  | nil => rfl
  | cons f fs ih => rw [writeFields, ih, List.map_cons, List.map_cons]

/-- A blank behind a comma may as well stand in front of what follows. -/
theorem intercalate_blank (s : List Char) (ss : List (List Char)) :
    [',', ' '].intercalate (s :: ss) = [','].intercalate (s :: ss.map (' ' :: ·)) := by
  induction ss generalizing s with
  | nil => rfl
  | cons t ss ih =>
    have ht (r : List Char) (rs : List (List Char)) :
        [','].intercalate ((' ' :: r) :: rs) = ' ' :: [','].intercalate (r :: rs) := by
      cases rs <;> rfl
    rw [List.intercalate_cons_cons, ih, List.map_cons, List.intercalate_cons_cons, ht,
      List.append_assoc, List.append_assoc]
    rfl

theorem isBlank_singleton : IsBlank [' '] := List.forall_mem_singleton.mpr (by decide)

/-- Texts in brackets with commas between them are an array. -/
theorem isJson_array {ss : List (List Char)} (h : ∀ s ∈ ss, IsJson s) :
    IsJson ('[' :: ([',', ' '].intercalate ss ++ [']'])) := by
  cases ss with
  | nil => exact .noElements nofun
  | cons s ss =>
    obtain ⟨hs, hss⟩ := List.forall_mem_cons.mp h
    rw [intercalate_blank]
    exact .array nofun (List.forall_mem_cons.mpr
      ⟨hs, List.forall_mem_map.mpr fun t ht ↦ .before isBlank_singleton (hss t ht)⟩)

/-- Members in braces with commas between them are an object. -/
theorem isJson_object {ms : List (List Char × List Char)} (hk : ∀ m ∈ ms, IsString m.1)
    (hv : ∀ m ∈ ms, IsJson m.2) :
    IsJson ('{' :: ([',', ' '].intercalate (ms.map fun m ↦ m.1 ++ ':' :: m.2) ++ ['}'])) := by
  have hname {s w : List Char} (h : IsString s) (hw : IsBlank w) : IsName (w ++ s) :=
    List.append_nil (w ++ s) ▸ .mk hw h nofun
  cases ms with
  | nil => exact .noMembers nofun
  | cons m ms =>
    obtain ⟨hm, hms⟩ := List.forall_mem_cons.mp hk
    obtain ⟨hv, hvs⟩ := List.forall_mem_cons.mp hv
    rw [List.map_cons, intercalate_blank, List.map_map]
    have h := @IsJson.object (m :: ms.map fun m ↦ (' ' :: m.1, m.2)) nofun
      (List.forall_mem_cons.mpr ⟨hname (w := []) hm nofun,
        List.forall_mem_map.mpr fun n hn ↦ hname (hms n hn) isBlank_singleton⟩)
      (List.forall_mem_cons.mpr ⟨hv, List.forall_mem_map.mpr fun n hn ↦ hvs n hn⟩)
    rwa [List.map_cons, List.map_map] at h

/-! ## Values -/

mutual

/-- The text of a value whose numbers are finite belongs to the grammar. -/
theorem isJson_write : (v : Value) → isStrict v = true → IsJson (write v)
  | .null, _ => .word (by decide)
  | .bool true, _ => .word (by decide)
  | .bool false, _ => .word (by decide)
  | .int z, _ => .number (isNumber_intText z)
  | .float x, h => by
    unfold isStrict at h
    simp only [Bool.and_eq_true, Bool.not_eq_true'] at h
    exact .number (isNumber_render h.1 h.2)
  | .text s, _ => .string (isString_quote _)
  | .list vs, h => by
    rw [write, writeList_eq_map]
    exact isJson_array fun s hs ↦ List.forall_mem_map.mpr (isJson_write_of_mem vs h) s hs
  | .record fs, h => by
    rw [write, writeFields_eq_map]
    exact isJson_object (List.forall_mem_map.mpr fun _ _ ↦ isString_quote _)
      (List.forall_mem_map.mpr fun f hf ↦
        .before isBlank_singleton (isJson_write_of_mem_fields fs h f hf))
  | .decimal _, _ | .bytes _, _ | .buffer _, _ | .dateTime _, _ | .date _, _ | .time _, _
  | .duration _, _ | .other _, _ => .string (isString_quote _)

theorem isJson_write_of_mem :
    (vs : List Value) → areStrict vs = true → ∀ v ∈ vs, IsJson (write v)
  | [], _ => nofun
  | v :: vs, h =>
    have h := Bool.and_eq_true_iff.mp h
    List.forall_mem_cons.mpr ⟨isJson_write v h.1, isJson_write_of_mem vs h.2⟩

theorem isJson_write_of_mem_fields :
    (fs : List (String × Value)) → areStrictFields fs = true → ∀ f ∈ fs, IsJson (write f.2)
  | [], _ => nofun
  | (_, v) :: fs, h =>
    have h := Bool.and_eq_true_iff.mp h
    List.forall_mem_cons.mpr ⟨isJson_write v h.1, isJson_write_of_mem_fields fs h.2⟩

end

/-! ## What is not finite shows -/

theorem areStrict_iff {vs : List Value} : areStrict vs = true ↔ ∀ v ∈ vs, isStrict v = true := by
  induction vs with
  | nil => exact ⟨fun _ ↦ nofun, fun _ ↦ rfl⟩
  | cons v vs ih => rw [areStrict, Bool.and_eq_true, ih, List.forall_mem_cons]

theorem areStrictFields_iff {fs : List (String × Value)} :
    areStrictFields fs = true ↔ ∀ f ∈ fs, isStrict f.2 = true := by
  induction fs with
  | nil => exact ⟨fun _ ↦ nofun, fun _ ↦ rfl⟩
  | cons f fs ih => rw [areStrictFields, Bool.and_eq_true, ih, List.forall_mem_cons]

/-- What stands between separators shows. -/
theorem shows_intercalate {ss : List (List Char)} (h : ∀ s ∈ ss, ∃ xs, Shows s xs) :
    ∃ xs, Shows ([',', ' '].intercalate ss) xs ∧ ∀ s ∈ ss, ∀ ys, Shows s ys → ys ⊆ xs := by
  induction ss with
  | nil => exact ⟨[], .nil, nofun⟩
  | cons s ss ih =>
    obtain ⟨⟨xs, hs⟩, hss⟩ := List.forall_mem_cons.mp h
    have hself {ys : List Char} (h : Shows s ys) : ys = xs := h.bare_eq.symm.trans hs.bare_eq
    cases ss with
    | nil =>
      refine ⟨xs, by rwa [List.intercalate_singleton], List.forall_mem_singleton.mpr ?_⟩
      exact fun ys h ↦ hself h ▸ List.Subset.refl _
    | cons t ss =>
      obtain ⟨zs, hz, hsub⟩ := ih hss
      refine ⟨xs ++ [',', ' '] ++ zs, ?_, List.forall_mem_cons.mpr ⟨fun ys h c hc ↦ ?_, ?_⟩⟩
      · rw [List.intercalate_cons_cons]
        exact (hs.append (.self (by decide))).append hz
      · rw [List.append_assoc]
        exact List.mem_append_left _ (hself h ▸ hc)
      · exact fun u hu ys h c hc ↦ List.mem_append_right _ (hsub u hu ys h hc)

/-- A value shows a letter that the grammar does not have if it is not finite. -/
def ShowsTruly (s : List Char) (finite : Bool) : Prop :=
  ∃ xs, Shows s xs ∧ (finite = false → ¬ IsSober xs)

/-- A text of the grammar shows no letter that the grammar does not have. -/
theorem ShowsTruly.of_isJson {s : List Char} (h : IsJson s) : ShowsTruly s true := by
  obtain ⟨xs, hxs, -⟩ := h.showsSober
  exact ⟨xs, hxs, nofun⟩

/-- A float shows such a letter if it is not finite. -/
theorem showsTruly_float (x : Binary64) : ShowsTruly (write (.float x)) (isStrict (.float x)) := by
  cases h : isStrict (.float x) with
  | true => exact .of_isJson (isJson_write _ h)
  | false =>
    rw [write, Layout.render]
    rw [isStrict, Binary64.isNaN, Binary64.isInfinite] at h
    cases hx : x.view with
    | nan => exact ⟨_, .self (by decide), fun _ h ↦ (h 'N' (by decide)).1 rfl⟩
    | infinite ν =>
      cases ν <;> exact ⟨_, .self (by decide), fun _ h ↦ (h 'I' (by decide)).2 rfl⟩
    | finite ν m q => simp [hx] at h

/-- A container shows what its parts show. -/
theorem ShowsTruly.container {α : Type} {as : List α} {text : α → List Char} {finite : α → Bool}
    (h : ∀ a ∈ as, ShowsTruly (text a) (finite a)) {c d : Char} (hc : c ≠ '"') (hd : d ≠ '"')
    {b : Bool} (hb : (∀ a ∈ as, finite a = true) → b = true) :
    ShowsTruly (c :: ([',', ' '].intercalate (as.map text) ++ [d])) b := by
  have hshows : ∀ s ∈ as.map text, ∃ xs, Shows s xs :=
    List.forall_mem_map.mpr fun a ha ↦ (h a ha).imp fun _ ↦ And.left
  obtain ⟨xs, hxs, hsub⟩ := shows_intercalate hshows
  refine ⟨c :: (xs ++ [d]), .cons hc (hxs.append (.cons hd .nil)), fun hb' hsober ↦ ?_⟩
  subst hb'
  refine Bool.false_ne_true (hb fun a ha ↦ ?_)
  obtain ⟨ys, hys, hno⟩ := h a ha
  refine Bool.of_not_eq_false fun hf ↦ hno hf fun e he ↦ hsober e ?_
  exact List.mem_cons_of_mem _ (List.mem_append_left _
    (hsub _ (List.mem_map_of_mem ha) ys hys he))

/-- A name shows nothing. -/
theorem ShowsTruly.field {s : List Char} {b : Bool} (k : List Char) (h : ShowsTruly s b) :
    ShowsTruly (quote k ++ ':' :: ' ' :: s) b := by
  obtain ⟨xs, hxs, hno⟩ := h
  refine ⟨':' :: ' ' :: xs, (shows_of_isString (isString_quote k)).append
    (.cons (by decide) (.cons (by decide) hxs)), fun hb hsober ↦ hno hb fun c hc ↦ hsober c ?_⟩
  exact List.mem_cons_of_mem _ (List.mem_cons_of_mem _ hc)

mutual

/-- A value shows such a letter if some float in it is not finite. -/
theorem showsTruly_write : (v : Value) → ShowsTruly (write v) (isStrict v)
  | .float x => showsTruly_float x
  | .list vs => by
    rw [write, writeList_eq_map]
    exact .container (showsTruly_write_of_mem vs) (by decide) (by decide) areStrict_iff.mpr
  | .record fs => by
    rw [write, writeFields_eq_map, List.map_map]
    exact .container (fun f hf ↦ .field f.1.toList (showsTruly_write_of_mem_fields fs f hf))
      (by decide) (by decide) areStrictFields_iff.mpr
  | .null | .bool _ | .int _ | .text _ | .decimal _ | .bytes _ | .buffer _ | .dateTime _ | .date _
  | .time _ | .duration _ | .other _ => .of_isJson (isJson_write _ rfl)

theorem showsTruly_write_of_mem :
    (vs : List Value) → ∀ v ∈ vs, ShowsTruly (write v) (isStrict v)
  | [] => nofun
  | v :: vs => List.forall_mem_cons.mpr ⟨showsTruly_write v, showsTruly_write_of_mem vs⟩

theorem showsTruly_write_of_mem_fields :
    (fs : List (String × Value)) → ∀ f ∈ fs, ShowsTruly (write f.2) (isStrict f.2)
  | [] => nofun
  | (_, v) :: fs =>
    List.forall_mem_cons.mpr ⟨showsTruly_write v, showsTruly_write_of_mem_fields fs⟩

end

/-- The text of a value is JSON just when all numbers in the value are finite. -/
theorem isJson_write_iff (v : Value) : IsJson (write v) ↔ isStrict v = true := by
  refine ⟨fun h ↦ ?_, isJson_write v⟩
  obtain ⟨xs, hxs, hsober⟩ := h.showsSober
  obtain ⟨ys, hys, hno⟩ := showsTruly_write v
  exact Bool.of_not_eq_false fun hv ↦ hno hv (hys.bare_eq ▸ hxs.bare_eq ▸ hsober)

end Sluice.Json
