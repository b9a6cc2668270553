import Sluice.Proofs.Query.Lexeme
import Sluice.Proofs.Query.OwnLimit

/-!
# What a limit makes of a query

A query that begins with SELECT and in which no limit is spelled is cut in front of the blanks and
semicolons at its end, and every other query is left as it is (`limitRows_cases`).  Whichever it is,
the text that comes out is left alone from then on.
-/

namespace Sluice.Query

open Text

/-! ## Where a query is cut -/

/-- Blanks, then semicolons, then blanks. -/
def IsTerminator (t : List Char) : Prop :=
  ∃ g σ h, t = g ++ (σ ++ h) ∧ (∀ c ∈ g, isBlank c = true) ∧ (∀ c ∈ σ, c = ';') ∧
    ∀ c ∈ h, isBlank c = true

/-- A query falls into the text `p` to be run and the end `t`. -/
structure IsCut (q p t : List Char) : Prop where
  text : q = p ++ t
  ne_nil : p ≠ []
  isBlank_last : ∀ c ∈ p.getLast?, isBlank c = false
  isTerminator : IsTerminator t
  /-- An admitted query that is written in lexemes is cut in front of all its semicolons. -/
  semicolon : ∀ (q₀ : List Char) (ℓs : List Lexeme), screen q₀ = .ok q →
    q = ℓs.flatMap Lexeme.text →
      ∀ κs μs, ℓs = κs ++ .semicolon :: μs → p <+: κs.flatMap Lexeme.text

theorem dropTerminator_eq (s : List Char) : dropTerminator s =
    ((s.rdropWhile isBlank).rdropWhile (· = ';')).rdropWhile isBlank := rfl

theorem exists_isTerminator (s : List Char) : ∃ t, s = dropTerminator s ++ t ∧ IsTerminator t := by
  rw [dropTerminator_eq]
  refine ⟨((s.rdropWhile isBlank).rdropWhile (· = ';')).rtakeWhile isBlank ++
    ((s.rdropWhile isBlank).rtakeWhile (· = ';') ++ s.rtakeWhile isBlank), ?_, _, _, _, rfl,
    fun c hc ↦ List.mem_rtakeWhile_imp hc, fun c hc ↦ ?_, fun c hc ↦ List.mem_rtakeWhile_imp hc⟩
  · rw [← List.append_assoc, List.rdropWhile_append_rtakeWhile, ← List.append_assoc,
      List.rdropWhile_append_rtakeWhile, List.rdropWhile_append_rtakeWhile]
  · simpa using List.mem_rtakeWhile_imp hc

theorem IsTerminator.isBlank_or {t : List Char} (h : IsTerminator t) :
    ∀ c ∈ t, isBlank c = true ∨ c = ';' := by
  obtain ⟨g, σ, h, rfl, hg, hσ, hh⟩ := h
  intro c hc
  rcases List.mem_append.mp hc with hc | hc
  · exact .inl (hg c hc)
  · exact (List.mem_append.mp hc).symm.imp (hh c) (hσ c)

theorem isBlank_last_dropTerminator (s : List Char) :
    ∀ c ∈ (dropTerminator s).getLast?, isBlank c = false := by
  rw [dropTerminator_eq]
  intro c hc
  obtain ⟨hne, rfl⟩ := List.mem_getLast?_eq_getLast hc
  exact Bool.eq_false_iff.mpr (List.rdropWhile_last_not isBlank _ hne)

/-- A text is cut in front of a semicolon that only blanks follow. -/
theorem dropTerminator_isPrefix {k b : List Char} (hb : ∀ c ∈ b, isBlank c = true) :
    dropTerminator (k ++ ';' :: b) <+: k := by
  have ht : (k ++ ';' :: b).rdropWhile isBlank = k ++ [';'] := by
    rw [List.append_cons, List.rdropWhile, List.reverse_append,
      List.dropWhile_append_of_pos (by simpa using hb), ← List.rdropWhile,
      List.rdropWhile_concat_neg _ _ _ (by decide)]
  rw [dropTerminator_eq, ht, List.rdropWhile_concat_pos _ _ _ (by simp)]
  exact (List.rdropWhile_prefix _ _).trans (List.rdropWhile_prefix _ _)

/-! ## Queries to read rows -/

theorem isSelect_iff {s : List Char} : isSelect s = true ↔ OpensWith "SELECT" (trimLeft s) := by
  have hs : trimLeft (trimLeft s) = trimLeft s := List.dropWhile_idempotent isBlank s
  rw [← accepts_iff_opensWith (by simp [IsKeyword]) hs, Opening.accepts, Opening.after?, hs]
  rfl

/-- More than blanks and semicolons is in a query to read rows. -/
theorem dropTerminator_ne_nil {s : List Char} (hs : OpensWith "SELECT" (trimLeft s)) :
    dropTerminator s ≠ [] := by
  intro hn
  obtain ⟨t, ht, hc⟩ := exists_isTerminator s
  rw [hn, List.nil_append] at ht
  have hw : IsKeyword "SELECT" := by simp [IsKeyword]
  obtain ⟨m, b, r, hr, hm, -⟩ := (opensWith_iff hw).mp hs
  obtain ⟨c, m, rfl⟩ := List.exists_cons_of_ne_nil (l := m) (by rintro rfl; exact hw.1 hm.symm)
  have hu : (keyLetter c).isUpper = true := hw.2 _ (hm ▸ List.mem_map_of_mem (by simp))
  have hcs : c ∈ s := (List.dropWhile_suffix isBlank).subset (show c ∈ trimLeft s by simp [hr])
  rcases hc.isBlank_or c (ht ▸ hcs) with h | rfl
  · rw [isBlank_of_isUpper_keyLetter hu] at h
    cases h
  · exact absurd hu (by decide)

/-- Behind a semicolon of an admitted query, outside of literals, stand only blanks. -/
theorem isBlank_of_screen_lexemes {q₀ : List Char} {κs μs : List Lexeme}
    (h : screen q₀ = .ok ((κs ++ .semicolon :: μs).flatMap Lexeme.text)) :
    ∀ c ∈ μs.flatMap Lexeme.text, isBlank c = true := by
  obtain ⟨-, -, -, -, hs⟩ := rejection?_eq_none_iff.mp (rejection?_of_screen h)
  intro c hc
  by_contra hb
  refine Bool.eq_false_iff.mp hs ?_
  rw [isStacked, List.flatMap_append, List.flatMap_cons]
  refine stacksFrom_flatMap_text_append κs ?_
  rw [Lexeme.text, List.singleton_append, stacksFrom_semicolon_cons,
    List.any_eq_true.mpr ⟨c, hc, by simpa using hb⟩, Bool.true_or]

theorem isCut_dropTerminator {q : List Char} (hq : OpensWith "SELECT" (trimLeft q)) :
    ∃ t, IsCut q (dropTerminator q) t := by
  obtain ⟨t, ht, hc⟩ := exists_isTerminator q
  refine ⟨t, ht, dropTerminator_ne_nil hq, isBlank_last_dropTerminator q, hc, ?_⟩
  rintro q₀ _ hs rfl κs μs rfl
  rw [List.flatMap_append, List.flatMap_cons]
  exact dropTerminator_isPrefix (isBlank_of_screen_lexemes hs)

/-! ## Texts with a limit -/

theorem isDecimalDigit_of_isDigit {c : Char} (hc : c.isDigit = true) : isDecimalDigit c = true := by
  have hn := toNat_of_isDigit hc
  rw [isDecimalDigit, digitValue?, Option.isSome_map, List.find?_isSome]
  exact ⟨0x30, by decide, by simp; omega⟩

/-- A limit that was given is one that is found. -/
theorem exists_limitAt_append_limitClause (p : List Char) {n : Int} (hn : 1 ≤ n) :
    ∃ a u, LimitAt a u (p ++ limitClause n) := by
  obtain ⟨d, ds, hd⟩ := List.exists_cons_of_ne_nil (toString_ne_nil hn)
  have hdig : d.isDigit = true := isDigit_of_mem_toString hn (hd ▸ List.mem_cons_self)
  have hb : ∀ c ∈ [' '], isBlank c = true := List.forall_mem_singleton.mpr (by decide)
  refine ⟨p ++ [' '], "LIMIT".toList ++ ([' '] ++ [d]), ⟨_, _, _, rfl, by decide, by simp, hb,
    isDecimalDigit_of_isDigit hdig⟩, ?_, ds, ?_⟩
  · simp [isBoundary, isWord]
  · rw [limitClause, hd, List.append_assoc, List.append_assoc]
    rfl

theorem isUncapped_eq_true_iff {s : List Char} : isUncapped s = true ↔
    (¬ ∃ a u, LimitAt a u s) ∧ OpensWith "SELECT" (trimLeft s) := by
  rw [isUncapped, Bool.and_eq_true, Bool.not_eq_true', Bool.eq_false_iff, ne_eq,
    namesLimit_iff_exists_limitAt, isSelect_iff]

theorem effectiveLimit_eq {m : Int} {asked : Option Int} (ha : ∀ n ∈ asked, 1 ≤ n) :
    effectiveLimit m asked = asked.getD m := by
  cases asked with
  | none => rfl
  | some n =>
    have hn := ha n rfl
    exact if_neg (by omega)

/-- A query that begins with SELECT and in which no limit is spelled is given the limit that was
asked for, or else the one in force, in the place of blanks and semicolons at its end.  Every other
query is left as it is, and so is each of these once it has its limit. -/
theorem limitRows_cases (q : List Char) {m : Int} {asked : Option Int} (hm : 1 ≤ m)
    (ha : ∀ n ∈ asked, 1 ≤ n) :
    ((∃ a u, LimitAt a u q) ∨ ¬ OpensWith "SELECT" (trimLeft q) →
      limitRows q (effectiveLimit m asked) = ⟨q, none⟩) ∧
    ((¬ ∃ a u, LimitAt a u q) → OpensWith "SELECT" (trimLeft q) → ∃ p t, IsCut q p t ∧
      limitRows q (effectiveLimit m asked) =
        ⟨p ++ " LIMIT ".toList ++ (toString (asked.getD m)).toList, some (asked.getD m)⟩) ∧
    ∀ (m' : Int) (asked' : Option Int), 1 ≤ m' → (∀ n ∈ asked', 1 ≤ n) →
      limitRows (limitRows q (effectiveLimit m asked)).query (effectiveLimit m' asked') =
        ⟨(limitRows q (effectiveLimit m asked)).query, none⟩ := by
  refine ⟨fun h ↦ ?_, fun hl hs ↦ ?_, fun m' asked' _ _ ↦ ?_⟩
  · refine limitRows_of_not_isUncapped (Bool.eq_false_iff.mpr fun hu ↦ ?_)
    obtain ⟨hl, hs⟩ := isUncapped_eq_true_iff.mp hu
    exact h.elim hl (· hs)
  · obtain ⟨t, ht⟩ := isCut_dropTerminator hs
    refine ⟨_, t, ht, ?_⟩
    rw [limitRows, if_pos (isUncapped_eq_true_iff.mpr ⟨hl, hs⟩), effectiveLimit_eq ha]
  · refine limitRows_of_not_isUncapped (Bool.eq_false_iff.mpr fun hu' ↦ ?_)
    cases hu : isUncapped q with
    | false =>
      rw [limitRows_of_not_isUncapped hu, hu] at hu'
      cases hu'
    | true =>
      rw [limitRows, if_pos hu, ← append_limitClause] at hu'
      exact (isUncapped_eq_true_iff.mp hu').1
        (exists_limitAt_append_limitClause _ (one_le_effectiveLimit hm ha))

/-- A semicolon in a literal stays, and the one at the end gives way to the limit. -/
theorem limitRows_cases_literal :
    1 ≤ (1000 : Int) ∧ (∀ n ∈ some (7 : Int), 1 ≤ n) ∧
      (∃ p t, IsCut "select 'a;b' ;".toList p t ∧
        limitRows "select 'a;b' ;".toList (effectiveLimit 1000 (some 7)) =
          ⟨p ++ " LIMIT ".toList ++ (toString (7 : Int)).toList, some 7⟩) ∧
      limitRows "select 'a;b' LIMIT 7".toList (effectiveLimit 1000 none) =
        ⟨"select 'a;b' LIMIT 7".toList, none⟩ := by
  have hm : 1 ≤ (1000 : Int) := by decide
  have ha : ∀ n ∈ some (7 : Int), 1 ≤ n := by rintro n ⟨⟩; decide
  obtain ⟨-, hc, hr⟩ := limitRows_cases "select 'a;b' ;".toList hm ha
  have hq : limitRows "select 'a;b' ;".toList (effectiveLimit 1000 (some 7)) =
      ⟨"select 'a;b' LIMIT 7".toList, some 7⟩ := by decide +kernel
  refine ⟨hm, ha, hc ?_ ⟨by decide +kernel, by decide +kernel⟩, ?_⟩
  · rw [← namesLimit_iff_exists_limitAt]
    decide +kernel
  · have hr := hr 1000 none hm (by simp)
    rwa [hq] at hr

end Sluice.Query
