import Sluice.Proofs.Query.Normal
import Sluice.Proofs.Query.Token

/-!
# Dangerous clauses

The guard looks for the words of a clause with blanks between them.  To the server a block is as
good as a blank.  An admitted query is therefore free of dangerous clauses, as the server reads it,
exactly if no block is left between the words of one (`reads_iff_of_screen`); and a block is left
only where the deletion of others brought its characters together.
-/

namespace Sluice.Query

open Text

/-! ## Phrases as the server reads them -/

/-- A token that separates words: a blank or a block. -/
def Token.isGap : Token → Bool
  | .bare c => isBlank c
  | .comment _ => true
  | .quoted _ _ => false

/-- Tokens that spell the words of a phrase, given in capitals, with blanks and blocks between each
two of them. -/
inductive Spells : List String → List Token → Prop
  | word {w : String} {m : List Char} (hm : m.map Char.toUpper = w.toList) :
      Spells [w] (m.map .bare)
  | cons {w : String} {m : List Char} {ws : List String} {γs τs : List Token}
      (hm : m.map Char.toUpper = w.toList) (hne : γs ≠ []) (hγ : ∀ γ ∈ γs, γ.isGap = true)
      (hτ : Spells ws τs) : Spells (w :: ws) (m.map .bare ++ (γs ++ τs))

/-- The tokens `μs` of a query spell a phrase between word boundaries. -/
def ReadsAt (ws : List String) (s : List Char) (μs : List Token) : Prop :=
  ∃ σs τs, tokens s = σs ++ (μs ++ τs) ∧ Spells ws μs ∧
    isBoundary (textOf σs).getLast? (textOf (μs ++ τs)).head? = true ∧
    (textOf τs).head?.any isWord = false

/-- The server reads a phrase somewhere in a query. -/
def Reads (ws : List String) (s : List Char) : Prop := ∃ μs, ReadsAt ws s μs

/-- The server reads a phrase somewhere in a query, with a block between its words. -/
def ReadsAcross (ws : List String) (s : List Char) : Prop :=
  ∃ μs, ReadsAt ws s μs ∧ ∃ μ ∈ μs, μ.isComment = true

theorem Spells.ne_nil {ws : List String} {τs : List Token} (h : Spells ws τs) : ws ≠ [] := by
  cases h <;> simp

/-! ## Keywords -/

/-- A word that the guard looks for. -/
def IsKeyword (w : String) : Prop := w.toList ≠ [] ∧ ∀ k ∈ w.toList, k.isUpper = true

instance (w : String) : Decidable (IsKeyword w) := inferInstanceAs (Decidable (_ ∧ _))

theorem isKeyword_of_mem_dangerousClauses :
    ∀ ws ∈ dangerousClauses, ∀ w ∈ ws, IsKeyword w := by
  simp [dangerousClauses, IsKeyword]

/-- The guard reads ASCII letters in either case. -/
theorem keyLetter_of_isAlpha {c : Char} (hc : c.isAlpha = true) : keyLetter c = c.toUpper := by
  unfold keyLetter
  split
  · exact absurd hc (by decide)
  · exact absurd hc (by decide)
  · exact absurd hc (by decide)
  · exact absurd hc (by decide)
  · rfl

/-- The code points of ASCII letters. -/
theorem toNat_of_isAlpha {c : Char} (hc : c.isAlpha = true) :
    65 ≤ c.toNat ∧ c.toNat ≤ 90 ∨ 97 ≤ c.toNat ∧ c.toNat ≤ 122 := by
  rcases (Bool.or_eq_true ..).mp hc with h | h
  · exact .inl (of_decide_eq_true h)
  · obtain ⟨hl, hh⟩ := (Bool.and_eq_true ..).mp h
    exact .inr ⟨of_decide_eq_true hl, of_decide_eq_true hh⟩

theorem isBlank_of_isAlpha {c : Char} (hc : c.isAlpha = true) : isBlank c = false := by
  by_contra hb
  rw [Bool.not_eq_false, isBlank, inRanges_iff] at hb
  have hn := toNat_of_isAlpha hc
  simp only [blankRanges, List.mem_cons, List.not_mem_nil, or_false, exists_eq_or_imp,
    exists_eq_left] at hb
  omega

theorem isAlpha_of_isUpper_toUpper {c : Char} (hc : c.toUpper.isUpper = true) :
    c.isAlpha = true := by
  refine (Bool.or_eq_true ..).mpr ?_
  unfold Char.toUpper at hc
  split at hc
  next hl =>
    have h := (Bool.and_eq_true ..).mpr ⟨decide_eq_true hl.1, decide_eq_true hl.2⟩
    exact .inr h
  next => exact .inl hc

/-- The letters of a keyword are ASCII letters, in whatever case they are written. -/
theorem IsKeyword.isAlpha {w : String} (hw : IsKeyword w) {m : List Char}
    (hm : m.map Char.toUpper = w.toList) : ∀ c ∈ m, c.isAlpha = true := by
  intro c hc
  exact isAlpha_of_isUpper_toUpper (hw.2 _ (hm ▸ List.mem_map_of_mem hc))

theorem IsKeyword.exists_cons {w : String} (hw : IsKeyword w) {m : List Char}
    (hm : m.map Char.toUpper = w.toList) : ∃ c t, m = c :: t ∧ c.isAlpha = true := by
  cases m with
  | nil => exact absurd hm.symm hw.1
  | cons c m => exact ⟨c, m, rfl, hw.isAlpha hm c (by simp)⟩

theorem afterWord?_append {w m : List Char} (hm : m.map keyLetter = w) (b : List Char) :
    afterWord? w (m ++ b) = some b := by
  subst hm
  induction m with
  | nil => simp
  | cons c m ih => simp [afterWord?, ih]

theorem IsKeyword.afterWord?_append {w : String} (hw : IsKeyword w) {m : List Char}
    (hm : m.map Char.toUpper = w.toList) (b : List Char) :
    afterWord? w.toList (m ++ b) = some b := by
  refine Query.afterWord?_append ?_ b
  rw [← hm]
  exact List.map_congr_left fun c hc ↦ keyLetter_of_isAlpha (hw.isAlpha hm c hc)

theorem afterBlanks?_append {g b : List Char} (hne : g ≠ []) (hg : ∀ c ∈ g, isBlank c = true)
    (hb : ∀ c ∈ b.head?, isBlank c = false) : afterBlanks? (g ++ b) = some b := by
  obtain ⟨c, g, rfl⟩ := List.exists_cons_of_ne_nil hne
  have hg' : trimLeft (g ++ b) = trimLeft b :=
    List.dropWhile_append_of_pos fun d hd ↦ hg d (by simp [hd])
  have hb' : trimLeft b = b := by
    cases b with
    | nil => rfl
    | cons d b => simp [trimLeft, hb d rfl]
  simp [afterBlanks?, hg c (by simp), hg', hb']

/-! ## What the guard finds -/

/-- A phrase begins with a letter. -/
theorem Spells.exists_cons {ws : List String} {μs : List Token} (h : Spells ws μs)
    (hw : ∀ w ∈ ws, IsKeyword w) : ∃ c t, textOf μs = c :: t ∧ c.isAlpha = true := by
  cases h with
  | word h =>
    obtain ⟨c, t, rfl, hc⟩ := (hw _ (by simp)).exists_cons h
    exact ⟨c, t, textOf_map_bare _, hc⟩
  | cons h =>
    obtain ⟨c, t, rfl, hc⟩ := (hw _ (by simp)).exists_cons h
    exact ⟨c, _, by rw [textOf_append, textOf_map_bare, List.cons_append], hc⟩

/-- Separators without a block among them are blanks. -/
theorem isBlank_of_isGap {γs : List Token} (hγ : ∀ γ ∈ γs, γ.isGap = true)
    (hc : ∀ γ ∈ γs, γ.isComment = false) : ∀ c ∈ textOf γs, isBlank c = true := by
  intro c h
  obtain ⟨γ, hm, h⟩ := List.mem_flatMap.mp h
  cases γ with
  | bare d =>
    rw [Token.text_bare, List.mem_singleton] at h
    exact h ▸ hγ _ hm
  | quoted d t => cases hγ _ hm
  | comment t => cases hc _ hm

/-- Tokens without a block that spell a phrase are the phrase to the guard as well. -/
theorem Spells.afterPhrase? {ws : List String} {μs : List Token} (h : Spells ws μs)
    (hw : ∀ w ∈ ws, IsKeyword w) (hμ : ∀ μ ∈ μs, μ.isComment = false) (b : List Char) :
    afterPhrase? ws (textOf μs ++ b) = some b := by
  induction h with
  | word hm =>
    rw [textOf_map_bare]
    exact (hw _ (by simp)).afterWord?_append hm b
  | @cons w m ws γs τs hm hne hγ hτ ih =>
    have hτw : ∀ w ∈ ws, IsKeyword w := fun w h ↦ hw w (by simp [h])
    obtain ⟨c, t, ht, hc⟩ := hτ.exists_cons hτw
    have hg : textOf γs ≠ [] := by
      obtain ⟨γ, γs, rfl⟩ := List.exists_cons_of_ne_nil hne
      cases γ <;> simp
    have hb : ∀ d ∈ (textOf τs ++ b).head?, isBlank d = false := by
      rw [ht]
      rintro d ⟨⟩
      exact isBlank_of_isAlpha hc
    have hγb := isBlank_of_isGap hγ fun γ h ↦ hμ γ (by simp [h])
    have := ih hτw fun τ h ↦ hμ τ (by simp [h])
    rw [textOf_append, textOf_append, textOf_map_bare, List.append_assoc, List.append_assoc,
      Query.afterPhrase?]
    · rw [(hw w (by simp)).afterWord?_append hm, Option.bind_some, afterBlanks?_append hg hγb hb,
        Option.bind_some, this]
    · exact hτ.ne_nil

theorem occursFrom_append {ws : List String} {a m b : List Char} {before : Option Char}
    (hm : afterPhrase? ws (m ++ b) = some b)
    (ha : isBoundary (a.getLast?.or before) (m ++ b).head? = true) (hne : m ++ b ≠ [])
    (hb : b.head?.any isWord = false) : occursFrom ws before (a ++ (m ++ b)) = true := by
  induction a generalizing before with
  | nil =>
    obtain ⟨c, s, hs⟩ := List.exists_cons_of_ne_nil hne
    rw [hs] at hm ha ⊢
    simp [occursFrom, hm, hb, show isBoundary before (some c) = true from ha]
  | cons c a ih =>
    rw [List.cons_append, occursFrom, ih (by simpa [List.getLast?_cons] using ha), Bool.or_true]

/-- A phrase that the server reads without a block in it does not escape the guard. -/
theorem occurs_of_readsAt {ws : List String} {s : List Char} {μs : List Token}
    (hw : ∀ w ∈ ws, IsKeyword w) (h : ReadsAt ws s μs) (hμ : ∀ μ ∈ μs, μ.isComment = false) :
    occurs ws s = true := by
  obtain ⟨σs, τs, hs, hm, ha, hb⟩ := h
  obtain ⟨c, t, ht, -⟩ := hm.exists_cons hw
  rw [← textOf_tokens s, hs, textOf_append, textOf_append]
  refine occursFrom_append (hm.afterPhrase? hw hμ _) ?_ (by simp [ht]) hb
  rwa [Option.or_none, ← textOf_append]

theorem dangerousClause?_eq_none_iff {s : List Char} :
    dangerousClause? s = none ↔ ∀ ws ∈ dangerousClauses, occurs ws s = false := by
  simp [dangerousClause?]

/-! ## Admitted queries -/

/-- An admitted query holds a dangerous clause, as the server reads it, only with a block between
the words of the clause; and then deleted blocks stood between two dashes, or between a slash and a
star, of the query. -/
theorem reads_iff_of_screen {q s : List Char} (h : screen q = .ok s) {ws : List String}
    (hws : ws ∈ dangerousClauses) :
    (Reads ws s ↔ ReadsAcross ws s) ∧
      (Reads ws s → IsSpliced (dropDashComments false q)) := by
  obtain ⟨-, -, -, hd, -⟩ := rejection?_eq_none_iff.mp (rejection?_of_screen h)
  have ho := dangerousClause?_eq_none_iff.mp hd ws hws
  have hr : ∀ {μs}, ReadsAt ws s μs → ∃ μ ∈ μs, μ.isComment = true := by
    intro μs hμ
    by_contra hc
    push Not at hc
    simp only [Bool.not_eq_true] at hc
    simp [occurs_of_readsAt (isKeyword_of_mem_dangerousClauses ws hws) hμ hc] at ho
  refine ⟨⟨fun ⟨μs, hμ⟩ ↦ ⟨μs, hμ, hr hμ⟩, fun ⟨μs, hμ, _⟩ ↦ ⟨μs, hμ⟩⟩, fun ⟨μs, hμ⟩ ↦ ?_⟩
  obtain ⟨μ, hm, hc⟩ := hr hμ
  obtain ⟨σs, τs, hs, -⟩ := hμ
  exact isSpliced_of_screen h (.inr (.inr (holdsBlock_of_mem_tokens (by simp [hs, hm]) hc)))

/-- A block between a slash and a star: its deletion leaves a block between the words. -/
theorem screen_into_outfile :
    screen "SELECT 1 INTO//**/* x */OUTFILE '/tmp/x'".toList =
      .ok "SELECT 1 INTO/* x */OUTFILE '/tmp/x'".toList :=
  screen_eq_ok_iff.mpr ⟨by decide +kernel, by decide +kernel⟩

/-- The server reads the clause to write a file across the block that a query is left with. -/
theorem reads_into_outfile :
    Reads ["INTO", "OUTFILE"] "SELECT 1 INTO/* x */OUTFILE '/tmp/x'".toList := by
  have ho : Spells ["OUTFILE"] ("OUTFILE".toList.map .bare) := .word rfl
  have hs : Spells ["INTO", "OUTFILE"]
      ("INTO".toList.map .bare ++ ([.comment " x */".toList] ++ "OUTFILE".toList.map .bare)) :=
    .cons rfl (by simp) (by simp [Token.isGap]) ho
  refine ⟨_, "SELECT 1 ".toList.map .bare, [.bare ' ', .quoted '\'' "/tmp/x'".toList], ?_, hs, ?_,
    ?_⟩
  · decide +kernel
  · decide +kernel
  · decide +kernel

/-- The block that is left was spliced. -/
theorem reads_iff_of_screen_splice :
    screen "SELECT 1 INTO//**/* x */OUTFILE '/tmp/x'".toList =
        .ok "SELECT 1 INTO/* x */OUTFILE '/tmp/x'".toList ∧
      ReadsAcross ["INTO", "OUTFILE"] "SELECT 1 INTO/* x */OUTFILE '/tmp/x'".toList ∧
      IsSpliced (dropDashComments false "SELECT 1 INTO//**/* x */OUTFILE '/tmp/x'".toList) := by
  have hm : ["INTO", "OUTFILE"] ∈ dangerousClauses := by decide
  obtain ⟨ha, hs⟩ := reads_iff_of_screen screen_into_outfile hm
  exact ⟨screen_into_outfile, ha.mp reads_into_outfile, hs reads_into_outfile⟩

/-- Not every admitted query is free of dangerous clauses, as the server reads it. -/
theorem not_forall_not_reads_of_screen :
    ¬ ∀ q s : List Char, screen q = .ok s → ∀ ws ∈ dangerousClauses, ¬ Reads ws s := by
  intro h
  exact h _ _ screen_into_outfile ["INTO", "OUTFILE"] (by decide) reads_into_outfile

end Sluice.Query
