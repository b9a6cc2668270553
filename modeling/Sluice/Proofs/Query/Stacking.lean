import Sluice.Proofs.Query.Normal
import Sluice.Proofs.Query.Token

/-!
# Stacked statements

An admitted query is a single statement, as the server reads it, exactly if no semicolon starts
another one behind a sign that the guard takes for the border of a string and the server does not
(`isSingle_iff_of_screen`).

The guard walks along the characters.  It knows strings, but neither names in backticks nor blocks,
and it hides the character after a backslash even outside of strings.  As long as quote signs and
backslashes stand in strings alone, it sees every semicolon that the server sees
(`isStacked_of_tokens`).
-/

namespace Sluice.Query

open Text

/-- The characters that the guard acts upon, semicolons aside. -/
def steers (c : Char) : Bool := c = '\'' || c = '"' || c = '\\'

/-- A token that guard and server take alike: a string, or a text that does not steer the guard. -/
def Token.IsPlain (τ : Token) : Prop := τ.isString = true ∨ ∀ c ∈ τ.text, steers c = false

/-- Nothing but blanks follows a semicolon that the server reads by itself. -/
def IsSingle (s : List Char) : Prop :=
  ∀ σs τs, tokens s = σs ++ .bare ';' :: τs → ∀ c ∈ textOf τs, isBlank c = true

/-- A further statement follows a semicolon, and before that stands a token which the guard takes
otherwise than the server. -/
def HidesStatement (s : List Char) : Prop :=
  ∃ σs τs, tokens s = σs ++ .bare ';' :: τs ∧ (∃ σ ∈ σs, ¬ σ.IsPlain) ∧
    ∃ c ∈ textOf τs, isBlank c = false

/-! ## The guard -/

theorem stacksFrom_some_cons {c d : Char} {s : List Char} (hc : c ≠ '\\') :
    stacksFrom (some d) (c :: s) = stacksFrom (if c = d then none else some d) s := by
  rw [stacksFrom]
  · exact fun h _ ↦ hc h
  · exact fun _ _ h _ ↦ hc h

theorem stacksFrom_none_quote {d : Char} (hd : d = '\'' ∨ d = '"') (s : List Char) :
    stacksFrom none (d :: s) = stacksFrom (some d) s := by
  rcases hd with rfl | rfl <;> simp [stacksFrom]

theorem stacksFrom_none_cons {c : Char} {s : List Char} (h : steers c = false) :
    stacksFrom none (c :: s) = (c = ';' && s.any (!isBlank ·) || stacksFrom none s) := by
  simp only [steers, Bool.or_eq_false_iff, decide_eq_false_iff_not] at h
  obtain ⟨⟨hq, hd⟩, hb⟩ := h
  rw [stacksFrom]
  · by_cases hc : c = ';' <;> simp [hq, hd, hc]
  · exact fun h _ ↦ hb h
  · exact fun _ _ h _ ↦ hb h

/-- What the guard finds, it finds after any text that does not steer it. -/
theorem stacksFrom_append {s t : List Char} (ht : ∀ c ∈ t, steers c = false)
    (hs : stacksFrom none s = true) : stacksFrom none (t ++ s) = true := by
  induction t with
  | nil => exact hs
  | cons c t ih =>
    rw [List.cons_append, stacksFrom_none_cons (ht c (by simp)), ih fun d hd ↦ ht d (by simp [hd]),
      Bool.or_true]

/-- Guard and server agree on where a string ends. -/
theorem stacksFrom_splitQuote {d : Char} (hd : d = '\'' ∨ d = '"') (s : List Char) :
    stacksFrom (some d) s = stacksFrom none (splitQuote d s).2 := by
  have hb : d ≠ '\\' := by rcases hd with rfl | rfl <;> decide
  fun_induction splitQuote d s with
  | case1 => simp
  | case2 c =>
    by_cases hc : c = '\\'
    · simp [hc, stacksFrom]
    · simp [stacksFrom_some_cons hc]
  | case3 c e s h ih =>
    rcases h with ⟨rfl, -⟩ | ⟨rfl, rfl⟩
    · rw [stacksFrom, ih]
    · -- the sign doubled closes the string and opens another
      rw [stacksFrom_some_cons hb, if_pos rfl, stacksFrom_none_quote hd, ih]
  | case4 e s h =>
    rw [stacksFrom_some_cons hb, if_pos rfl]
  | case5 c e s h hc ih =>
    have hc' : c ≠ '\\' := by
      rintro rfl
      rcases hd with rfl | rfl <;> simp at h
    rw [stacksFrom_some_cons hc', if_neg hc, ih]

/-- What the guard finds behind a token that it takes as the server does, it finds before it. -/
theorem stacksFrom_of_tokens_eq_cons {s r : List Char} {σ : Token} (hs : s = σ.text ++ r)
    (hq : ∀ d t, σ = .quoted d t → isQuoteSign d = true ∧ splitQuote d (t ++ r) = (t, r))
    (hσ : σ.IsPlain) (hr : stacksFrom none r = true) : stacksFrom none s = true := by
  subst hs
  rcases hσ with hσ | hσ
  · cases σ with
    | bare c => cases hσ
    | comment t => cases hσ
    | quoted d t =>
      obtain ⟨hd, ht⟩ := hq d t rfl
      have hd : d = '\'' ∨ d = '"' := by
        simpa [isQuoteSign, show d ≠ '`' by simpa [Token.isString] using hσ] using hd
      rw [Token.text_quoted, List.cons_append, stacksFrom_none_quote hd, stacksFrom_splitQuote hd,
        ht, hr]
  · exact stacksFrom_append hσ hr

/-- The guard sees a semicolon that the server sees if both take alike what stands before it. -/
theorem isStacked_of_tokens {s : List Char} {σs τs : List Token}
    (h : tokens s = σs ++ .bare ';' :: τs) (hσ : ∀ σ ∈ σs, σ.IsPlain)
    (hτ : ∃ c ∈ textOf τs, isBlank c = false) : isStacked s = true := by
  rw [isStacked]
  induction σs generalizing s with
  | nil =>
    obtain ⟨r, rfl, rfl, -⟩ := exists_of_tokens_eq_cons h
    rw [textOf_tokens] at hτ
    rw [Token.text_bare, List.singleton_append, stacksFrom_none_cons (by decide)]
    simp [hτ]
  | cons σ σs ih =>
    obtain ⟨r, hs, hr, hq⟩ := exists_of_tokens_eq_cons h
    have := ih hr fun τ hτ ↦ hσ τ (by simp [hτ])
    exact stacksFrom_of_tokens_eq_cons hs hq (hσ σ (by simp)) this

/-! ## Admitted queries -/

/-- The server reads an admitted query as a single statement exactly if no further statement stands
behind a token which the guard takes otherwise than the server. -/
theorem isSingle_iff_of_screen {q s : List Char} (h : screen q = .ok s) :
    IsSingle s ↔ ¬ HidesStatement s := by
  obtain ⟨-, -, -, -, hs⟩ := rejection?_eq_none_iff.mp (rejection?_of_screen h)
  constructor
  · rintro hs ⟨σs, τs, hτ, -, c, hc, hb⟩
    simp [hs σs τs hτ c hc] at hb
  · intro hh σs τs hτ c hc
    by_contra hb
    rw [Bool.not_eq_true] at hb
    refine hh ⟨σs, τs, hτ, ?_, c, hc, hb⟩
    by_contra hσ
    push Not at hσ
    simp [isStacked_of_tokens hτ hσ ⟨c, hc, hb⟩] at hs

/-- A quote sign in a name: to the guard the rest of the query is a string. -/
theorem screen_quoted_name :
    screen "SELECT 1 AS `'`; DROP TABLE users".toList =
      .ok "SELECT 1 AS `'`; DROP TABLE users".toList :=
  screen_eq_ok_iff.mpr ⟨by decide +kernel, by decide +kernel⟩

theorem tokens_quoted_name :
    tokens "SELECT 1 AS `'`; DROP TABLE users".toList =
      ("SELECT 1 AS ".toList.map .bare ++ [.quoted '`' ['\'', '`']]) ++
        .bare ';' :: " DROP TABLE users".toList.map .bare := by
  decide +kernel

/-- To the server it is a query and a further statement. -/
theorem isSingle_iff_of_screen_name :
    screen "SELECT 1 AS `'`; DROP TABLE users".toList =
        .ok "SELECT 1 AS `'`; DROP TABLE users".toList ∧
      ¬ IsSingle "SELECT 1 AS `'`; DROP TABLE users".toList := by
  refine ⟨screen_quoted_name, fun hs ↦ (isSingle_iff_of_screen screen_quoted_name).mp hs ?_⟩
  refine ⟨_, _, tokens_quoted_name, ?_, 'D', by decide, by decide⟩
  exact ⟨.quoted '`' ['\'', '`'], by simp, by simp [Token.IsPlain, Token.isString, steers]⟩

/-- Not every admitted query is a single statement. -/
theorem not_isSingle_of_screen : ¬ ∀ q s : List Char, screen q = .ok s → IsSingle s := by
  intro h
  have hb := h _ _ screen_quoted_name _ _ tokens_quoted_name 'D' (by decide)
  exact absurd hb (by decide)

end Sluice.Query
