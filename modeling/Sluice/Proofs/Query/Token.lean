import Sluice.Proofs.Query.Comment

/-!
# How the server reads a query

The server reads a string in quotes, a name in backticks and a closed block as one token each, and
every other character by itself.  In quotes the sign that opened them stands for itself where it is
doubled, and in a string a backslash hides the character after it.

Reading loses nothing (`textOf_tokens`), and a query without blocks is read without comments
(`holdsBlock_of_mem_tokens`).  Behind a text that closes its quotes, plain characters are read by
themselves (`tokens_append_of_isClosed`).
-/

namespace Sluice.Query

/-- What the server reads as one. -/
inductive Token where
  | bare (c : Char)
  /-- A string or a name: the sign that opens it, and the rest with the sign that closes it. -/
  | quoted (d : Char) (rest : List Char)
  /-- A block without the slash-star that opens it. -/
  | comment (rest : List Char)
  deriving DecidableEq, Repr

namespace Token

def text : Token → List Char
  | bare c => [c]
  | quoted d t => d :: t
  | comment t => '/' :: '*' :: t

def isComment : Token → Bool
  | comment _ => true
  | _ => false

/-- Whether a token is a string, and no name. -/
def isString : Token → Bool
  | quoted d _ => d != '`'
  | _ => false

@[simp] theorem text_bare (c : Char) : (bare c).text = [c] := rfl

@[simp] theorem text_quoted (d : Char) (t : List Char) : (quoted d t).text = d :: t := rfl

@[simp] theorem text_comment (t : List Char) : (comment t).text = '/' :: '*' :: t := rfl

end Token

/-- The text that was read. -/
def textOf (τs : List Token) : List Char := τs.flatMap Token.text

@[simp] theorem textOf_nil : textOf [] = [] := rfl

@[simp] theorem textOf_cons (τ : Token) (τs : List Token) :
    textOf (τ :: τs) = τ.text ++ textOf τs := rfl

@[simp] theorem textOf_append (σs τs : List Token) :
    textOf (σs ++ τs) = textOf σs ++ textOf τs := List.flatMap_append

@[simp] theorem textOf_map_bare (s : List Char) : textOf (s.map .bare) = s := by
  simp [textOf, List.flatMap_map]

/-! ## Quotes -/

/-- The signs that open quotes. -/
def isQuoteSign (c : Char) : Bool := c = '\'' || c = '"' || c = '`'

/-- The rest of a quoted text with the sign that closes it. -/
inductive Closes (d : Char) : List Char → Prop
  | close : Closes d [d]
  | doubled {s : List Char} (hs : Closes d s) : Closes d (d :: d :: s)
  | hidden {c : Char} {s : List Char} (hd : d ≠ '`') (hs : Closes d s) : Closes d ('\\' :: c :: s)
  | plain {c : Char} {s : List Char} (hc : c ≠ d) (hb : c = '\\' → d = '`') (hs : Closes d s) :
      Closes d (c :: s)

/-- Splits a text that begins inside the quotes `d` after the sign that closes them. -/
def splitQuote (d : Char) : List Char → List Char × List Char
  | [] => ([], [])
  | [c] => ([c], [])
  | c :: e :: s =>
    -- a hidden character, or the sign doubled
    if c = '\\' ∧ d ≠ '`' ∨ c = d ∧ e = d then
      (c :: e :: (splitQuote d s).1, (splitQuote d s).2)
    else if c = d then ([c], e :: s)
    else (c :: (splitQuote d (e :: s)).1, (splitQuote d (e :: s)).2)

/-- A quote is cut into what is inside and what comes behind. -/
theorem splitQuote_append (d : Char) (s : List Char) :
    (splitQuote d s).1 ++ (splitQuote d s).2 = s := by
  fun_induction splitQuote d s with
  | case1 => rfl
  | case2 => rfl
  | case3 c e s _ ih => simp [ih]
  | case4 => rfl
  | case5 c e s _ _ ih => simp [ih]

/-- What comes behind a quote is no longer than the text. -/
theorem length_splitQuote_le (d : Char) (s : List Char) :
    (splitQuote d s).2.length ≤ s.length := by
  have := congrArg List.length (splitQuote_append d s)
  rw [List.length_append] at this
  omega

/-- A quote that is closed ends with its sign. -/
theorem Closes.getLast? {d : Char} {t : List Char} (ht : Closes d t) : t.getLast? = some d := by
  induction ht with
  | close => rfl
  | doubled hs ih | hidden _ hs ih | plain _ _ hs ih => simp [List.getLast?_cons, ih]

/-- A quote that is closed is not empty. -/
theorem Closes.ne_nil {d : Char} {t : List Char} (ht : Closes d t) : t ≠ [] := by
  cases ht <;> simp

/-- Quotes end where they are closed, unless the sign that closes them is doubled. -/
theorem Closes.splitQuote_append {d : Char} (hd : d ≠ '\\') {t z : List Char} (ht : Closes d t)
    (hz : z.head? ≠ some d) : splitQuote d (t ++ z) = (t, z) := by
  induction ht with
  | close =>
    cases z with
    | nil => rfl
    | cons e z =>
      have he : e ≠ d := fun h ↦ hz (congrArg some h)
      simp [splitQuote, hd, he]
  | doubled _ ih => simp [splitQuote, ih]
  | hidden hn _ ih => simp [splitQuote, hn, ih]
  | @plain c s hc hb hs ih =>
    obtain ⟨e, s, rfl⟩ := List.exists_cons_of_ne_nil hs.ne_nil
    have hn : ¬ (c = '\\' ∧ d ≠ '`' ∨ c = d ∧ e = d) := by
      rintro (⟨h, hd⟩ | ⟨h, -⟩)
      · exact hd (hb h)
      · exact hc h
    rw [List.cons_append, List.cons_append, splitQuote, if_neg hn, if_neg hc, ← List.cons_append, ih]

/-- Behind quotes the sign that closed them does not follow. -/
theorem head?_splitQuote_ne (d : Char) (s : List Char) : (splitQuote d s).2.head? ≠ some d := by
  fun_induction splitQuote d s with
  | case1 | case2 => simp
  | case3 c e s _ ih | case5 c e s _ _ ih => exact ih
  | case4 e s h => simp_all

/-! ## Blocks -/

/-- Splits a text after the first star-slash. -/
def splitClose? : List Char → Option (List Char × List Char)
  | '*' :: '/' :: s => some (['*', '/'], s)
  | c :: s => (splitClose? s).map fun (t, r) ↦ (c :: t, r)
  | [] => none

/-- A block ends with its mark. -/
theorem exists_of_splitClose? {s t r : List Char} (h : splitClose? s = some (t, r)) :
    s = t ++ r ∧ ∃ y, t = y ++ ['*', '/'] := by
  fun_induction splitClose? s generalizing t r with
  | case1 s =>
    cases h
    exact ⟨rfl, [], rfl⟩
  | case2 c s _ ih =>
    obtain ⟨⟨t, r⟩, hs, h⟩ := Option.map_eq_some_iff.mp h
    cases h
    obtain ⟨rfl, y, rfl⟩ := ih hs
    exact ⟨rfl, c :: y, rfl⟩
  | case3 => cases h

/-- A block is the same whatever comes behind it. -/
theorem splitClose?_append_of_some {s t r : List Char} (h : splitClose? s = some (t, r))
    (z : List Char) : splitClose? (s ++ z) = some (t, r ++ z) := by
  fun_induction splitClose? s generalizing t r with
  | case1 s =>
    cases h
    rfl
  | case2 c s hn ih =>
    obtain ⟨⟨t, r⟩, hs, h⟩ := Option.map_eq_some_iff.mp h
    cases h
    rw [List.cons_append, splitClose?]
    · rw [ih hs]
      rfl
    · rintro y rfl
      intro hy
      cases s with
      | nil => cases hs
      | cons e s =>
        obtain ⟨rfl, -⟩ := List.cons.inj hy
        exact hn _ rfl rfl
  | case3 => cases h

/-- Without a slash a block is not closed. -/
theorem splitClose?_eq_none_of_not_mem {s : List Char} (hs : '/' ∉ s) : splitClose? s = none := by
  refine Option.eq_none_iff_forall_ne_some.mpr ?_
  rintro ⟨t, r⟩ h
  obtain ⟨rfl, y, rfl⟩ := exists_of_splitClose? h
  simp at hs

/-- A block that is not closed stays so before a text without a slash. -/
theorem splitClose?_append_of_none {s z : List Char} (h : splitClose? s = none) (hz : '/' ∉ z) :
    splitClose? (s ++ z) = none := by
  fun_induction splitClose? s with
  | case1 => cases h
  | case2 c s hn ih =>
    rw [List.cons_append, splitClose?]
    · rw [ih (Option.map_eq_none_iff.mp h)]
      rfl
    · rintro y rfl hy
      rcases List.append_eq_cons_iff.mp hy with ⟨-, rfl⟩ | ⟨r, rfl, -⟩
      · simp at hz
      · exact hn r rfl rfl
  | case3 => exact splitClose?_eq_none_of_not_mem hz

/-! ## Tokens -/

/-- The tokens of a query. -/
def tokens : List Char → List Token
  | [] => []
  | '/' :: '*' :: s =>
    match _h : splitClose? s with
    | some (t, r) => .comment t :: tokens r
    | none => .bare '/' :: tokens ('*' :: s)
  | c :: s =>
    if isQuoteSign c then .quoted c (splitQuote c s).1 :: tokens (splitQuote c s).2
    else .bare c :: tokens s
termination_by s => s.length
decreasing_by
  · rw [(exists_of_splitClose? _h).1]
    simp only [List.length_cons, List.length_append]
    omega
  · simp
  · exact Nat.lt_succ_of_le (length_splitQuote_le c s)
  · simp

/-- Reading loses nothing. -/
theorem textOf_tokens (s : List Char) : textOf (tokens s) = s := by
  fun_induction tokens s with
  | case1 => rfl
  | case2 s t r h ih => simp [ih, (exists_of_splitClose? h).1]
  | case3 s h ih => simp [ih]
  | case4 c s h hc ih => simp [ih, splitQuote_append]
  | case5 c s h hc ih => simp [ih]

example : tokens "a'b''c'/*d*/`e".toList = [.bare 'a', .quoted '\'' "b''c'".toList,
    .comment "d*/".toList, .quoted '`' ['e']] := by decide +kernel

/-- A block that is closed is a token of its own. -/
theorem tokens_block {s t r : List Char} (h : splitClose? s = some (t, r)) :
    tokens ('/' :: '*' :: s) = .comment t :: tokens r := by
  rw [tokens]
  split <;> simp_all

/-- A slash before a block that is never closed stands alone. -/
theorem tokens_slash {s : List Char} (h : splitClose? s = none) :
    tokens ('/' :: '*' :: s) = .bare '/' :: tokens ('*' :: s) := by
  rw [tokens]
  split <;> simp_all

/-- A quote is a token of its own. -/
theorem tokens_quote {c : Char} (hc : isQuoteSign c = true) (s : List Char) :
    tokens (c :: s) = .quoted c (splitQuote c s).1 :: tokens (splitQuote c s).2 := by
  rw [tokens]
  · simp [hc]
  · rintro t rfl
    exact absurd hc (by decide)

/-- A sign that opens neither quotes nor a block is read by itself. -/
theorem tokens_cons {c : Char} (hq : isQuoteSign c = false) (hc : c ≠ '/') (s : List Char) :
    tokens (c :: s) = .bare c :: tokens s := by
  rw [tokens]
  · simp [hq]
  · rintro t rfl
    exact absurd rfl hc

/-- The first token is read off the front of the text, and the others off the rest; quotes end where
`splitQuote` ends them. -/
theorem exists_of_tokens_eq_cons {s : List Char} {σ : Token} {σs : List Token}
    (h : tokens s = σ :: σs) :
    ∃ r, s = σ.text ++ r ∧ tokens r = σs ∧
      ∀ d t, σ = .quoted d t → isQuoteSign d = true ∧ splitQuote d (t ++ r) = (t, r) := by
  unfold tokens at h
  split at h
  · cases h
  · split at h
    next s t r hs =>
      obtain ⟨rfl, rfl⟩ := List.cons_eq_cons.mp h
      exact ⟨r, by simp [(exists_of_splitClose? hs).1], rfl, by simp⟩
    next s hs =>
      obtain ⟨rfl, rfl⟩ := List.cons_eq_cons.mp h
      exact ⟨'*' :: s, rfl, rfl, by simp⟩
  · split at h
    next c s _ hc =>
      obtain ⟨rfl, rfl⟩ := List.cons_eq_cons.mp h
      refine ⟨_, by simp [splitQuote_append], rfl, ?_⟩
      rintro d t hdt
      cases hdt
      exact ⟨hc, by rw [splitQuote_append]⟩
    next c s _ hc =>
      obtain ⟨rfl, rfl⟩ := List.cons_eq_cons.mp h
      exact ⟨s, rfl, rfl, by simp⟩

/-- A comment ends with a star-slash. -/
theorem exists_of_comment_mem_tokens {s t : List Char} (h : .comment t ∈ tokens s) :
    ∃ y, t = y ++ ['*', '/'] := by
  fun_induction tokens s with
  | case1 => cases h
  | case2 s u r hu ih =>
    rcases List.mem_cons.mp h with h | h
    · cases h
      exact (exists_of_splitClose? hu).2
    · exact ih h
  | case3 s _ ih => exact ih (by simpa using h)
  | case4 c s _ _ ih => exact ih (by simpa using h)
  | case5 c s _ _ ih => exact ih (by simpa using h)

/-- A query without blocks is read without comments. -/
theorem holdsBlock_of_mem_tokens {s : List Char} {τ : Token} (hτ : τ ∈ tokens s)
    (hc : τ.isComment = true) : HoldsBlock s := by
  cases τ with
  | bare c => cases hc
  | quoted d t => cases hc
  | comment t =>
    obtain ⟨y, rfl⟩ := exists_of_comment_mem_tokens hτ
    obtain ⟨σs, τs, hs⟩ := List.append_of_mem hτ
    refine ⟨textOf σs, y, textOf τs, ?_⟩
    rw [← textOf_tokens s, hs]
    simp

/-! ## Closed tokens -/

/-- A string or a name that is closed, or anything else. -/
def Token.IsClosed : Token → Prop
  | .quoted d t => Closes d t
  | _ => True

/-- A text without the signs that open or close quotes and blocks. -/
def IsInert (y : List Char) : Prop := ∀ c ∈ y, isQuoteSign c = false ∧ c ≠ '/' ∧ c ≠ '*'

/-- Characters without meaning are tokens of their own. -/
theorem tokens_inert_append {y : List Char} (hy : IsInert y) (s : List Char) :
    tokens (y ++ s) = y.map .bare ++ tokens s := by
  induction y with
  | nil => rfl
  | cons c y ih =>
    obtain ⟨hq, hc, -⟩ := hy c List.mem_cons_self
    rw [List.cons_append, tokens_cons hq hc, ih fun d h ↦ hy d (List.mem_cons_of_mem c h)]
    rfl

theorem tokens_of_isInert {y : List Char} (hy : IsInert y) : tokens y = y.map .bare := by
  have h := tokens_inert_append hy []
  rwa [List.append_nil, tokens, List.append_nil] at h

/-- Characters without meaning are no quotes. -/
theorem IsInert.not_mem {d : Char} (hd : isQuoteSign d = true) {y : List Char} (hy : IsInert y) :
    d ∉ y := fun h ↦ by
  rw [(hy d h).1] at hd
  cases hd

/-- A text that ends with a character which is not in `y` ends in front of `y`. -/
theorem exists_append_of_getLast? {t r s y : List Char} {d : Char} (h : t ++ r = s ++ y)
    (ht : t.getLast? = some d) (hd : d ∉ y) : ∃ u, s = t ++ u ∧ r = u ++ y := by
  obtain ⟨u, rfl, rfl⟩ | ⟨u, rfl, rfl⟩ := List.append_eq_append_iff.mp h
  · exact ⟨u, rfl, rfl⟩
  · rcases List.eq_nil_or_concat u with rfl | ⟨u, e, rfl⟩
    · exact ⟨[], by simp, rfl⟩
    · have he : e = d := by simpa [← List.append_assoc] using ht
      exact absurd (by simp [he]) hd

/-- Quotes that are closed in front of an inert text end there with any other in its place. -/
theorem splitQuote_append_of_closes {d : Char} (hd : isQuoteSign d = true) {s y z : List Char}
    (hy : IsInert y) (hz : IsInert z) (h : Closes d (splitQuote d (s ++ y)).1) :
    splitQuote d (s ++ z) = ((splitQuote d s).1, (splitQuote d s).2 ++ z) := by
  have hb : d ≠ '\\' := by
    rintro rfl
    exact absurd hd (by decide)
  have hs := splitQuote_append d (s ++ y)
  have hr := head?_splitQuote_ne d (s ++ y)
  generalize (splitQuote d (s ++ y)).1 = t at h hs
  generalize (splitQuote d (s ++ y)).2 = r at hs hr
  obtain ⟨u, rfl, rfl⟩ := exists_append_of_getLast? hs h.getLast? (hy.not_mem hd)
  have hu {x : List Char} (hx : IsInert x) : (u ++ x).head? ≠ some d := fun h ↦ by
    cases u with
    | nil => exact hx.not_mem hd (List.mem_of_head? h)
    | cons e u => exact hr h
  have hn := h.splitQuote_append hb (hu (x := []) (by simp [IsInert]))
  rw [List.append_nil] at hn
  rw [List.append_assoc, h.splitQuote_append hb (hu hz), hn]

/-- What an inert text is put behind, with all its quotes closed, is read as without it. -/
theorem tokens_append_of_isClosed {x y z : List Char} (hy : IsInert y) (hz : IsInert z)
    (h : ∀ τ ∈ tokens (x ++ y), τ.IsClosed) : tokens (x ++ z) = tokens x ++ z.map .bare := by
  have hm {u : List Char} (hu : IsInert u) : '/' ∉ u := fun hm ↦ (hu _ hm).2.1 rfl
  fun_induction tokens x with
  | case1 => simp [tokens_of_isInert hz]
  | case2 s t r hs ih =>
    rw [List.cons_append, List.cons_append, tokens_block (splitClose?_append_of_some hs y)] at h
    rw [List.cons_append, List.cons_append, tokens_block (splitClose?_append_of_some hs z),
      ih fun τ hτ ↦ h τ (List.mem_cons_of_mem _ hτ)]
    rfl
  | case3 s hs ih =>
    rw [List.cons_append, List.cons_append, tokens_slash (splitClose?_append_of_none hs (hm hy))] at h
    rw [List.cons_append, List.cons_append, tokens_slash (splitClose?_append_of_none hs (hm hz)),
      ← List.cons_append, ih fun τ hτ ↦ h τ (List.mem_cons_of_mem _ hτ)]
    rfl
  | case4 c s _ hc ih =>
    rw [List.cons_append, tokens_quote hc] at h
    have hq := h _ List.mem_cons_self
    have hs {u : List Char} (hu : IsInert u) := splitQuote_append_of_closes hc hy hu hq
    rw [hs hy] at h
    rw [List.cons_append, tokens_quote hc, hs hz, ih fun τ hτ ↦ h τ (List.mem_cons_of_mem _ hτ)]
    rfl
  | case5 c s hn hc ih =>
    have hs {u : List Char} (hu : IsInert u) :
        tokens (c :: (s ++ u)) = .bare c :: tokens (s ++ u) := by
      rw [tokens]
      · simp [hc]
      · rintro t rfl ht
        rcases List.append_eq_cons_iff.mp ht with ⟨-, rfl⟩ | ⟨r, rfl, -⟩
        · exact (hu _ List.mem_cons_self).2.2 rfl
        · exact hn r rfl rfl
    rw [List.cons_append, hs hy] at h
    rw [List.cons_append, hs hz, ih fun τ hτ ↦ h τ (List.mem_cons_of_mem _ hτ)]
    rfl

end Sluice.Query
