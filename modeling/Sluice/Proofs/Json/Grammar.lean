import Sluice.Proofs.Json.Number

/-!
# The grammar of JSON

The grammar of RFC 8259.  Whoever reads a text of it and leaves out its strings comes across three
words and the marks of containers and numbers; so there is no capital letter but the `E` of a number
(`IsJson.showsSober`).
-/

namespace Sluice.Json

/-! ## Strings -/

/-- Section 2: blanks between the marks. -/
def IsBlank (s : List Char) : Prop := ∀ c ∈ s, c ∈ [' ', '\t', '\n', '\r']

def IsHexDigit (c : Char) : Prop :=
  ('0' ≤ c ∧ c ≤ '9') ∨ ('a' ≤ c ∧ c ≤ 'f') ∨ ('A' ≤ c ∧ c ≤ 'F')

/-- Section 7: how a character stands between quotes. -/
inductive IsCharacter : List Char → Prop
  | unescaped {c : Char} (h : 0x20 ≤ c.toNat) (hq : c ≠ '"') (hb : c ≠ '\\') : IsCharacter [c]
  | escaped {c : Char} (h : c ∈ ['"', '\\', '/', 'b', 'f', 'n', 'r', 't']) : IsCharacter ['\\', c]
  | unit {a b c d : Char} (ha : IsHexDigit a) (hb : IsHexDigit b) (hc : IsHexDigit c)
    (hd : IsHexDigit d) : IsCharacter ['\\', 'u', a, b, c, d]

inductive IsString : List Char → Prop
  | mk {cs : List (List Char)} (h : ∀ c ∈ cs, IsCharacter c) :
    IsString ('"' :: (cs.flatten ++ ['"']))

/-- A string with blanks around it. -/
inductive IsName : List Char → Prop
  | mk {v s w : List Char} (hv : IsBlank v) (hs : IsString s) (hw : IsBlank w) :
    IsName (v ++ s ++ w)

/-! ## Texts -/

/-- A value with blanks around it. -/
inductive IsJson : List Char → Prop
  | before {c : Char} {s : List Char} (hc : IsBlank [c]) (h : IsJson s) : IsJson (c :: s)
  | after {c : Char} {s : List Char} (h : IsJson s) (hc : IsBlank [c]) : IsJson (s ++ [c])
  /-- Section 3. -/
  | word {s : List Char} (h : s ∈ ["null".toList, "true".toList, "false".toList]) : IsJson s
  /-- Section 4. -/
  | noMembers {s : List Char} (h : IsBlank s) : IsJson ('{' :: (s ++ ['}']))
  | object {ms : List (List Char × List Char)} (h0 : ms ≠ []) (hk : ∀ m ∈ ms, IsName m.1)
    (hv : ∀ m ∈ ms, IsJson m.2) :
    IsJson ('{' :: ([','].intercalate (ms.map fun m ↦ m.1 ++ ':' :: m.2) ++ ['}']))
  /-- Section 5. -/
  | noElements {s : List Char} (h : IsBlank s) : IsJson ('[' :: (s ++ [']']))
  | array {es : List (List Char)} (h0 : es ≠ []) (h : ∀ e ∈ es, IsJson e) :
    IsJson ('[' :: ([','].intercalate es ++ [']']))
  | number {b : Bool} {s : List Char} (h : IsNumber b s) : IsJson s
  | string {s : List Char} (h : IsString s) : IsJson s

/-! ## What stands outside of strings -/

/-- Where a reader is: outside of strings, inside of one, or behind a backslash there. -/
inductive Place where
  | outside
  | inside
  | escaped

/-- What stands outside of strings in a text. -/
def bare : Place → List Char → List Char
  | _, [] => []
  | .outside, c :: s => if c = '"' then bare .inside s else c :: bare .outside s
  | .inside, c :: s =>
    if c = '"' then bare .outside s else if c = '\\' then bare .escaped s else bare .inside s
  | .escaped, _ :: s => bare .inside s

/-- A text that has no part in a string behind it shows `xs` outside of its own strings. -/
def Shows (s xs : List Char) : Prop := ∀ t, bare .outside (s ++ t) = xs ++ bare .outside t

namespace Shows

variable {s t xs ys : List Char}

theorem bare_eq (h : Shows s xs) : bare .outside s = xs := by
  have h := h []
  rwa [List.append_nil, bare, List.append_nil] at h

/-- What two texts show is shown by the two together. -/
theorem append (hs : Shows s xs) (ht : Shows t ys) : Shows (s ++ t) (xs ++ ys) := fun u ↦ by
  rw [List.append_assoc, hs, ht, List.append_assoc]

theorem nil : Shows [] [] := fun _ ↦ rfl

theorem cons {c : Char} (hc : c ≠ '"') (h : Shows s xs) : Shows (c :: s) (c :: xs) := fun t ↦ by
  rw [List.cons_append, bare, if_neg hc, h, List.cons_append]

/-- A text without quotes shows itself. -/
theorem self (h : '"' ∉ s) : Shows s s := by
  induction s with
  | nil => exact nil
  | cons c s ih =>
    obtain ⟨hc, hs⟩ := not_or.mp (mt List.mem_cons.mpr h)
    exact cons (Ne.symm hc) (ih hs)

end Shows

/-- The characters of a string are not outside of it. -/
theorem bare_of_isCharacter {s : List Char} (h : IsCharacter s) (t : List Char) :
    bare .inside (s ++ t) = bare .inside t := by
  have hhex {c : Char} (h : IsHexDigit c) : c ≠ '"' ∧ c ≠ '\\' := by
    constructor <;> rintro rfl <;> revert h <;> unfold IsHexDigit <;> decide
  cases h with
  | unescaped _ hq hb => simp [bare, hq, hb]
  | escaped => simp [bare]
  | unit ha hb hc hd => simp [bare, hhex ha, hhex hb, hhex hc, hhex hd]

/-- A string shows nothing. -/
theorem shows_of_isString {s : List Char} (h : IsString s) : Shows s [] := by
  obtain ⟨h⟩ := h
  intro t
  rw [List.cons_append, bare, if_pos rfl]
  rename_i cs
  induction cs with
  | nil => rfl
  | cons c cs ih =>
    obtain ⟨hc, hcs⟩ := List.forall_mem_cons.mp h
    rw [List.flatten_cons, List.append_assoc, List.append_assoc, bare_of_isCharacter hc]
    rw [List.append_assoc] at ih
    exact ih hcs

/-! ## What a text of the grammar shows -/

/-- Without the letters that a word for a number begins with which is not finite. -/
def IsSober (xs : List Char) : Prop := ∀ c ∈ xs, c ≠ 'N' ∧ c ≠ 'I'

/-- Texts are sober together if each is. -/
theorem isSober_append {xs ys : List Char} : IsSober (xs ++ ys) ↔ IsSober xs ∧ IsSober ys :=
  List.forall_mem_append

/-- A text shows something sober. -/
def ShowsSober (s : List Char) : Prop := ∃ xs, Shows s xs ∧ IsSober xs

namespace ShowsSober

variable {s t : List Char}

/-- Texts that show something sober do so together. -/
theorem append (hs : ShowsSober s) (ht : ShowsSober t) : ShowsSober (s ++ t) := by
  obtain ⟨xs, hs, hxs⟩ := hs
  obtain ⟨ys, ht, hys⟩ := ht
  exact ⟨xs ++ ys, hs.append ht, isSober_append.mpr ⟨hxs, hys⟩⟩

/-- A text without quotes and those letters. -/
theorem of_forall (h : ∀ c ∈ s, c ≠ '"' ∧ c ≠ 'N' ∧ c ≠ 'I') : ShowsSober s :=
  ⟨s, .self fun hq ↦ (h _ hq).1 rfl, fun c hc ↦ (h c hc).2⟩

theorem mark {c : Char} (h : c ≠ '"' ∧ c ≠ 'N' ∧ c ≠ 'I') : ShowsSober [c] :=
  of_forall (List.forall_mem_singleton.mpr h)

theorem of_isBlank (h : IsBlank s) : ShowsSober s := of_forall fun c hc ↦
  (by simp : ∀ c ∈ [' ', '\t', '\n', '\r'], c ≠ '"' ∧ c ≠ 'N' ∧ c ≠ 'I') c (h c hc)

theorem of_digits (h : ∀ c ∈ s, c.isDigit = true) : ShowsSober s := of_forall fun c hc ↦ by
  have h := h c hc
  refine ⟨?_, ?_, ?_⟩ <;> rintro rfl <;> revert h <;> decide

/-- A string shows nothing. -/
theorem of_isString (h : IsString s) : ShowsSober s := ⟨[], shows_of_isString h, nofun⟩

theorem of_isName (h : IsName s) : ShowsSober s := by
  obtain ⟨hv, hs, hw⟩ := h
  exact ((of_isBlank hv).append (of_isString hs)).append (of_isBlank hw)

theorem of_isExponent (h : IsExponent s) : ShowsSober s := by
  cases h with
  | none => exact of_digits nofun
  | some he hν hs =>
    refine append (s := [_]) (mark ?_) (append (of_forall ?_) (of_digits hs.2))
    · obtain rfl | rfl := he <;> decide
    · exact (by simp : ∀ ν ∈ [[], ['+'], ['-']], ∀ c ∈ ν, c ≠ '"' ∧ c ≠ 'N' ∧ c ≠ 'I') _ hν

theorem of_isMagnitude {b : Bool} (h : IsMagnitude b s) : ShowsSober s := by
  cases h with
  | whole hw => exact of_digits hw.isDigits.2
  | point hw hf he =>
    exact (of_digits hw.isDigits.2).append
      ((mark (by decide)).append ((of_digits hf.2).append (of_isExponent he)))
  | mark hw he => exact (of_digits hw.isDigits.2).append (of_isExponent he)

theorem of_isNumber {b : Bool} (h : IsNumber b s) : ShowsSober s := by
  cases h with
  | positive h => exact of_isMagnitude h
  | negative h => exact (mark (by decide)).append (of_isMagnitude h)

/-- Texts with commas between them show something sober if each does. -/
theorem intercalate {ss : List (List Char)} (h : ∀ s ∈ ss, ShowsSober s) :
    ShowsSober ([','].intercalate ss) := by
  induction ss with
  | nil => exact of_digits nofun
  | cons s ss ih =>
    obtain ⟨hs, hss⟩ := List.forall_mem_cons.mp h
    cases ss with
    | nil => rwa [List.intercalate_singleton]
    | cons t ss =>
      rw [List.intercalate_cons_cons]
      exact (hs.append (mark (by decide))).append (ih hss)

end ShowsSober

/-- A text of the grammar shows no letter that a word for a number begins with which is not finite.
-/
theorem IsJson.showsSober {s : List Char} (h : IsJson s) : ShowsSober s := by
  have hmark {c : Char} (h : c ∈ ['[', ']', '{', '}', ':']) : ShowsSober [c] :=
    .mark ((by simp : ∀ c ∈ ['[', ']', '{', '}', ':'], c ≠ '"' ∧ c ≠ 'N' ∧ c ≠ 'I') c h)
  induction h with
  | before hc _ ih => exact (ShowsSober.of_isBlank hc).append ih
  | after _ hc ih => exact ih.append (.of_isBlank hc)
  | word h =>
    exact .of_forall ((by simp : ∀ s ∈ ["null".toList, "true".toList, "false".toList],
      ∀ c ∈ s, c ≠ '"' ∧ c ≠ 'N' ∧ c ≠ 'I') _ h)
  | noMembers h =>
    exact (hmark (by decide)).append ((ShowsSober.of_isBlank h).append (hmark (by decide)))
  | object _ hk _ ih =>
    refine (hmark (by decide)).append ((ShowsSober.intercalate fun s hs ↦ ?_).append
      (hmark (by decide)))
    obtain ⟨m, hm, rfl⟩ := List.mem_map.mp hs
    exact (ShowsSober.of_isName (hk m hm)).append ((hmark (by decide)).append (ih m hm))
  | noElements h =>
    exact (hmark (by decide)).append ((ShowsSober.of_isBlank h).append (hmark (by decide)))
  | array _ _ ih =>
    exact (hmark (by decide)).append ((ShowsSober.intercalate ih).append (hmark (by decide)))
  | number h => exact .of_isNumber h
  | string h => exact .of_isString h

end Sluice.Json
