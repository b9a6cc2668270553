import Sluice.Text.Blank
import Sluice.Text.Word

/-!
# Keyword phrases

A phrase is a sequence of keywords with blanks between them, read without regard to letter case.
Besides its two ASCII forms a keyword's letter may be one of the characters whose simple lower case
is that letter: the long s, the Kelvin sign, and the dotted and dotless forms of I.
-/

namespace Sluice.Query

open Text

/-- The capital ASCII letter that a character stands for in a keyword, or the character itself. -/
def keyLetter (c : Char) : Char :=
  match c with
  | 'ſ' => 'S'
  | '\u212A' => 'K'
  | 'İ' => 'I'
  | 'ı' => 'I'
  | c => c.toUpper

/-- The text after the keyword `w`, which is given in capitals, if the text begins with it. -/
def afterWord? : List Char → List Char → Option (List Char)
  | [], s => some s
  | _ :: _, [] => none
  | k :: w, c :: s => if keyLetter c = k then afterWord? w s else none

/-- The text after at least one blank. -/
def afterBlanks? : List Char → Option (List Char)
  | c :: s => if isBlank c then some (trimLeft s) else none
  | [] => none

/-- The text after the words of a phrase, with blanks between each two. -/
def afterPhrase? : List String → List Char → Option (List Char)
  | [], s => some s
  | [w], s => afterWord? w.toList s
  | w :: ws, s => (afterWord? w.toList s).bind fun t ↦ (afterBlanks? t).bind (afterPhrase? ws)

/-- Whether the phrase stands somewhere in the text between word boundaries; `before` is the
character in front of the text. -/
def occursFrom (ws : List String) (before : Option Char) : List Char → Bool
  | [] => false
  | c :: s =>
    (isBoundary before (some c) &&
      (afterPhrase? ws (c :: s)).any fun t ↦ !(t.head?.any isWord)) ||
    occursFrom ws (some c) s

/-- Whether the phrase stands somewhere in the text between word boundaries. -/
def occurs (ws : List String) (s : List Char) : Bool := occursFrom ws none s

@[simp] theorem afterWord?_nil (s : List Char) : afterWord? [] s = some s := by
  cases s <;> rfl

@[simp] theorem afterBlanks?_nil : afterBlanks? [] = none := rfl

@[simp] theorem occurs_nil (ws : List String) : occurs ws [] = false := rfl

/-- A keyword is as long as the text it is read from. -/
theorem length_afterWord? {w s t : List Char} (h : afterWord? w s = some t) :
    t.length + w.length = s.length := by
  fun_induction afterWord? w s with
  | case1 => cases h; simp
  | case2 => cases h
  | case3 _ _ _ ih => have := ih h; simp only [List.length_cons]; omega
  | case4 => cases h

end Sluice.Query
