import Sluice.Text.Blank

/-!
# Files of environment variables

A line `NAME=value` binds a name.  The word `export` may stand in front, a value may be quoted and
then runs over several lines, and `#` after a blank begins a comment.  A line that is none of this
binds nothing.  After reading, `${NAME}` and `${NAME:-default}` in a value stand for what the name
is bound to further up, or in the environment.
-/

namespace Sluice.Settings.EnvFile

open Text

/-- A name and its value; a name without `=` has none. -/
structure Binding where
  name : List Char
  value : Option (List Char)
  deriving DecidableEq, Repr

/-- Makes every line break a line feed. -/
def unifyBreaks : List Char → List Char
  | '\r' :: '\n' :: s => '\n' :: unifyBreaks s
  | '\r' :: s => '\n' :: unifyBreaks s
  | c :: s => c :: unifyBreaks s
  | [] => []

/-- A blank within a line. -/
def isInnerBlank (c : Char) : Bool := isBlank c && c != '\n'

def skipBlanks (s : List Char) : List Char := s.dropWhile isInnerBlank

/-- What is read, or the text at which reading failed. -/
abbrev Reading (α : Type) := Except (List Char) α

/-- Skips the word `export` if a blank follows it. -/
def skipExport (s : List Char) : List Char :=
  match s with
  | 'e' :: 'x' :: 'p' :: 'o' :: 'r' :: 't' :: c :: t =>
    if isInnerBlank c then skipBlanks t else s
  | s => s

def isNameChar (c : Char) : Bool := c != '=' && c != '#' && !isBlank c

/-- Reads a name; before a comment there is none. -/
def readName (s : List Char) : Reading (Option (List Char) × List Char) :=
  match s with
  | '#' :: _ => .ok (none, s)
  | '\'' :: t =>
    match t.takeWhile (· != '\''), t.dropWhile (· != '\'') with
    | c :: ν, _ :: r => .ok (some (c :: ν), r)
    | _, _ => .error s
  | s =>
    match s.takeWhile isNameChar with
    | [] => .error s
    | ν => .ok (some ν, s.dropWhile isNameChar)

/-- The text up to the first quote `q` that no backslash precedes, and the text after it. -/
def untilQuote (q : Char) (escaped : Bool) : List Char → Option (List Char × List Char)
  | [] => none
  | c :: s =>
    if c = q ∧ ¬escaped then some ([], s)
    else (untilQuote q (c == '\\') s).map fun (t, r) ↦ (c :: t, r)

/-- The text up to the last quote `q`, and the text after it. -/
def untilLastQuote (q : Char) (s : List Char) : Option (List Char × List Char) :=
  let r := s.reverse
  match r.dropWhile (· != q) with
  | [] => none
  | _ :: t => some (t.reverse, (r.takeWhile (· != q)).reverse)

/-- What follows an opening quote up to the closing one.  If every quote is escaped, the last one
closes. -/
def readQuoted (q : Char) (s : List Char) : Option (List Char × List Char) :=
  (untilQuote q false s).or (untilLastQuote q s)

/-- Replaces a backslash and the character after it where `ε` knows the pair. -/
def unescape (ε : Char → Option Char) : List Char → List Char
  | '\\' :: c :: s =>
    match ε c with
    | some d => d :: unescape ε s
    | none => '\\' :: c :: unescape ε s
  | c :: s => c :: unescape ε s
  | [] => []

/-- What a backslash stands for between single quotes. -/
def singleEscape : Char → Option Char
  | '\\' => some '\\'
  | '\'' => some '\''
  | _ => none

/-- What a backslash stands for between double quotes. -/
def doubleEscape : Char → Option Char
  | '\\' => some '\\'
  | '\'' => some '\''
  | '"' => some '"'
  | 'a' => some '\x07'
  | 'b' => some '\x08'
  | 'f' => some '\x0c'
  | 'n' => some '\n'
  | 'r' => some '\r'
  | 't' => some '\t'
  | 'v' => some '\x0b'
  | _ => none

/-- Cuts a comment, which begins with the blanks in front of its `#`. -/
def cutComment : List Char → List Char
  | [] => []
  | c :: s => if isBlank c && (trimLeft s).head? == some '#' then [] else c :: cutComment s

def readValue (s : List Char) : Reading (List Char × List Char) :=
  match s with
  | '\'' :: t =>
    match readQuoted '\'' t with
    | some (v, r) => .ok (unescape singleEscape v, r)
    | none => .error s
  | '"' :: t =>
    match readQuoted '"' t with
    | some (v, r) => .ok (unescape doubleEscape v, r)
    | none => .error s
  | s => .ok (trimRight (cutComment (s.takeWhile (· != '\n'))), s.dropWhile (· != '\n'))

/-- Reads the value after a name, if there is a `=`. -/
def readAssigned (s : List Char) : Reading (Option (List Char) × List Char) :=
  match skipBlanks s with
  | '=' :: t => (readValue (skipBlanks t)).map fun (v, r) ↦ (some v, r)
  | t => .ok (none, t)

/-- Skips blanks, a comment and the line break. -/
def skipEnd (s : List Char) : Reading (List Char) :=
  let t := skipBlanks s
  match if t.head? = some '#' then t.dropWhile (· != '\n') else t with
  | [] => .ok []
  | '\n' :: r => .ok r
  | _ => .error s

/-- Reads a binding to the end of its line. -/
def readBinding (s : List Char) : Reading (Option Binding × List Char) := do
  let (ν, r) ← readName (skipExport s)
  let (v, r) ← readAssigned r
  let r ← skipEnd r
  return (ν.map (⟨·, v⟩), r)

/-- Reads the next binding if there is one, and gives the text after its line. -/
def next (s : List Char) : Option Binding × List Char :=
  match trimLeft s with
  | [] => (none, [])
  | t =>
    match readBinding t with
    | .ok r => r
    | .error r => (none, (r.dropWhile (· != '\n')).drop 1)

/-- Reads all bindings, given no more lines than `fuel`. -/
def readAll : Nat → List Char → List Binding
  | 0, _ => []
  | _, [] => []
  | n + 1, s =>
    let (β, r) := next s
    β.toList ++ readAll n r

/-- The bindings of a file. -/
def bindings (s : List Char) : List Binding :=
  let t := unifyBreaks s
  readAll t.length t

/-! ### References -/

/-- A reference to a name, with what stands for the name if it is not bound. -/
structure Reference where
  name : List Char
  default : List Char
  deriving DecidableEq, Repr

/-- The reference that a text begins with, and its length. -/
def reference? : List Char → Option (Reference × Nat)
  | '$' :: '{' :: s =>
    let ν := s.takeWhile fun c ↦ c != '}' && c != ':'
    match s.drop ν.length with
    | '}' :: _ => some (⟨ν, []⟩, ν.length + 3)
    | ':' :: '-' :: t =>
      let δ := t.takeWhile (· != '}')
      if (t.drop δ.length).isEmpty then none else some (⟨ν, δ⟩, ν.length + δ.length + 5)
    | _ => none
  | _ => none

/-- Skips `n` characters and then replaces each reference by what `look` gives for it. -/
def expandFrom (look : Reference → List Char) : Nat → List Char → List Char
  | _, [] => []
  | n + 1, _ :: s => expandFrom look n s
  | 0, c :: s =>
    match reference? (c :: s) with
    | some (ρ, n) => look ρ ++ expandFrom look (n - 1) s
    | none => c :: expandFrom look 0 s

def expand (look : Reference → List Char) (s : List Char) : List Char := expandFrom look 0 s

/-- A text without a dollar sign has no reference. -/
theorem expand_of_not_mem (look : Reference → List Char) {s : List Char} (h : '$' ∉ s) :
    expand look s = s := by
  unfold expand
  induction s with
  | nil => rfl
  | cons c s ih =>
    have hc : reference? (c :: s) = none := by
      unfold reference?
      split
      · rename_i e
        simp only [List.cons.injEq] at e
        exact absurd (e.1 ▸ List.mem_cons_self) h
      · rfl
    simp only [expandFrom, hc, ih fun m ↦ h (List.mem_cons_of_mem _ m)]

/-- Names and values; a name that is bound twice keeps its first place and its last value. -/
abbrev Table := List (String × Option String)

def Table.put : Table → String → Option String → Table
  | [], k, v => [(k, v)]
  | (l, w) :: τ, k, v => if l = k then (l, v) :: τ else (l, w) :: Table.put τ k v

/-- What a reference stands for: what is bound further up, else the environment, else its
default. -/
def resolve (environment : List (String × String)) (above : Table) (ρ : Reference) : List Char :=
  let ν := String.ofList ρ.name
  match above.lookup ν with
  | some v => (v.getD "").toList
  | none => ((environment.lookup ν).map String.toList).getD ρ.default

/-- The bindings of a file with every reference replaced. -/
def table (environment : List (String × String)) (s : List Char) : Table :=
  (bindings s).foldl
    (fun τ β ↦ Table.put τ (String.ofList β.name)
      (β.value.map fun v ↦ String.ofList (expand (resolve environment τ) v)))
    []

end Sluice.Settings.EnvFile
