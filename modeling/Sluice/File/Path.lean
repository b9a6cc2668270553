/-!
# Paths

A path is a number of slashes in front and the names between slashes.  Empty names and the name `.`
say nothing and are dropped; `..` is kept, since what it means depends on the file system.
-/

namespace Sluice.File

/-- What a path starts from. -/
inductive Anchor where
  | here
  | root
  /-- Exactly two slashes, which a system may give a meaning of its own. -/
  | doubleRoot
  deriving DecidableEq, Repr

def Anchor.text : Anchor → String
  | here => ""
  | root => "/"
  | doubleRoot => "//"

/-- A path in a file system. -/
structure Path where
  anchor : Anchor
  names : List String
  deriving DecidableEq, Repr

namespace Path

/-- Cuts a text at slashes. -/
def segments : List Char → List (List Char)
  | [] => [[]]
  | c :: s =>
    if c = '/' then [] :: segments s
    else match segments s with
      | σ :: σs => (c :: σ) :: σs
      | [] => [[c]]

/-- Whether a name between slashes says something. -/
def isName (ν : String) : Bool := ν != "" && ν != "."

/-- The names in a text. -/
def namesOf (s : List Char) : List String := ((segments s).map String.ofList).filter isName

def anchorOf (s : List Char) : Anchor :=
  match (s.takeWhile (· == '/')).length with
  | 0 => .here
  | 2 => .doubleRoot
  | _ => .root

/-- Reads a path. -/
def ofText (s : String) : Path := ⟨anchorOf s.toList, namesOf s.toList⟩

/-- The text of a path; a path that says nothing is `.`. -/
def text (p : Path) : String :=
  if p.anchor = .here ∧ p.names = [] then "." else p.anchor.text ++ "/".intercalate p.names

/-- The path of a name below a path. -/
def below (p : Path) (ν : String) : Path := { p with names := p.names ++ [ν] }

/-- The last name, if there is one. -/
def name? (p : Path) : Option String := p.names.getLast?

/-- The path without its last name. -/
def parent (p : Path) : Path := { p with names := p.names.dropLast }

/-- The path with something put at the end of its last name. -/
def extend? (p : Path) (s : String) : Option Path :=
  p.name?.map fun ν ↦ { p with names := p.names.dropLast ++ [ν ++ s] }

/-- Replaces a leading `~` or `~user` by a home directory; `none` if there is none. -/
def expandHome (home : String → Option String) (p : Path) : Option Path :=
  match p.anchor, p.names with
  | .here, ν :: νs =>
    match ν.toList with
    | '~' :: user => (home (String.ofList user)).map fun h ↦
        let q := ofText h
        { q with names := q.names ++ νs }
    | _ => some p
  | _, _ => some p

theorem length_parent_lt {p : Path} (h : p.names ≠ []) :
    p.parent.names.length < p.names.length := by
  have := List.length_pos_iff.2 h
  simp only [parent, List.length_dropLast]
  omega

end Path

end Sluice.File
