import Sluice.File.Path
import Sluice.Text.Quoted

/-!
# A file system

Directories and files with their access modes, under the names on the way to them.  An operation
that fails says why and on which path, and changes nothing.
-/

namespace Sluice.File

/-- A directory or a file.  Modes are the nine access bits. -/
inductive Node where
  | directory (mode : Nat)
  | file (mode : Nat) (content : ByteArray)
  deriving Inhabited

/-- Why an operation on files fails. -/
inductive Cause where
  | absent
  | present
  | notDirectory
  | isDirectory
  deriving DecidableEq, Repr

def Cause.number : Cause → Nat
  | absent => 2
  | present => 17
  | notDirectory => 20
  | isDirectory => 21

def Cause.meaning : Cause → String
  | absent => "No such file or directory"
  | present => "File exists"
  | notDirectory => "Not a directory"
  | isDirectory => "Is a directory"

/-- A failed operation on a path, or from one path to another. -/
structure Failure where
  cause : Cause
  path : Path
  target : Option Path := none
  deriving DecidableEq, Repr

def Failure.message (φ : Failure) : String :=
  "[Errno " ++ toString φ.cause.number ++ "] " ++ φ.cause.meaning ++ ": " ++
    Text.quoteString φ.path.text ++
    ((φ.target.map fun q ↦ " -> " ++ Text.quoteString q.text).getD "")

/-- The names on the way to a node, after a slash if the way begins at the root. -/
abbrev Key := List String

/-- A file system.  Where a path begins there always is a directory. -/
structure Store where
  nodes : List (Key × Node) := []

namespace Store

/-- Where a path begins. -/
def origin (p : Path) : Key :=
  match p.anchor with
  | .here => []
  | _ => ["/"]

def isOrigin (κ : Key) : Bool := κ == [] || κ == ["/"]

/-- The mode of a new directory and of a new file. -/
def directoryMode : Nat := 0o755

def fileMode : Nat := 0o644

def node? (σ : Store) (κ : Key) : Option Node :=
  if isOrigin κ then some (.directory directoryMode) else σ.nodes.lookup κ

/-- Puts a node under a key. -/
def put (σ : Store) (κ : Key) (ν : Node) : Store :=
  ⟨(κ, ν) :: σ.nodes.filter (·.1 != κ)⟩

def erase (σ : Store) (κ : Key) : Store := ⟨σ.nodes.filter (·.1 != κ)⟩

/-- One step on the way along a path. -/
def descend (σ : Store) (κ : Key) (ν : String) : Except Cause Key :=
  match σ.node? κ with
  | none => .error .absent
  | some (.file ..) => .error .notDirectory
  | some (.directory _) =>
    if ν = ".." then .ok (if isOrigin κ then κ else κ.dropLast) else .ok (κ ++ [ν])

/-- The key that a path leads to, where there may be no node. -/
def resolve (σ : Store) (p : Path) : Except Cause Key := p.names.foldlM σ.descend (origin p)

/-- The node at a path. -/
def at? (σ : Store) (p : Path) : Option Node :=
  match σ.resolve p with
  | .ok κ => σ.node? κ
  | .error _ => none

def isFile (σ : Store) (p : Path) : Bool := σ.at? p matches some (.file ..)

def isDirectory (σ : Store) (p : Path) : Bool := σ.at? p matches some (.directory _)

/-- Whether someone may run the file at a path. -/
def isExecutable (σ : Store) (p : Path) : Bool :=
  match σ.at? p with
  | some (.file μ _) => μ &&& 0o111 != 0
  | _ => false

/-- Makes a directory. -/
def makeDirectory (σ : Store) (p : Path) : Except Failure Store :=
  match σ.resolve p with
  | .error c => .error ⟨c, p, none⟩
  | .ok κ =>
    match σ.node? κ with
    | some _ => .error ⟨.present, p, none⟩
    | none => .ok (σ.put κ (.directory directoryMode))

/-- Makes a directory and those above it, unless they are there. -/
def makeDirectories (σ : Store) (p : Path) : Except Failure Store :=
  let settle (σ : Store) (r : Except Failure Store) : Except Failure Store :=
    match r with
    | .ok τ => .ok τ
    | .error φ => if σ.isDirectory p then .ok σ else .error φ
  match σ.makeDirectory p with
  | .error φ =>
    if h : φ.cause = .absent ∧ p.names ≠ [] then
      have := Path.length_parent_lt h.2
      match σ.makeDirectories p.parent with
      | .ok τ => settle τ (τ.makeDirectory p)
      | .error φ => .error φ
    else settle σ (.error φ)
  | .ok τ => .ok τ
termination_by p.names.length

/-- Opens a file for writing: a new file, or an old one emptied.  Gives the key to write to and the
mode of the file. -/
def create (σ : Store) (p : Path) : Except Failure (Store × Key × Nat) :=
  match σ.resolve p with
  | .error c => .error ⟨c, p, none⟩
  | .ok κ =>
    match σ.node? κ with
    | some (.directory _) => .error ⟨.isDirectory, p, none⟩
    | some (.file μ _) => .ok (σ.put κ (.file μ .empty), κ, μ)
    | none => .ok (σ.put κ (.file fileMode .empty), κ, fileMode)

/-- Removes a file. -/
def remove (σ : Store) (p : Path) : Except Failure Store :=
  match σ.resolve p with
  | .error c => .error ⟨c, p, none⟩
  | .ok κ =>
    match σ.node? κ with
    | none => .error ⟨.absent, p, none⟩
    | some (.directory _) => .error ⟨.isDirectory, p, none⟩
    | some (.file ..) => .ok (σ.erase κ)

/-- Moves a file, in place of the file that may be at its new path. -/
def move (σ : Store) (p q : Path) : Except Failure Store :=
  match σ.resolve p, σ.resolve q with
  | .error c, _ | _, .error c => .error ⟨c, p, some q⟩
  | .ok κ, .ok ι =>
    match σ.node? κ, σ.node? ι with
    | some (.file μ β), some (.file ..) | some (.file μ β), none =>
      .ok ((σ.erase κ).put ι (.file μ β))
    | none, _ => .error ⟨.absent, p, some q⟩
    | some (.directory _), _ | _, some (.directory _) => .error ⟨.isDirectory, p, some q⟩

/-- Changes the mode of a file or directory. -/
def setMode (σ : Store) (p : Path) (μ : Nat) : Except Failure Store :=
  match σ.resolve p with
  | .error c => .error ⟨c, p, none⟩
  | .ok κ =>
    match σ.node? κ with
    | none => .error ⟨.absent, p, none⟩
    | some (.directory _) => .ok (σ.put κ (.directory μ))
    | some (.file _ β) => .ok (σ.put κ (.file μ β))

end Store

end Sluice.File
