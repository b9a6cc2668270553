import Sluice.Query.Phrase

/-!
# Rules on how a query opens and what it contains

The tables of statements that are refused, of statements that are allowed, and of clauses that are
refused anywhere in a query.
-/

namespace Sluice.Query

open Text

/-- A statement recognised by the phrase it opens with. -/
structure Opening where
  phrase : List String
  /-- Whether a blank has to follow the phrase. -/
  spaced : Bool := true
  deriving DecidableEq, Repr

/-- What follows the phrase at the start of the text, leading blanks aside. -/
def Opening.after? (ω : Opening) (s : List Char) : Option (List Char) :=
  afterPhrase? ω.phrase (trimLeft s)

/-- Whether a text opens as `ω` says. -/
def Opening.accepts (ω : Opening) (s : List Char) : Bool :=
  (ω.after? s).any fun t ↦ !ω.spaced || t.head?.any isBlank

/-- The text of an opening, as messages name it. -/
def Opening.name (ω : Opening) : String := " ".intercalate ω.phrase

/-- Statements that change data, structure, privileges or locks. -/
def mutations : List Opening :=
  ["INSERT", "UPDATE", "DELETE", "DROP", "CREATE", "ALTER", "TRUNCATE", "RENAME", "REPLACE",
    "LOAD", "GRANT", "REVOKE", "FLUSH", "LOCK", "UNLOCK"].map fun w ↦ ⟨[w], true⟩

/-- Statements that run procedures or steer transactions.  All but the first are recognised by
their first letters alone. -/
def transactions : List Opening :=
  [⟨["CALL"], true⟩, ⟨["START", "TRANSACTION"], false⟩, ⟨["BEGIN"], false⟩, ⟨["COMMIT"], false⟩,
    ⟨["ROLLBACK"], false⟩, ⟨["SAVEPOINT"], false⟩, ⟨["RELEASE", "SAVEPOINT"], false⟩]

/-- Statements that only read. -/
def reads : List Opening :=
  ["SELECT", "SHOW", "DESCRIBE", "DESC", "EXPLAIN", "WITH"].map fun w ↦ ⟨[w], true⟩

/-- Clauses that write files or take locks, in a query that otherwise only reads. -/
def dangerousClauses : List (List String) :=
  [["INTO", "OUTFILE"], ["INTO", "DUMPFILE"], ["FOR", "UPDATE"], ["LOCK", "IN", "SHARE", "MODE"]]

/-- Whether the line that the text begins with holds an at sign. -/
def lineHasAt (s : List Char) : Bool := (s.takeWhile (· ≠ '\n')).contains '@'

/-- Whether one can go forward over at least one blank to a place from which the line holds no at
sign. -/
def losesAt : List Char → Bool
  | [] => false
  | c :: s => isBlank c && (!lineHasAt s || losesAt s)

/-- Whether a text is an assignment to something other than a session variable: after `SET`, some
place among the blanks sees no at sign on its line. -/
def setsServer (s : List Char) : Bool := ((⟨["SET"], true⟩ : Opening).after? s).any losesAt

/-- Whether a text is an assignment whose first target begins with an at sign. -/
def setsSession (s : List Char) : Bool :=
  (((⟨["SET"], true⟩ : Opening).after? s).bind afterBlanks?).any (·.head? == some '@')

/-- The name of the first rule that refuses a text for how it opens. -/
def refusedOpening? (s : List Char) : Option String :=
  match mutations.find? (·.accepts s) with
  | some ω => some ω.name
  | none =>
    if setsServer s then some "SET" else (transactions.find? (·.accepts s)).map Opening.name

/-- Whether a text opens as a statement that only reads. -/
def isAllowed (s : List Char) : Bool := reads.any (·.accepts s) || setsSession s

/-- The first dangerous clause of a text. -/
def dangerousClause? (s : List Char) : Option String :=
  (dangerousClauses.find? (occurs · s)).map " ".intercalate

end Sluice.Query
