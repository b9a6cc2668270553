import Sluice.Query.Comment
import Sluice.Query.Rule
import Sluice.Query.Statement

/-!
# Admission of a query

A query is stripped of comments and of blanks at both ends, and is then refused by the first rule
that fails, in the order of the constructors of `Rejection`.  The rules read text and parse
nothing: what the server would make of the query is not decided here.
-/

namespace Sluice.Query

/-- Why a query is refused. -/
inductive Rejection where
  | empty
  | mutation (name : String)
  | notARead
  | dangerous (clause : String)
  | stacked
  deriving DecidableEq, Repr

def Rejection.message : Rejection → String
  | .empty => "Query is empty"
  | .mutation ν => "Query contains mutation operation: " ++ ν
  | .notARead => "Query must start with SELECT, SHOW, DESCRIBE, DESC, EXPLAIN, WITH, or SET @"
  | .dangerous κ => "Query contains dangerous keyword: " ++ κ
  | .stacked => "Multiple statements are not allowed"

/-- A refusal is put on record, unless there was no query at all. -/
def Rejection.isRecorded : Rejection → Bool
  | .empty => false
  | _ => true

/-- The text of a query that the rules look at. -/
def normalize (s : List Char) : List Char := Text.trim (removeComments s)

/-- The first rule that refuses a normalized text. -/
def rejection? (s : List Char) : Option Rejection :=
  if s.isEmpty then some .empty
  else match refusedOpening? s with
    | some ν => some (.mutation ν)
    | none =>
      if !isAllowed s then some .notARead
      else match dangerousClause? s with
        | some κ => some (.dangerous κ)
        | none => if isStacked s then some .stacked else none

/-- The normalized text of a query that only reads, or the rule that refuses the query. -/
def screen (s : List Char) : Except Rejection (List Char) :=
  match rejection? (normalize s) with
  | some ρ => .error ρ
  | none => .ok (normalize s)

/-- Whether a query only reads. -/
def isReadOnly (s : List Char) : Bool := (screen s).isOk

/-- A text passes if every rule lets it pass. -/
theorem rejection?_eq_none_iff {s : List Char} :
    rejection? s = none ↔ s ≠ [] ∧ refusedOpening? s = none ∧ isAllowed s = true ∧
      dangerousClause? s = none ∧ isStacked s = false := by
  unfold rejection?
  by_cases hs : s = []
  · simp [hs]
  · cases refusedOpening? s <;> cases isAllowed s <;> cases dangerousClause? s <;>
      cases isStacked s <;> simp [hs]

theorem screen_eq_ok_iff {s t : List Char} :
    screen s = .ok t ↔ t = normalize s ∧ rejection? (normalize s) = none := by
  unfold screen
  cases rejection? (normalize s) <;> simp [eq_comm]

theorem screen_eq_error_iff {s : List Char} {ρ : Rejection} :
    screen s = .error ρ ↔ rejection? (normalize s) = some ρ := by
  unfold screen
  cases rejection? (normalize s) <;> simp

end Sluice.Query
