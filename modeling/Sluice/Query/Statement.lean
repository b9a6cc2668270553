import Sluice.Text.Blank

/-!
# Stacked statements

A query is stacked if text follows a semicolon that stands outside quotes.  A quote opens at `'` or
`"` and closes at the next occurrence of the same sign; a backslash hides the character after it,
inside quotes and outside.
-/

namespace Sluice.Query

/-- Whether the rest of a query, read from inside the quotes `q`, stacks a further statement. -/
def stacksFrom (q : Option Char) : List Char → Bool
  | [] => false
  | '\\' :: [] => false
  | '\\' :: _ :: s => stacksFrom q s
  | c :: s =>
    match q with
    | some d => stacksFrom (if c = d then none else some d) s
    | none =>
      if c = '\'' ∨ c = '"' then stacksFrom (some c) s
      else if c = ';' then s.any (!Text.isBlank ·) || stacksFrom none s
      else stacksFrom none s

/-- Whether a query holds more than one statement. -/
def isStacked (s : List Char) : Bool := stacksFrom none s

@[simp] theorem stacksFrom_nil (q : Option Char) : stacksFrom q [] = false := by
  simp [stacksFrom]

end Sluice.Query
