/-!
# Table names

A table name cannot be bound as a parameter, so only letters, digits and underscores of ASCII are
left of it.  In a pattern the underscore stands for any character and is escaped.
-/

namespace Sluice.Tool

def isIdentifierChar (c : Char) : Bool := c.isAlphanum || c = '_'

/-- What is left of a table name. -/
def identifier (s : List Char) : List Char := s.filter isIdentifierChar

/-- The pattern that matches a name and nothing else. -/
def likePattern (s : List Char) : List Char := s.flatMap fun c ↦ if c = '_' then ['\\', '_'] else [c]

@[simp] theorem identifier_idem (s : List Char) : identifier (identifier s) = identifier s := by
  simp [identifier]

theorem identifier_sublist (s : List Char) : (identifier s).Sublist s := List.filter_sublist

end Sluice.Tool
