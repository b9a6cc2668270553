/-!
# Comments of a query

Comments are removed in three passes, each over the result of the one before: first from two
dashes to the end of the line, then between slash-star and the nearest star-slash, then from a
hash sign to the end of the line.  A line's end is the line feed alone, and it stays.  Quotes play
no part, and a block that is never closed is no comment.
-/

namespace Sluice.Query

/-- Removes dash comments; `inside` tells whether the text begins inside one. -/
def dropDashComments (inside : Bool) : List Char → List Char
  | [] => []
  | '\n' :: s => '\n' :: dropDashComments false s
  | c :: s =>
    if inside then dropDashComments true s
    else if c = '-' ∧ s.head? = some '-' then dropDashComments true s
    else c :: dropDashComments false s

/-- Removes hash comments; `inside` tells whether the text begins inside one. -/
def dropHashComments (inside : Bool) : List Char → List Char
  | [] => []
  | '\n' :: s => '\n' :: dropHashComments false s
  | c :: s =>
    if inside then dropHashComments true s
    else if c = '#' then dropHashComments true s
    else c :: dropHashComments false s

/-- What follows the first star-slash. -/
def afterClose? : List Char → Option (List Char)
  | '*' :: '/' :: s => some s
  | _ :: s => afterClose? s
  | [] => none

theorem length_afterClose? {s t : List Char} (h : afterClose? s = some t) :
    t.length < s.length := by
  fun_induction afterClose? s with
  | case1 s => cases h; simp only [List.length_cons]; omega
  | case2 _ _ _ ih => exact Nat.lt_succ_of_lt (ih h)
  | case3 => cases h

/-- Removes block comments. -/
def dropBlockComments : List Char → List Char
  | '/' :: '*' :: s =>
    match _h : afterClose? s with
    | some t => dropBlockComments t
    | none => '/' :: dropBlockComments ('*' :: s)
  | c :: s => c :: dropBlockComments s
  | [] => []
termination_by s => s.length
decreasing_by
  · have := length_afterClose? _h
    simp only [List.length_cons]
    omega
  · simp
  · simp

/-- A query without its comments. -/
def removeComments (s : List Char) : List Char :=
  dropHashComments false (dropBlockComments (dropDashComments false s))

@[simp] theorem dropDashComments_nil (inside : Bool) : dropDashComments inside [] = [] := rfl

@[simp] theorem dropHashComments_nil (inside : Bool) : dropHashComments inside [] = [] := rfl

@[simp] theorem dropBlockComments_nil : dropBlockComments [] = [] := by
  rw [dropBlockComments]

@[simp] theorem removeComments_nil : removeComments [] = [] := by
  simp [removeComments]

end Sluice.Query
