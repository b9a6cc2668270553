import Sluice.Web.Url

/-!
# What a reference means

A reference that is found at an address means an address of its own.  Which one is laid down in
section 5.2 of RFC 3986: the parts in front that the reference lacks are taken over, a relative path
is put behind the last slash of the base, and dot segments are removed.  A client may come to it in
its own way (`Url.follow`); the definitions here only say what it has to come to (`Url.meaning`).
-/

namespace Sluice.Web.Url

/-- A path without its last segment and the slash in front of that. -/
def dropSegment (s : List Char) : List Char := ((s.reverse.dropWhile (· != '/')).drop 1).reverse

/-- A path without dot segments, the beginning of it having become `out`. -/
def removeDots (out : List Char) : List Char → List Char
  | [] => out
  | '.' :: '.' :: '/' :: s | '.' :: '/' :: s => removeDots out s
  | '/' :: '.' :: '/' :: s => removeDots out ('/' :: s)
  | '/' :: ['.'] => removeDots out ['/']
  | '/' :: '.' :: '.' :: '/' :: s => removeDots (dropSegment out) ('/' :: s)
  | '/' :: '.' :: ['.'] => removeDots (dropSegment out) ['/']
  | ['.'] | '.' :: ['.'] => out
  | c :: s => removeDots (out ++ c :: s.takeWhile (· != '/')) (s.dropWhile (· != '/'))
termination_by s => s.length
decreasing_by
  all_goals grind [List.dropWhile_sublist, List.Sublist.length_le]

/-- A relative path put in the place of all that follows the last slash of a base. -/
def mergeAt (base : Url) (path : List Char) : List Char :=
  if base.authority.isSome && base.path.isEmpty then '/' :: path
  else (base.path.reverse.dropWhile (· != '/')).reverse ++ path

/-- The parts of the address that a reference means. -/
def target (base ref : Url) : Url :=
  if !ref.scheme.isEmpty then { ref with path := removeDots [] ref.path }
  else if ref.authority.isSome then
    { ref with scheme := base.scheme, path := removeDots [] ref.path }
  else if ref.path.isEmpty then
    { base with query := ref.query.or base.query, fragment := ref.fragment }
  else
    { base with
      path := removeDots [] (if ref.path.head? == some '/' then ref.path else mergeAt base ref.path)
      query := ref.query
      fragment := ref.fragment }

/-- The address that a reference means which is found at an address. -/
def meaning (base ref : String) : String :=
  (target (split base.toList) (split ref.toList)).render

/-- What a reference means at an address that is cut into the parts that it has. -/
theorem meaning_render {base : Url} (h : split base.text = base) (ref : String) :
    meaning base.render ref = (target base (split ref.toList)).render := by
  have ht : base.render.toList = base.text := String.toList_ofList
  rw [meaning, ht, h]

example : ["g", "./g/.", "/g", "//g", "?y", "", "../../g", "../../../g", "g;x=1/../y"].map
      (meaning "http://a/b/c/d;p?q") =
    ["http://a/b/c/g", "http://a/b/c/g/", "http://a/g", "http://g", "http://a/b/c/d;p?y",
      "http://a/b/c/d;p?q", "http://a/g", "http://a/g", "http://a/b/c/y"] := by cbv

end Sluice.Web.Url
