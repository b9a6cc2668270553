import Sluice.Gate.Call
import Sluice.Json.Read
import Sluice.Tool.Contract

/-!
# Tools over HTTP

There is a page that lists the tools and one that calls them.  A call is a JSON object with the name
of a tool and its arguments; a body that is no such object is answered with its mistakes.
-/

namespace Sluice.Server

open Decimal Tool

/-- A request for a page. -/
structure Visit where
  method : String := "POST"
  path : String := "/call"
  contentType : String := "application/json"
  body : String := ""

/-- A mistake in the body of a request: where it is, and of what kind. -/
structure Mistake where
  place : List String
  kind : String
  deriving DecidableEq, Repr

inductive Content where
  | nothing
  | value (v : Value)
  | mistakes (μs : List Mistake)

/-- The answer to a request. -/
structure Page where
  status : Nat
  content : Content

/-- What is left to do for a request: to send a page, or to call a tool and send its result. -/
inductive Errand where
  | send (π : Page)
  | call (name : String) (arguments : Row)

/-- A page with a remark. -/
def remark (status : Nat) (s : String) : Page := ⟨status, .value (.record [("detail", .text s)])⟩

def mistaken (μs : List Mistake) : Page := ⟨422, .mistakes μs⟩

/-! ### The body of a call -/

/-- Whether a content type announces JSON.  No content type does as well. -/
def isJsonType (s : String) : Bool :=
  let kind := Text.lower (Text.trim (s.toList.takeWhile (· != ';')))
  s.isEmpty || match kind.dropWhile (· != '/') with
    | '/' :: sub =>
      kind.takeWhile (· != '/') == "application".toList && !sub.contains '/' &&
        (sub == "json".toList || "+json".toList.isSuffixOf sub)
    | _ => false

/-- The body without a byte order mark. -/
def unmarked (s : String) : List Char :=
  match s.toList with
  | '\uFEFF' :: t => t
  | t => t

/-- The value that a body holds; the bytes themselves if it is not announced as JSON. -/
def Visit.value (υ : Visit) : Except Page Value :=
  if υ.body.isEmpty then .ok .null
  else if isJsonType υ.contentType then
    let s := unmarked υ.body
    match Json.read false s with
    | .ok v => .ok v
    | .error ⟨.tooDeep _, _⟩ | .error ⟨.tooManyDigits, _⟩ =>
      .error (remark 400 "There was an error parsing the body")
    | .error ε => .error (mistaken [⟨["body", toString (ε.position s)], "json_invalid"⟩])
  else .ok (.bytes υ.body.toUTF8.toList)

def nameMistakes (ρ : Row) : List Mistake :=
  match ρ.get? "name" with
  | some (.text _) => []
  | some _ => [⟨["body", "name"], "string_type"⟩]
  | none => [⟨["body", "name"], "missing"⟩]

def argumentMistakes (ρ : Row) : List Mistake :=
  match ρ.get? "arguments" with
  | some (.record _) | none => []
  | some _ => [⟨["body", "arguments"], "dict_type"⟩]

/-- The call that a value describes. -/
def callOf : Value → Errand
  | .null => .send (mistaken [⟨["body"], "missing"⟩])
  | .record ρ =>
    match nameMistakes ρ ++ argumentMistakes ρ with
    | [] => .call (Row.get ρ "name").plainString (fieldsOf (Row.get ρ "arguments"))
    | μs => .send (mistaken μs)
  | _ => .send (mistaken [⟨["body"], "model_attributes_type"⟩])

/-! ### Pages -/

/-- The pages by path, each with the method it takes. -/
def paths : List (String × String) := [("/tools", "GET"), ("/call", "POST")]

/-- The path of a request, without a query. -/
def Visit.route (υ : Visit) : String :=
  String.ofList (υ.path.toList.takeWhile fun c ↦ c != '?' && c != '#')

/-- A path without slashes at its end. -/
def withoutSlash (s : String) : String :=
  String.ofList (s.toList.reverse.dropWhile (· == '/')).reverse

/-- The announcement of the tools. -/
def announcement (δs : List Definition) : Value := .list (δs.map Definition.toValue)

/-- What is to be done for a request. -/
def Visit.errand (δs : List Definition) (υ : Visit) : Errand :=
  let method := Text.upperString υ.method
  let bare (π : Page) : Errand := .send (if method = "HEAD" then { π with content := .nothing } else π)
  match paths.lookup υ.route with
  | some μ =>
    if method ≠ μ then bare (remark 405 "Method Not Allowed")
    else if υ.route = "/tools" then .send ⟨200, .value (announcement δs)⟩
    else match υ.value with
      | .ok v => callOf v
      | .error π => .send π
  | none =>
    if υ.route.endsWith "/" && (paths.lookup (withoutSlash υ.route)).isSome
    then .send ⟨307, .nothing⟩
    else bare (remark 404 "Not Found")

/-! ### Results -/

mutual

/-- A value as a page shows it, where names that begin with `_sa` are private. -/
def shown : Value → Value
  | .list vs => .list (shownList vs)
  | .record ρ => .record (shownFields ρ)
  | v => v

def shownList : List Value → List Value
  | [] => []
  | v :: vs => shown v :: shownList vs

def shownFields : List (String × Value) → List (String × Value)
  | [] => []
  | (k, v) :: ρ => if k.startsWith "_sa" then shownFields ρ else (k, shown v) :: shownFields ρ

end

mutual

/-- Whether all numbers in a value are finite, as strict JSON wants it. -/
def isStrict : Value → Bool
  | .float x => !x.isNaN && !x.isInfinite
  | .list vs => areStrict vs
  | .record ρ => areStrictFields ρ
  | _ => true

def areStrict : List Value → Bool
  | [] => true
  | v :: vs => isStrict v && areStrict vs

def areStrictFields : List (String × Value) → Bool
  | [] => true
  | (_, v) :: ρ => isStrict v && areStrictFields ρ

end

/-- The page for the result of a call.  A fault that is no result is recorded. -/
def pageOf (γ : Gate) (name : String) : Except Fault Value → Gate × Except Fault Page
  | .ok v =>
    let v := shown v
    (γ, if isStrict v then .ok ⟨200, .value v⟩
      else .error (.saying .value "Out of range float values are not JSON compliant"))
  | .error φ =>
    if φ.kind = .cancelled then (γ, .error φ)
    else (γ.log .error .http ("Tool " ++ name ++ " failed"), .ok (remark 500 φ.message))

end Sluice.Server
