import Sluice.Text.Blank
import Sluice.Decimal.Integer
import Sluice.Text.Quoted

/-!
# Addresses of the web

An address is cut into scheme, authority, path, query and fragment.  A reference is resolved against
the address it was found at: the parts in front that it lacks are taken over, and a relative path
starts from the directory of the base.

How a name beyond ASCII is written as the name of a host is a matter of tables which are not part of
the reader; it is told by a function (`HostNames`).
-/

namespace Sluice.Web

open Text Decimal

/-- How the name of a host is written in ASCII, if it can be. -/
abbrev HostNames := List Char → Option (List Char)

/-- The parts of an address.  A part that is `none` has no delimiter either. -/
structure Url where
  scheme : List Char := []
  authority : Option (List Char) := none
  path : List Char := []
  query : Option (List Char) := none
  fragment : Option (List Char) := none
  deriving DecidableEq, Repr

/-- Why a text is no address. -/
inductive UrlError where
  | tooLong
  | control (c : Char) (position : Nat)
  | port (port : List Char)
  | address4 (host : List Char)
  | address6 (host : List Char)
  | name (host : List Char)
  | rootless
  | leadingSlashes
  | leadingColon
  deriving DecidableEq, Repr

def UrlError.message : UrlError → String
  | tooLong => "URL too long"
  | control c i =>
    "Invalid non-printable ASCII character in URL, " ++ quoteString (String.ofList [c]) ++
      " at position " ++ toString i ++ "."
  | port p => "Invalid port: " ++ String.ofList (quote p)
  | address4 h => "Invalid IPv4 address: " ++ String.ofList (quote h)
  | address6 h => "Invalid IPv6 address: " ++ String.ofList (quote h)
  | name h => "Invalid IDNA hostname: " ++ String.ofList (quote h)
  | rootless => "For absolute URLs, path must be empty or begin with '/'"
  | leadingSlashes => "Relative URLs cannot have a path starting with '//'"
  | leadingColon => "Relative URLs cannot have a path starting with ':'"

namespace Url

/-- Cuts a text before the first character that satisfies `p`. -/
def cut (p : Char → Bool) (s : List Char) : List Char × List Char :=
  (s.takeWhile (!p ·), s.dropWhile (!p ·))

def isSchemeChar (c : Char) : Bool := c.isAlphanum || c == '+' || c == '.' || c == '-'

/-- The scheme that a text begins with, and the text after its colon. -/
def cutScheme (s : List Char) : List Char × List Char :=
  match cut (!isSchemeChar ·) s with
  | (c :: σ, ':' :: r) => if c.isAlpha then (c :: σ, r) else ([], s)
  | ([], ':' :: r) => ([], r)
  | _ => ([], s)

/-- Cuts a text into the parts of an address. -/
def split (s : List Char) : Url :=
  let (scheme, r) := cutScheme s
  let (authority, r) := match r with
    | '/' :: '/' :: t =>
      let (α, r) := cut (fun c ↦ c == '/' || c == '?' || c == '#') t
      (some α, r)
    | r => (none, r)
  let (path, r) := cut (fun c ↦ c == '?' || c == '#') r
  let (query, r) := match r with
    | '?' :: t =>
      let (κ, r) := cut (· == '#') t
      (some κ, r)
    | r => (none, r)
  let fragment := match r with
    | '#' :: t => some t
    | _ => none
  ⟨scheme.map Char.toLower, authority, path, query, fragment⟩

/-- The text of an address. -/
def text (υ : Url) : List Char :=
  (if υ.scheme.isEmpty then [] else υ.scheme ++ [':']) ++
    ((υ.authority.map fun α ↦ '/' :: '/' :: α).getD []) ++ υ.path ++
    ((υ.query.map ('?' :: ·)).getD []) ++ ((υ.fragment.map ('#' :: ·)).getD [])

def render (υ : Url) : String := String.ofList υ.text

/-! ### Percent-encoding -/

/-- The bytes of a character as escapes. -/
def escape (c : Char) : List Char :=
  (String.ofList [c]).toUTF8.toList.flatMap fun b ↦ '%' :: (hex 2 b.toNat).map Char.toUpper

/-- Characters that are written as themselves in a part of an address, except for some. -/
def isSafe (excluded : String) (c : Char) : Bool :=
  0x20 < c.toNat && c.toNat < 0x7F && !excluded.toList.contains c

/-- Writes a part of an address. -/
def encode (excluded : String) (s : List Char) : List Char :=
  s.flatMap fun c ↦ if isSafe excluded c then [c] else escape c

def encodePath : List Char → List Char := encode "\"#<>?`\x7b\x7d"

def encodeQuery : List Char → List Char := encode "\"#<>"

def encodeFragment : List Char → List Char := encode "\"<>`"

def encodeUser : List Char → List Char := encode "\"#<>?`\x7b\x7d/;=@[\\]^|"

def encodeHost : List Char → List Char := encode "#/:<>?@[]^"

/-! ### Normal form -/

/-- Removes `.` and resolves `..` between slashes. -/
def resolveDots (σs : List (List Char)) : List (List Char) :=
  σs.foldl
    (fun out σ ↦
      if σ = ['.'] then out
      else if σ = ['.', '.'] then (if out = [[]] then out else out.dropLast)
      else out ++ [σ]) []

/-- Cuts a text at each slash. -/
def segments : List Char → List (List Char)
  | [] => [[]]
  | c :: s =>
    if c = '/' then [] :: segments s
    else match segments s with
      | σ :: σs => (c :: σ) :: σs
      | [] => [[c]]

def join (σs : List (List Char)) : List Char := ['/'].intercalate σs

def normalizePath (s : List Char) : List Char :=
  let σs := segments s
  if σs.contains ['.'] || σs.contains ['.', '.'] then join (resolveDots σs) else s

/-- The port that a scheme has by default. -/
def defaultPort? (scheme : List Char) : Option Int :=
  match String.ofList scheme with
  | "ftp" => some 21
  | "http" | "ws" => some 80
  | "https" | "wss" => some 443
  | _ => none

/-- Cuts the user in front of the last `@` of an authority. -/
def cutUser (α : List Char) : List Char × List Char :=
  if α.contains '@' then
    let r := α.reverse
    (((r.dropWhile (· != '@')).drop 1).reverse, (r.takeWhile (· != '@')).reverse)
  else ([], α)

/-- Cuts the port behind a host, which may be an address between brackets. -/
def cutPort (s : List Char) : List Char × Option (List Char) :=
  let (host, r) := match s with
    | '[' :: t =>
      if t.contains ']' then
        let r := t.reverse
        ('[' :: (r.dropWhile (· != ']')).reverse, (r.takeWhile (· != ']')).reverse)
      else cut (· == ':') s
    | s => cut (· == ':') s
  match r with
  | [] => (host, none)
  | ':' :: p => (host, if p.isEmpty then none else some p)
  | p => (host, some p)

/-- Four groups of digits with points between them. -/
def isAddress4 (s : List Char) : Bool :=
  let γs := s.splitOn '.'
  γs.length == 4 && γs.all fun γ ↦ !γ.isEmpty && γ.all Char.isDigit

def isByte (γ : List Char) : Bool :=
  γ.length ≤ 3 && (γ.head? != some '0' || γ.length == 1) && ofDigits (γ.map fun c ↦ c.toNat - 48) < 256

/-- Four bytes with points between them. -/
def isBytes (s : List Char) : Bool := isAddress4 s && (s.splitOn '.').all isByte

def isHexDigit (c : Char) : Bool :=
  c.isDigit || ('a' ≤ c && c ≤ 'f') || ('A' ≤ c && c ≤ 'F')

/-- Up to four hexadecimal digits. -/
def isGroup (γ : List Char) : Bool := !γ.isEmpty && γ.length ≤ 4 && γ.all isHexDigit

/-- The number of groups between the colons of a text.  Four bytes at its end stand for two. -/
def groups? (s : List Char) : Option Nat :=
  let γs := s.splitOn ':'
  let last := γs.getLast?.getD []
  if s.isEmpty then some 0
  else if !γs.dropLast.all isGroup then none
  else if isGroup last then some γs.length
  else if isBytes last then some (γs.length + 1)
  else none

/-- Cuts a text at its first two colons in a row. -/
def cutGap : List Char → Option (List Char × List Char)
  | [] => none
  | ':' :: ':' :: s => some ([], s)
  | c :: s => (cutGap s).map fun (a, b) ↦ (c :: a, b)

/-- Eight groups, of which a gap stands for one or more.  Behind them a zone may be named. -/
def isAddress6 (s : List Char) : Bool :=
  let (a, zone) := cut (· == '%') s
  (zone.isEmpty || (1 < zone.length && zone.count '%' == 1)) &&
    match cutGap a with
    | none => groups? a == some 8
    | some (front, back) =>
      match groups? front, groups? back with
      | some m, some n => !front.contains '.' && m + n < 8
      | _, _ => false

/-- Whether a text stands between brackets. -/
def isBracketed (s : List Char) : Bool :=
  1 < s.length && s.head? == some '[' && s.getLast? == some ']'

/-- Reads a host: an address in numbers, or a name. -/
def normalizeHost (names : HostNames) (s : List Char) : Except UrlError (List Char) :=
  if isAddress4 s then
    if isBytes s then .ok s else .error (.address4 s)
  else if isBracketed s then
    if isAddress6 (s.drop 1).dropLast then .ok s else .error (.address6 s)
  else if s.all (·.toNat < 128) then .ok (encodeHost (s.map Char.toLower))
  else
    match names s with
    | some h => .ok h
    | none => .error (.name s)

def normalizePort (scheme : List Char) (port : Option (List Char)) :
    Except UrlError (Option Int) :=
  match port with
  | none => .ok none
  | some p =>
    match readInt? p with
    | none => .error (.port p)
    | some n => .ok (if defaultPort? scheme = some n then none else some n)

/-- Writes an authority in its normal form; an empty one is none. -/
def normalizeAuthority (names : HostNames) (scheme α : List Char) :
    Except UrlError (Option (List Char)) := do
  let (user, r) := cutUser α
  let (host, port) := cutPort r
  let host ← normalizeHost names host
  let port ← normalizePort scheme port
  let user := encodeUser user
  let β := (if user.isEmpty then [] else user ++ ['@']) ++ host ++
    ((port.map fun n ↦ ':' :: intText n).getD [])
  return if β.isEmpty then none else some β

/-- A path that begins with something else than a slash. -/
def isRootless (s : List Char) : Bool := !s.isEmpty && s.head? != some '/'

/-- The longest text that is read as an address. -/
def maxLength : Nat := 65536

/-- The first control character of a text, and its place. -/
def control? (s : List Char) : Option (Char × Nat) :=
  (s.zipIdx.find? fun (c, _) ↦ c.toNat < 0x20 || c.toNat == 0x7F)

/-- Reads an address and writes its parts in their normal form. -/
def parse (names : HostNames) (s : List Char) : Except UrlError Url := do
  if maxLength < s.length then throw .tooLong
  if let some (c, i) := control? s then throw (.control c i)
  let υ := split s
  let authority ← match υ.authority with
    | none => pure none
    | some α => normalizeAuthority names υ.scheme α
  if authority.isSome && isRootless υ.path then throw .rootless
  if authority.isNone && υ.scheme.isEmpty then
    if ['/', '/'].isPrefixOf υ.path then throw .leadingSlashes
    if υ.path.head? == some ':' then throw .leadingColon
  let path :=
    if authority.isSome || !υ.scheme.isEmpty then normalizePath υ.path else υ.path
  return { υ with
    authority
    path := encodePath path
    query := υ.query.map encodeQuery
    fragment := υ.fragment.map encodeFragment }

/-! ### Resolution of a reference -/

/-- Schemes whose references may be relative. -/
def hasRelative (scheme : List Char) : Bool :=
  ["", "ftp", "http", "gopher", "nntp", "imap", "wais", "file", "https", "shttp", "mms",
    "prospero", "rtsp", "rtspu", "sftp", "svn", "svn+ssh", "ws", "wss"].contains
      (String.ofList scheme)

/-- A text, or nothing if it is empty. -/
def given (s : Option (List Char)) : Option (List Char) := s.filter (!·.isEmpty)

/-- Drops a lone semicolon, which announces parameters, at the end of a path. -/
def dropEmptyParameters (s : List Char) : List Char :=
  let last := s.reverse.takeWhile (· != '/')
  if last.head? == some ';' && last.count ';' == 1 then s.dropLast else s

/-- The segments of a relative path put behind the directory of a base. -/
def mergeSegments (base path : List Char) : List (List Char) :=
  if path.head? = some '/' then segments path
  else
    let βs := segments base
    let βs := if βs.getLast? = some [] then βs else βs.dropLast
    match βs ++ segments path with
    | [] => []
    | [σ] => [σ]
    | σ :: σs => σ :: (σs.dropLast.filter (!·.isEmpty) ++ σs.getLast?.toList)

/-- Resolves `.` and `..`, of which one at the end leaves a slash. -/
def resolveSegments (σs : List (List Char)) : List (List Char) :=
  let out := σs.foldl
    (fun out σ ↦
      if σ = ['.', '.'] then out.dropLast else if σ = ['.'] then out else out ++ [σ]) []
  match σs.getLast? with
  | some ['.'] | some ['.', '.'] => out ++ [[]]
  | _ => out

/-- The path that a reference leads to. -/
def mergePath (base path : List Char) : List Char :=
  match join (resolveSegments (mergeSegments base path)) with
  | [] => ['/']
  | s => s

/-- A path behind an authority begins with a slash. -/
def rooted (s : List Char) : List Char :=
  match s with
  | [] => []
  | '/' :: _ => s
  | s => '/' :: s

/-- The address that a reference found at a base means. -/
def resolve (base ref : Url) : Url :=
  let scheme := if ref.scheme.isEmpty then base.scheme else ref.scheme
  if ref = {} then base
  else if scheme ≠ base.scheme ∨ !hasRelative scheme then ref
  else
    match given ref.authority with
    | some α => {
        scheme
        authority := some α
        path := rooted (dropEmptyParameters ref.path)
        query := given ref.query
        fragment := given ref.fragment }
    | none =>
      let ρ := dropEmptyParameters ref.path
      { scheme
        authority := base.authority
        path := rooted (if ρ.isEmpty then base.path else mergePath base.path ρ)
        query := if ρ.isEmpty then (given ref.query).or (given base.query) else given ref.query
        fragment := given ref.fragment }

/-- The host of an address. -/
def host (υ : Url) : List Char := (cutPort (cutUser (υ.authority.getD [])).2).1

/-- Whether a reference names a scheme and no host, and a host of its base does not fit its path. -/
def isHostless (base ref : Url) : Bool :=
  !ref.scheme.isEmpty && ref.host.isEmpty && !base.host.isEmpty && isRootless ref.path

/-- The address that a client which was told to go to a reference comes to. -/
def advance (base : Url) (names : HostNames) (ref : Url) : Except UrlError Url := do
  if isHostless base ref then throw .rootless
  parse names (resolve base ref).text

/-- Reads a reference found at a base. -/
def follow (base : Url) (names : HostNames) (s : List Char) : Except UrlError Url := do
  base.advance names (← parse names s)

/-- A reference leads somewhere if it can be read and its address can be come to. -/
theorem follow_eq_ok_iff {base ω : Url} {names : HostNames} {s : List Char} :
    base.follow names s = .ok ω ↔
      ∃ ref, parse names s = .ok ref ∧ base.advance names ref = .ok ω := by
  cases h : parse names s with
  | error ε => simp [follow, h, bind, Except.bind]
  | ok ref => simp [follow, h, bind, Except.bind]

end Url

end Sluice.Web
