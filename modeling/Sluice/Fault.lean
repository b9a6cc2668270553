import Sluice.Value.Number

/-!
# Faults

What the outside world reports when a request to it fails: the kind of the fault and the values that
come with it.  Kinds are told apart as far as the gate treats them differently.
-/

namespace Sluice

open Decimal Text Value

/-- The gate's own kinds of failure, the first one being the general kind. -/
inductive Category where
  | general
  | admissionRejected
  | connectivity
  | proxyStartup
  | unsupportedPlatform
  | binaryDownload
  | queryTimeout
  | driver
  deriving DecidableEq, Repr

/-- The code by which a client tells failures apart. -/
def Category.code : Category → String
  | general => "error"
  | admissionRejected => "admission_rejected"
  | connectivity => "connectivity_failure"
  | proxyStartup => "proxy_startup_failure"
  | unsupportedPlatform => "unsupported_platform"
  | binaryDownload => "binary_download_failed"
  | queryTimeout => "query_timeout"
  | driver => "driver_error"

/-- Faults of the operating system. -/
inductive SystemFault where
  | general
  | blocked
  | brokenPipe
  | childProcess
  | connectionAborted
  | connectionRefused
  | connectionReset
  | fileExists
  | notFound
  | isDirectory
  | notDirectory
  | interrupted
  | permission
  | processLookup
  /-- Something took too long. -/
  | timeout
  deriving DecidableEq, Repr

/-- The fault that an error number stands for. -/
def SystemFault.ofNumber (n : Int) : SystemFault :=
  match n with
  | 1 | 13 => permission
  | 2 => notFound
  | 3 => processLookup
  | 4 => interrupted
  | 10 => childProcess
  | 11 | 114 | 115 => blocked
  | 17 => fileExists
  | 20 => notDirectory
  | 21 => isDirectory
  | 32 | 108 => brokenPipe
  | 103 => connectionAborted
  | 104 => connectionReset
  | 110 => timeout
  | 111 => connectionRefused
  | _ => general

/-- The kinds of faults of a database driver. -/
inductive DatabaseFault where
  | programming
  | operational
  | integrity
  | data
  | internal
  | notSupported
  | interface
  | warning
  | general
  deriving DecidableEq, Repr

inductive FaultKind where
  | own (κ : Category)
  | database (κ : DatabaseFault)
  | system (κ : SystemFault)
  /-- A key that is not there. -/
  | key
  | runtime
  | value
  | type
  | overflow
  | recursion
  /-- A text that is no address of the web. -/
  | address
  /-- Whoever asked has given up. -/
  | cancelled
  deriving DecidableEq, Repr

/-- A fault: its kind and the values that come with it. -/
structure Fault where
  kind : FaultKind
  args : List Value
  deriving DecidableEq, Repr

namespace Fault

/-- A fault that says `s`. -/
def saying (κ : FaultKind) (s : String) : Fault := ⟨κ, [.text s]⟩

def isTimeout (φ : Fault) : Bool := φ.kind = .system .timeout

/-- Whether the operating system reported the fault. -/
def isSystem (φ : Fault) : Bool := φ.kind matches .system _

def isDatabase (φ : Fault) : Bool := φ.kind matches .database _

/-- Values in parentheses. -/
def tuple (vs : List Value) : List Char := '(' :: commaSeparated (literals vs) ++ [')']

/-- The text of a fault: nothing, its value, or all its values.  A system fault's two values are a
number and what it means; a missing key is quoted. -/
def text (φ : Fault) : List Char :=
  match φ.kind, φ.args with
  | _, [] => []
  | .key, [v] => v.literal
  | _, [v] => v.plain
  | .system _, [n, s] => "[Errno ".toList ++ n.plain ++ "] ".toList ++ s.plain
  | .system _, [n, s, f] =>
    "[Errno ".toList ++ n.plain ++ "] ".toList ++ s.plain ++ ": ".toList ++ f.literal
  | _, vs => tuple vs

/-- The text of a fault as a string. -/
def message (φ : Fault) : String := String.ofList φ.text

/-- The code of a fault, if it is one of the gate's own. -/
def category? (φ : Fault) : Option Category :=
  match φ.kind with
  | .own κ => some κ
  | _ => none

@[simp] theorem text_saying (κ : FaultKind) (s : String) (h : κ ≠ .key) :
    (saying κ s).text = s.toList := by
  cases κ <;> simp_all [saying, text]

end Fault

/-- The fault that an unusable number is. -/
def numberFault (ε : Value.IntegerError) : Fault :=
  .saying (match ε with
    | .floatInfinity | .decimalInfinity => .overflow
    | .wrongType _ => .type
    | _ => .value) ε.message

end Sluice
