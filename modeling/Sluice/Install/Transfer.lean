import Sluice.Decimal.Round
import Sluice.Event
import Sluice.Fault
import Sluice.Text.Case
import Sluice.Value.Number

/-!
# Transfers

The answer to a request is a status, headers and a body that comes in pieces, or the transfer is
interrupted.  The body is cut anew into chunks of one size before it is written, and progress is
reported each time another step of bytes has come.
-/

namespace Sluice.Install

open Decimal

/-- Why a transfer ends early. -/
inductive Interruption where
  | timeout
  /-- The connection fails. -/
  | transport (message : String)
  /-- What comes over the connection makes no sense. -/
  | protocol (message : String)
  | fault (φ : Fault)

/-- An answer to a request.  An interruption strikes after the pieces of the body have come. -/
structure Response where
  status : Int := 200
  headers : List (String × String) := []
  body : List ByteArray := []
  interruption : Option Interruption := none

namespace Response

/-- The values of a header, whose name goes by any letter case. -/
def header? (ρ : Response) (ν : String) : Option String :=
  match ρ.headers.filter fun (k, _) ↦ Text.lowerString k == ν with
  | [] => none
  | hs => some (", ".intercalate (hs.map Prod.snd))

/-- Whether an answer sends the client elsewhere. -/
def isRedirect (ρ : Response) : Bool := [301, 302, 303, 307, 308].contains ρ.status

/-- Where an answer sends the client. -/
def location? (ρ : Response) : Option String := (ρ.header? "location").filter (· != "")

/-- The announced length of the body, zero if there is none. -/
def length (ρ : Response) : Except Value.IntegerError Int :=
  match (ρ.header? "content-length").filter (· != "") with
  | some s => Value.toInteger (.text s)
  | none => .ok 0

end Response

/-- How an answer to a request turns out. -/
inductive Answer where
  | response (ρ : Response)
  | interrupted (ι : Interruption)

/-- Sizes in bytes, and the number of times a client may be sent elsewhere. -/
structure Limits where
  chunkSize : Nat := 65536
  progressStep : Nat := 5242880
  maxRedirects : Int := 5

/-- The first `n` chunks of a body. -/
def fullChunks (size n : Nat) (β : ByteArray) : List ByteArray :=
  (List.range n).map fun i ↦ β.extract (i * size) ((i + 1) * size)

/-- Cuts pieces into chunks of one size.  What is left over waits for the next piece; at the end it
is a chunk of its own, unless it is lost to an interruption. -/
def chunks (size : Nat) (complete : Bool) : ByteArray → List ByteArray → List ByteArray
  | rest, [] => if complete && !rest.isEmpty then [rest] else []
  | rest, β :: βs =>
    let γ := rest ++ β
    let n := γ.size / size
    fullChunks size n γ ++ chunks size complete (γ.extract (n * size) γ.size) βs

/-- The part of a body that has come, in percent, rounded to the even neighbour. -/
def percent (received : Nat) (total : Int) : Nat :=
  let t := (Binary64.ofInt total).toFloat
  match (Binary64.ofFloat (Float.ofNat received / t * 100)).toFraction? with
  | some (n, d) => roundDiv n.toNat d
  | none => 0

/-- A body that is being written. -/
structure Writing where
  content : ByteArray := .empty
  /-- The number of bytes at which progress is reported next. -/
  nextReport : Nat
  events : List Event := []

namespace Writing

/-- The record of progress after some bytes. -/
def report (received : Nat) (total : Int) : Event :=
  .log .info .binary ("Download progress: " ++ toString (percent received total) ++ "% (" ++
    toString (roundDiv received 1048576) ++ "MB)")

/-- Writes a chunk, and reports if a step is complete and the length is known. -/
def write (step : Nat) (total : Int) : Writing → ByteArray → Writing
  | ⟨content, next, events⟩, β =>
    let content := content ++ β
    if 0 < total ∧ next ≤ content.size then
      ⟨content, next + step, events ++ [report content.size total]⟩
    else ⟨content, next, events⟩

end Writing

/-- Writes the chunks of a body. -/
def Response.write (limits : Limits) (total : Int) (ρ : Response) : Writing :=
  (chunks limits.chunkSize ρ.interruption.isNone .empty ρ.body).foldl
    (Writing.write limits.progressStep total) { nextReport := limits.progressStep }

end Sluice.Install
