import Sluice.Json.Read
import Sluice.Text.Blank
import Sluice.Text.Case
import Sluice.Text.Utf8
import Sluice.Value.Text

/-!
# What the proxy writes

The proxy's output is cut into lines at line feeds.  A line that grows beyond the limit ends the
reading for good.  A line on the standard output that is a JSON object of an error level tells what
went wrong.
-/

namespace Sluice.Proxy

open Text

/-- The longest line that is read, in bytes. -/
def streamLimit : Nat := 1048576

/-- The reading of one output stream: the bytes of the line at hand in reverse, and their number. -/
structure LineBuffer where
  pending : List UInt8 := []
  size : Nat := 0
  deriving DecidableEq, Repr

/-- The lines that some bytes complete, last one first, and the buffer after them; none once a line
is too long. -/
structure Cut where
  lines : List (List UInt8)
  buffer : Option LineBuffer
  deriving DecidableEq, Repr

namespace LineBuffer

/-- Takes one more byte. -/
def push (κ : Cut) (b : UInt8) : Cut :=
  match κ.buffer with
  | none => κ
  | some β =>
    if b = 10 then
      if streamLimit < β.size then ⟨κ.lines, none⟩ else ⟨β.pending.reverse :: κ.lines, some {}⟩
    else ⟨κ.lines, some ⟨b :: β.pending, β.size + 1⟩⟩

/-- Takes some bytes, and gives up if the line at hand is too long. -/
def feed (β : LineBuffer) (bs : List UInt8) : Cut :=
  let κ := bs.foldl push ⟨[], some β⟩
  ⟨κ.lines.reverse, κ.buffer.filter (·.size ≤ streamLimit)⟩

/-- The line that the end of the stream completes. -/
def finish (β : LineBuffer) : Option (List UInt8) :=
  if β.pending.isEmpty then none else some β.pending.reverse

@[simp] theorem feed_nil (β : LineBuffer) (h : β.size ≤ streamLimit) :
    β.feed [] = ⟨[], some β⟩ := by
  simp [feed, h]

end LineBuffer

/-- The text of a line, without blanks at its ends; none if nothing is left. -/
def lineText? (bs : List UInt8) : Option String :=
  let s := trim (Utf8.decode bs)
  if s.isEmpty then none else some (String.ofList s)

/-- The levels that mark an error. -/
def errorLevels : List String := ["error", "fatal", "critical"]

/-- The first of some values that counts as true. -/
def firstTruthy (vs : List Value) : Option Value := vs.find? Value.isTruthy

/-- The level of a record, in lower case. -/
def levelOf (ρ : Row) : String :=
  lowerString (((firstTruthy [ρ.get "level", ρ.get "severity"]).map Value.plainString).getD "")

/-- What a record of an error level says: its message, or else the line it came from. -/
def messageOf (ρ : Row) (line : String) : Value :=
  (firstTruthy [ρ.get "message", ρ.get "msg"]).getD (.text line)

/-- What a line says went wrong, if it is the record of an error.  The reader gives up on a line
whose containers are nested too deep. -/
def structuredError (line : String) : Except Json.Fault (Option Value) :=
  match Json.read false line.toList with
  | .ok (.record ρ) => .ok (if errorLevels.contains (levelOf ρ) then some (messageOf ρ line) else none)
  | .ok _ => .ok none
  | .error ⟨.tooDeep κ, _⟩ => .error (.tooDeep κ)
  | .error _ => .ok none

end Sluice.Proxy
