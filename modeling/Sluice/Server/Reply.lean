import Sluice.Gate.Call
import Sluice.Json.Write
import Sluice.Tool.Contract

/-!
# Replies to calls

A client that speaks the tool protocol gets the result of a call as a text.  Arguments that break
the tool's schema are refused before the tool is called, and this alone is marked as an error.
-/

namespace Sluice.Server

open Tool

/-- The reply to a call of a tool. -/
structure ToolReply where
  isError : Bool
  text : String
  deriving DecidableEq, Repr

/-- The reply that a result is. -/
def ToolReply.ofResult (v : Value) : ToolReply := ⟨false, Json.writeString v⟩

/-- The reply to arguments that break the schema of a tool. -/
def refusal? (δs : List Definition) (name : String) (arguments : Row) : Option ToolReply :=
  (breach? δs name arguments).map fun β ↦ ⟨true, "Input validation error: " ++ β.message⟩

/-- The reply to a call that has ended.  A fault that is no result is recorded and becomes one. -/
def replyOf (γ : Gate) (name : String) : Except Fault Value → Gate × Except Fault ToolReply
  | .ok v => (γ, .ok (.ofResult v))
  | .error φ =>
    if φ.kind = .cancelled then (γ, .error φ)
    else (γ.log .error .server ("Tool " ++ name ++ " failed"),
      .ok (.ofResult (failureOf φ "Tool execution failed.")))

/-- Only refused arguments are marked as an error. -/
theorem isError_replyOf (γ : Gate) (name : String) (r : Except Fault Value) (ρ : ToolReply)
    (h : (replyOf γ name r).2 = .ok ρ) : ρ.isError = false := by
  unfold replyOf at h
  split at h
  · cases h; rfl
  · split at h
    · cases h
    · cases h; rfl

end Sluice.Server
