import Sluice.Fault

/-!
# Results of tools

Every tool answers with a record.  A failure says so, and carries the error's text, a code for
programs and a message for people.
-/

namespace Sluice.Tool

/-- The record of a failure. -/
def failure (error code message : String) : Value :=
  .record [("success", .bool false), ("error", .text error), ("error_code", .text code),
    ("message", .text message)]

/-- The code of a fault; one that is not the gate's own has the general code. -/
def codeOf (φ : Fault) : String := (φ.category?.getD .general).code

/-- The record of a fault. -/
def failureOf (φ : Fault) (message : String) : Value := failure φ.message (codeOf φ) message

/-- The record of arguments that cannot be used. -/
def invalidArguments (error : String) : Value :=
  failure error "invalid_arguments" "Invalid arguments."

end Sluice.Tool
