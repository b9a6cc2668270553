import Sluice.Decimal.Binary
import Sluice.Decimal.Round

/-!
# Time

Moments and lengths of time are whole numbers of microseconds, counted from the start of the clock.
-/

namespace Sluice

open Decimal

/-- A moment or a length of time. -/
abbrev Time := Int

namespace Time

def second : Time := 1000000

/-- A number of seconds as a length of time, if it is finite. -/
def ofSeconds? (x : Binary64) : Option Time :=
  x.toFraction?.map fun (n, d) ↦
    let μ := roundDiv (n.natAbs * 1000000) d
    if n < 0 then -μ else μ

/-- Whether a moment has come that may never come. -/
def reached (now : Time) : Option Time → Bool
  | some t => t ≤ now
  | none => false

/-- The earlier of two moments that may never come. -/
def earlier : Option Time → Option Time → Option Time
  | some s, some t => some (min s t)
  | some s, none => some s
  | none, t => t

/-- The earliest of some moments. -/
def earliest (ts : List (Option Time)) : Option Time := ts.foldl earlier none

end Time

/-- Where work stands: it waits at a point of `φ`, or it is over. -/
inductive Progress (φ α : Type) where
  | waiting (point : φ)
  | done (result : α)

namespace Progress

/-- The same work, seen as a part of larger work. -/
def within {φ ψ α : Type} (f : φ → ψ) : Progress φ α → Progress ψ α
  | waiting p => .waiting (f p)
  | done a => .done a

end Progress

end Sluice
