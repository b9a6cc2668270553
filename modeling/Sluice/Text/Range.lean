/-!
# Sets of characters as ranges of code points
-/

namespace Sluice.Text

/-- Whether the code point of `c` lies in one of the closed ranges. -/
def inRanges (ρ : List (Nat × Nat)) (c : Char) : Bool :=
  ρ.any fun (lo, hi) ↦ lo ≤ c.toNat && c.toNat ≤ hi

theorem inRanges_iff {ρ : List (Nat × Nat)} {c : Char} :
    inRanges ρ c = true ↔ ∃ p ∈ ρ, p.1 ≤ c.toNat ∧ c.toNat ≤ p.2 := by
  simp [inRanges]

end Sluice.Text
