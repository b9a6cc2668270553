/-!
# Rounding a quotient
-/

namespace Sluice.Decimal

/-- The whole number nearest to `n / d`; a half goes to the even neighbour. -/
def roundDiv (n d : Nat) : Nat :=
  let (q, r) := (n / d, n % d)
  if 2 * r < d then q
  else if d < 2 * r then q + 1
  else q + q % 2

/-- The rounded quotient is at most half a unit away. -/
theorem two_mul_roundDiv_mul_le (n d : Nat) : 2 * (roundDiv n d * d) ≤ 2 * n + d := by
  have h := Nat.div_add_mod n d
  have : roundDiv n d * d ≤ (n / d) * d + d ∧ (n % d * 2 < d → roundDiv n d = n / d) := by
    constructor
    · unfold roundDiv
      simp only
      split
      · exact Nat.le_add_right _ _
      · split
        · exact Nat.le_of_eq (Nat.succ_mul _ _)
        · rw [Nat.add_mul]
          have : n / d % 2 ≤ 1 := by omega
          have := Nat.mul_le_mul_right d this
          omega
    · intro h
      simp only [roundDiv]
      rw [if_pos (by omega)]
  rw [Nat.mul_comm] at h
  by_cases hr : n % d * 2 < d
  · rw [this.2 hr]
    omega
  · omega

end Sluice.Decimal
