/-!
# Rounding a quotient

The one rounding rule of the bank: to the nearest integer, and a tie to the
even neighbour.  The rounded value lies within half a unit of the quotient.
-/

namespace Bookkeeping.Number

/-- The quotient rounded to the nearest integer, a tie to the even neighbour. -/
def roundedQuotient (numerator denominator : Nat) : Nat :=
  let quotient := numerator / denominator
  let twice := 2 * (numerator % denominator)
  if twice < denominator then quotient
  else if denominator < twice then quotient + 1
  else quotient + quotient % 2

/-- Dividing by one leaves nothing to round. -/
@[simp]
theorem roundedQuotient_one (numerator : Nat) : roundedQuotient numerator 1 = numerator := by
  simp [roundedQuotient, Nat.mod_one]

/-- The rounded value is at most half a unit below or above the quotient. -/
theorem roundedQuotient_within_half
    (numerator denominator : Nat)
    (positive : 0 < denominator) :
    2 * numerator ≤ 2 * (roundedQuotient numerator denominator * denominator) + denominator ∧
      2 * (roundedQuotient numerator denominator * denominator) ≤
        2 * numerator + denominator := by
  have split := Nat.div_add_mod numerator denominator
  have small := Nat.mod_lt numerator positive
  have parity : numerator / denominator % 2 = 0 ∨ numerator / denominator % 2 = 1 := by omega
  have commuted := Nat.mul_comm denominator (numerator / denominator)
  simp only [roundedQuotient]
  split
  · constructor <;> omega
  · split
    · rw [Nat.add_mul]
      constructor <;> omega
    · rcases parity with parity | parity <;> rw [parity, Nat.add_mul] <;> constructor <;> omega

end Bookkeeping.Number
