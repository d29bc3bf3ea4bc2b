import Bookkeeping.Number.Binary64

/-!
# Fifteen significant digits

The text that the database keeps of a binary number in a column of texts: at
most fifteen digits, without needless zeros at the end but with at least one
digit behind the point, and with a power of ten from 10 ^ 15 upward and below
0.0001.
-/

namespace Bookkeeping.Binary64

/-- The number of digits that are kept. -/
def keptDigits : Nat := 15

/--
The first fifteen digits of a positive fraction as a number, a half rounded
upward, and the size of the fraction: the exponent of the power of ten above it.
-/
def leadingDigits (numerator denominator : Nat) : Nat × Int :=
  let size := decimalSize numerator denominator
  let places : Int := keptDigits - size
  let top := if places < 0 then numerator else numerator * Nat.pow 10 places.toNat
  let bottom := if places < 0 then denominator * Nat.pow 10 places.natAbs else denominator
  let rounded := (2 * top + bottom) / (2 * bottom)
  if rounded = Nat.pow 10 keptDigits then (Nat.pow 10 (keptDigits - 1), size + 1) else (rounded, size)

/-- Digits without the zeros at their end. -/
def withoutFinalZeros (digits : List Char) : List Char :=
  (digits.reverse.dropWhile (· == '0')).reverse

/-- The text of a finite number as the database keeps it. -/
def keptFiniteText (negative : Bool) (significand : Nat) (exponent : Int) : String :=
  if significand = 0 then "0.0"
  else
    let (top, bottom) := descaled significand 1 (-exponent)
    let (coefficient, size) := leadingDigits top bottom
    let digits := withoutFinalZeros (Number.naturalCharacters coefficient)
    let written :=
      if -4 < size ∧ size ≤ keptDigits then positional digits size
      else if digits.length = 1 then scientific (digits ++ ['0']) size
      else scientific digits size
    (if negative then "-" else "") ++ String.ofList written

/-- The text of a number as the database keeps it; what is no number is not kept. -/
def keptText? : Binary64 → Option String
  | .notANumber => none
  | .infinite negative => some (if negative then "-Inf" else "Inf")
  | .finite negative significand exponent => some (keptFiniteText negative significand exponent)

end Bookkeeping.Binary64
