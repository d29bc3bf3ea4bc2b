import Bookkeeping.Number.Digits
import Bookkeeping.Number.Rounding

/-!
# Binary floating-point numbers

A number with a fractional part or an exponent reaches the bank as a binary
floating-point number of 64 bits.  The bank never computes with such a number;
it only reads it, rounding the written decimal to the nearest one, and writes
it with the fewest digits that read back as the same number.

Everything here is exact arithmetic on natural numbers.
-/

namespace Bookkeeping

/--
A binary floating-point number of 64 bits.  A finite one is the integer
`significand` scaled by a power of two: `significand < 2 ^ 53`, and the
exponent lies between -1074 and 971.
-/
inductive Binary64 where
  | finite (negative : Bool) (significand : Nat) (exponent : Int)
  | infinite (negative : Bool)
  | notANumber
deriving DecidableEq

namespace Binary64

/-- The fraction `numerator / denominator` divided by a power of two. -/
def descaled (numerator denominator : Nat) (exponent : Int) : Nat × Nat :=
  if exponent < 0 then (numerator * Nat.pow 2 exponent.natAbs, denominator)
  else (numerator, denominator * Nat.pow 2 exponent.natAbs)

/-- The exponent that leaves a significand of 53 bits, or the least exponent. -/
def exponentFor (numerator denominator : Nat) : Int :=
  let guess := max ((numerator.log2 : Int) - denominator.log2 - 53) (-1074)
  let (top, bottom) := descaled numerator denominator guess
  if Nat.pow 2 53 ≤ top / bottom then guess + 1 else guess

/-- The nearest number to a positive fraction, a tie to the even significand. -/
def nearest (negative : Bool) (numerator denominator : Nat) : Binary64 :=
  let exponent := exponentFor numerator denominator
  let (top, bottom) := descaled numerator denominator exponent
  let rounded := Number.roundedQuotient top bottom
  let (significand, exponent) :=
    if rounded = Nat.pow 2 53 then (Nat.pow 2 52, exponent + 1) else (rounded, exponent)
  if 971 < exponent then .infinite negative else .finite negative significand exponent

/-- The nearest number to `coefficient * 10 ^ exponent`. -/
def ofDecimal (negative : Bool) (coefficient : Nat) (exponent : Int) : Binary64 :=
  let size := exponent + (Number.digits coefficient).length
  if coefficient = 0 ∨ size < -400 then .finite negative 0 (-1074)
  else if 400 < size then .infinite negative
  else if exponent < 0 then nearest negative coefficient (Nat.pow 10 exponent.natAbs)
  else nearest negative (coefficient * Nat.pow 10 exponent.natAbs) 1

/--
The decimal exponent of a positive fraction: the `k` with
`10 ^ (k - 1) ≤ numerator / denominator < 10 ^ k`.
-/
def decimalSize (numerator denominator : Nat) : Int :=
  if denominator ≤ numerator then (Number.digits (numerator / denominator)).length
  else
    let rec shift : Nat → Nat → Int
      | 0, _ => 0
      | fuel + 1, top => if denominator ≤ top then 1 else shift fuel (10 * top) - 1
    shift 400 numerator

/--
The shortest decimal that reads back as `significand * 2 ^ exponent`, as a
coefficient and a decimal exponent; of several with equally many digits it is
the nearest.  The numbers that read back are those between the midpoints to the
two neighbours, the midpoints included when the significand is even.
-/
def shortest (significand : Nat) (exponent : Int) : Nat × Int :=
  -- everything is measured in quarters of the unit of the last binary place
  let quarter := exponent - 2
  let scale (number : Nat) : Nat × Nat :=
    if quarter < 0 then (number, Nat.pow 2 quarter.natAbs)
    else (number * Nat.pow 2 quarter.natAbs, 1)
  let lowGap := if significand = Nat.pow 2 52 ∧ -1074 < exponent then 1 else 2
  let (top, bottom) := scale (4 * significand)
  let (low, _) := scale (4 * significand - lowGap)
  let (high, _) := scale (4 * significand + 2)
  let even := significand % 2 == 0
  let size := decimalSize top bottom
  let rec search : Nat → Int → Nat × Int
    | 0, place => (top / bottom, place)
    | fuel + 1, place =>
      -- the fractions relative to the grid of multiples of `10 ^ place`
      let up := if place < 0 then Nat.pow 10 place.natAbs else 1
      let down := bottom * (if place < 0 then 1 else Nat.pow 10 place.natAbs)
      let below := top * up / down
      let holds (point : Nat) : Bool :=
        if even then low * up ≤ point * down && point * down ≤ high * up
        else low * up < point * down && point * down < high * up
      let above := below + 1
      let nearerBelow := 2 * (top * up % down) < down ||
        (2 * (top * up % down) == down && below % 2 == 0)
      if holds below && (nearerBelow || !holds above) then (below, place)
      else if holds above then (above, place)
      else search fuel (place - 1)
  search 18 size

/-- The digits with the decimal point after the first `size` of them. -/
def positional (digits : List Char) (size : Int) : List Char :=
  if size ≤ 0 then ['0', '.'] ++ List.replicate size.natAbs '0' ++ digits
  else if size < digits.length then
    digits.take size.toNat ++ ['.'] ++ digits.drop size.toNat
  else digits ++ List.replicate (size.toNat - digits.length) '0' ++ ['.', '0']

/-- The digits with a point after the first, and a power of ten of at least two digits. -/
def scientific (digits : List Char) (size : Int) : List Char :=
  let power := size - 1
  let point := if digits.length ≤ 1 then [] else ['.']
  let magnitude := Number.naturalCharacters power.natAbs
  let padding := if magnitude.length < 2 then ['0'] else []
  digits.take 1 ++ point ++ digits.drop 1 ++
    ['e', if power < 0 then '-' else '+'] ++ padding ++ magnitude

/--
The text of a number: the fewest digits that read back, positional from 0.0001
up to below 10 ^ 16, and with a power of ten elsewhere.
-/
def text : Binary64 → String
  | .notANumber => "nan"
  | .infinite negative => if negative then "-inf" else "inf"
  | .finite negative significand exponent =>
    let sign := if negative then "-" else ""
    if significand = 0 then sign ++ "0.0"
    else
      let (coefficient, place) := shortest significand exponent
      let digits := Number.naturalCharacters coefficient
      let size := place + digits.length
      let written :=
        if -4 < size ∧ size ≤ 16 then positional digits size else scientific digits size
      sign ++ String.ofList written

/-- Whether the number is zero, with either sign. -/
def isZero : Binary64 → Bool
  | .finite _ significand _ => significand == 0
  | _ => false

end Binary64

end Bookkeeping
