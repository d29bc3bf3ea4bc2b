import Bookkeeping.Mismatch

/-!
# Turning values into numbers

An integer is asked of a value for the size of a page or the place of a member;
fractions are cut off, and a text has to write an integer.  A decimal number is
asked of a value for an amount; binary numbers are taken exactly, a text has to
write a decimal number, and a list gives sign, digits and exponent.
-/

namespace Bookkeeping.Value

/-! ## Integers -/

/-- The part of a fraction in front of its point. -/
def wholePart (negative : Bool) (numerator denominator : Nat) : Int :=
  let whole : Int := (numerator / denominator : Nat)
  if negative then -whole else whole

/-- The largest exponent of ten whose numbers are written out. -/
def longestExponent : Nat := 6000

/--
A decimal number as a fraction.  Exponents beyond all that is compared with them
are cut, which keeps the order with such numbers.
-/
def decimalFraction (coefficient : Nat) (exponent : Int) : Nat × Nat :=
  let power := Nat.pow 10 (min exponent.natAbs longestExponent)
  if exponent < 0 then (coefficient, power) else (coefficient * power, 1)

/-- The integer that a value gives. -/
def integer (value : Value) : Except Mismatch Int :=
  match value with
  | .bool held => .ok (if held then 1 else 0)
  | .int number => .ok number
  | .float (.finite negative significand exponent) =>
    let (top, bottom) := Binary64.descaled significand 1 (-exponent)
    .ok (wholePart negative top bottom)
  | .float (.infinite _) => .error (.infiniteInteger value)
  | .float .notANumber => .error (.undefinedInteger value)
  | .decimal (.finite negative coefficient exponent) =>
    let (top, bottom) := decimalFraction coefficient exponent
    .ok (wholePart negative top bottom)
  | .decimal (.infinite _) => .error (.infiniteInteger value)
  | .decimal (.notANumber _ _ _) => .error (.undefinedInteger value)
  | .text written => Number.readInteger .ten written
  | .null | .list _ | .record _ => .error (.noInteger value)

/-- The place in a list that a value names; only integers and truth values name one. -/
def index : Value → Except Mismatch Int
  | .bool held => .ok (if held then 1 else 0)
  | .int number =>
    if -Number.wordLimit ≤ number ∧ number < Number.wordLimit then .ok number
    else .error .indexTooLarge
  | value => .error (.noIndex value)

/-! ## Decimal numbers -/

/-- A binary number written out as a decimal one, in lowest terms. -/
def exactDecimal : Binary64 → Decimal
  | .finite negative significand exponent =>
    if 0 ≤ exponent then .finite negative (significand * Nat.pow 2 exponent.toNat) 0
    else
      let common := Nat.gcd significand (Nat.pow 2 exponent.natAbs)
      let places := exponent.natAbs - common.log2
      .finite negative (significand / common * Nat.pow 5 places) (-(places : Int))
  | .infinite negative => .infinite negative
  | .notANumber => .notANumber false false 0

/-- The integer that a member of a list of parts is. -/
def partInteger? : Value → Option Int
  | .int number => some number
  | .bool held => some (if held then 1 else 0)
  | _ => none

/-- The digit that a member of a list of digits is. -/
def partDigit? (value : Value) : Option Nat :=
  match partInteger? value with
  | some number => if 0 ≤ number ∧ number < 10 then some number.toNat else none
  | none => none

/-- The sign that a first part is. -/
def partSign (value : Value) : Except Mismatch Bool :=
  match partInteger? value with
  | some 0 => .ok false
  | some 1 => .ok true
  | _ => .error (.malformedParts .sign)

/-- The coefficient that a second part is. -/
def partCoefficient : Value → Except Mismatch Nat
  | .list members =>
    match members.mapM partDigit? with
    | some digits => .ok (Number.ofDigits digits)
    | none => .error (.malformedParts .coefficient)
  | _ => .error (.malformedParts .coefficient)

/-- What the last of three parts is: an exponent, or the mark of a special value. -/
inductive LastPart where
  | exponent (power : Int)
  | infinite
  | notANumber (signaling : Bool)

/-- The exponent or the mark that a last part is. -/
def lastPart : Value → Except Mismatch LastPart
  | .text "F" => .ok .infinite
  | .text "n" => .ok (.notANumber false)
  | .text "N" => .ok (.notANumber true)
  | .text _ => .error (.malformedParts .special)
  | other =>
    match partInteger? other with
    | none => .error (.malformedParts .exponent)
    | some power =>
      if power < -Number.wordLimit ∨ Number.wordLimit ≤ power then .error .exponentTooLarge
      else .ok (.exponent power)

/-- The number of a sign, a coefficient and an exponent, within the bounds of decimal numbers. -/
def boundedDecimal (negative : Bool) (coefficient : Nat) (power : Int) :
    Except Mismatch Decimal :=
  let size : Int := (Number.digits coefficient).length
  if Decimal.greatestExponent < power + size - 1 ∨ power < Decimal.leastExponent then
    .error .decimalOutOfRange
  else .ok (.finite negative coefficient power)

/-- The decimal number of a list of parts: sign, digits, and exponent or special mark. -/
def ofParts : List Value → Except Mismatch Decimal
  | [sign, digits, last] => do
    let negative ← partSign sign
    let last ← lastPart last
    let coefficient ← partCoefficient digits
    match last with
    | .exponent power => boundedDecimal negative coefficient power
    | .infinite => .ok (.infinite negative)
    | .notANumber signaling => .ok (.notANumber negative signaling coefficient)
  | _ => .error (.malformedParts .whole)

/-- The decimal number that a text writes, or the mismatch where it writes none. -/
def readDecimal (text : String) : Except Mismatch Decimal :=
  match Decimal.ofText text with
  | .ok number => .ok number
  | .error .malformed => .error .malformedDecimal
  | .error .outOfRange => .error .decimalOutOfRange

/-- The decimal number that a value is turned into. -/
def toDecimal (value : Value) : Except Mismatch Decimal :=
  match value with
  | .decimal number => .ok number
  | .bool held => .ok (.finite false (if held then 1 else 0) 0)
  | .int number => .ok (.finite (number < 0) number.natAbs 0)
  | .float number => .ok (exactDecimal number)
  | .text written => readDecimal written
  | .list parts => ofParts parts
  | .null | .record _ => .error (.noDecimal value)

end Bookkeeping.Value
