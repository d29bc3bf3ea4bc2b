import Bookkeeping.Number.Digits
import Bookkeeping.Number.Rounding
import Bookkeeping.Text.Blank
import Bookkeeping.Text.Digit

/-!
# Decimal numbers

Decimal numbers of any size as clients may write them: a sign, a coefficient
and a power of ten, or one of the special values.  This file reads them, writes
them, compares them, and brings them to the four fractional places that the ledger
keeps.

Rounding to four places takes the nearest multiple of 0.0001, a tie going to
the even neighbour, keeps the sign of a zero, and is refused when the result
would need more than twenty-eight digits.
-/

namespace Bookkeeping

/-- A decimal number, an infinity, or a mark that stands for no number. -/
inductive Decimal where
  | finite (negative : Bool) (coefficient : Nat) (exponent : Int)
  | infinite (negative : Bool)
  | notANumber (negative signaling : Bool) (payload : Nat)
deriving DecidableEq

namespace Decimal

/-- The greatest exponent that a decimal number may have after its first digit. -/
def greatestExponent : Int := 999999999999999999

/-- The least exponent of the last digit of a decimal number. -/
def leastExponent : Int := -1999999999999999997

/-- The most digits that a decimal number may have, and the most of them behind its point. -/
def mostDigits : Nat := 999999999999999999

/-- Why a text is not the text of a decimal number. -/
inductive Unreadable where
  | malformed
  | outOfRange
deriving DecidableEq

/--
The characters that count in the text of a number.  Underscores are skipped
wherever they stand, and the digits of every script become ASCII digits; any
other character outside of ASCII makes the text unreadable.
-/
def plainCharacters : List Char → Option (List Char)
  | [] => some []
  | character :: rest =>
    if character = '_' then plainCharacters rest
    else if 0 < character.toNat ∧ character.toNat < 128 then
      (plainCharacters rest).map (character :: ·)
    else if Text.isBlank character then (plainCharacters rest).map (' ' :: ·)
    else
      match Text.digitValue? character with
      | some digit => (plainCharacters rest).map (Number.digitCharacter digit :: ·)
      | none => none

/-- The number that ASCII digits write. -/
def digitsNumber (characters : List Char) : Nat :=
  Number.ofDigits (characters.map fun character => character.toNat - 48)

/-- A sign, if there is one, and what follows it. -/
def takeSign : List Char → Bool × List Char
  | '-' :: rest => (true, rest)
  | '+' :: rest => (false, rest)
  | characters => (false, characters)

/-- The power of ten at the end of a number: nothing, or `e` and a signed number. -/
def exponentPart : List Char → Option Int
  | [] => some 0
  | mark :: rest =>
    let (negative, digits) := takeSign rest
    if (mark = 'e' ∨ mark = 'E') ∧ !digits.isEmpty ∧ digits.all Char.isDigit then
      some (if negative then -(digitsNumber digits : Int) else digitsNumber digits)
    else none

/-- The fractional digits after a point, if there is one, and what follows them. -/
def fractionPart : List Char → List Char × List Char
  | '.' :: rest => (rest.takeWhile Char.isDigit, rest.dropWhile Char.isDigit)
  | characters => ([], characters)

/-- Whether the digits around a point are too many; zeros in front of all others do not count. -/
def areTooMany (whole fraction : List Char) : Bool :=
  mostDigits < ((whole ++ fraction).dropWhile (· == '0')).length || mostDigits < fraction.length

/-- Reads an unsigned number: digits, with a point and a power of ten if wanted. -/
def readNumeric (negative : Bool) (characters : List Char) : Except Unreadable Decimal :=
  let whole := characters.takeWhile Char.isDigit
  let (fraction, rest) := fractionPart (characters.dropWhile Char.isDigit)
  if whole.isEmpty && fraction.isEmpty || areTooMany whole fraction then .error .malformed
  else
    match exponentPart rest with
    | none => .error .malformed
    | some power =>
      let coefficient := digitsNumber (whole ++ fraction)
      let exponent := power - fraction.length
      let size : Int := (Number.digits coefficient).length
      if greatestExponent < exponent + size - 1 ∨ exponent < leastExponent then .error .outOfRange
      else .ok (.finite negative coefficient exponent)

/-- What follows a word, letters compared without regard to ASCII case. -/
def afterWord? (word : String) (characters : List Char) : Option (List Char) :=
  if (characters.take word.length).map Char.toLower = word.toList then
    some (characters.drop word.length)
  else none

/-- Reads an unsigned special value; the mark for no number may carry digits. -/
def readSpecial? (negative : Bool) (characters : List Char) : Option Decimal :=
  let marked (word : String) (signaling : Bool) : Option Decimal :=
    match afterWord? word characters with
    | some digits =>
      if digits.all Char.isDigit then some (.notANumber negative signaling (digitsNumber digits))
      else none
    | none => none
  if afterWord? "inf" characters = some [] ∨ afterWord? "infinity" characters = some [] then
    some (.infinite negative)
  else marked "nan" false <|> marked "snan" true

/-- Reads the text of a decimal number, blanks around it ignored. -/
def ofText (text : String) : Except Unreadable Decimal :=
  match plainCharacters (Text.trimBy Text.isBlank text.toList) with
  | none => .error .malformed
  | some characters =>
    let (negative, unsigned) := takeSign characters
    match readSpecial? negative unsigned with
    | some special => .ok special
    | none => readNumeric negative unsigned

/-- The text of a sign: a minus sign or nothing. -/
def signText (negative : Bool) : String :=
  if negative then "-" else ""

/--
The text of a finite number.  It is positional while the exponent is not
positive and at most five zeros follow the point; otherwise one digit stands
before the point and a signed power of ten follows.
-/
def finiteText (negative : Bool) (coefficient : Nat) (exponent : Int) : String :=
  let digits := Number.naturalCharacters coefficient
  let size := exponent + digits.length
  let positional := exponent ≤ 0 ∧ -6 < size
  let point : Int := if positional then size else 1
  let whole := if point ≤ 0 then ['0'] else digits.take point.toNat
  let fraction :=
    if point ≤ 0 then List.replicate point.natAbs '0' ++ digits else digits.drop point.toNat
  let written := whole ++ (if fraction.isEmpty then [] else '.' :: fraction)
  let power :=
    if size = point then ""
    else (if size < point then "E-" else "E+") ++ Number.naturalText (size - point).natAbs
  signText negative ++ String.ofList written ++ power

/-- The text of a decimal number. -/
def text : Decimal → String
  | .finite negative coefficient exponent => finiteText negative coefficient exponent
  | .infinite negative => signText negative ++ "Infinity"
  | .notANumber negative signaling payload =>
    signText negative ++ (if signaling then "sNaN" else "NaN") ++
      (if payload = 0 then "" else Number.naturalText payload)

/-! ## Order -/

/-- A finite number counted in units of a power of ten that is not above its own. -/
def scaled (negative : Bool) (coefficient : Nat) (exponent least : Int) : Int :=
  let magnitude : Int := (coefficient * Nat.pow 10 (exponent - least).toNat : Nat)
  if negative then -magnitude else magnitude

/-- Whether a number is neither an infinity nor a mark for no number. -/
def isFinite : Decimal → Bool
  | .finite _ _ _ => true
  | .infinite _ | .notANumber _ _ _ => false

/-- Whether a finite number is not above another one; special values are not asked. -/
def isAtMost : Decimal → Decimal → Bool
  | .finite negative coefficient exponent, .finite otherNegative other otherExponent =>
    let least := min exponent otherExponent
    scaled negative coefficient exponent least ≤ scaled otherNegative other otherExponent least
  | _, _ => false

/-- Whether two finite numbers are equal, in whatever units they are written. -/
def isEqual (left right : Decimal) : Bool :=
  left.isAtMost right && right.isAtMost left

/-! ## Four places -/

/-- The most digits that a rounded number may have. -/
def precision : Nat := 28

/-- The number of ten-thousandths in `coefficient * 10 ^ exponent`, rounded. -/
def tenThousandths? (coefficient : Nat) (exponent : Int) : Option Nat :=
  let size := (Number.digits coefficient).length
  if coefficient = 0 then some 0
  else if -4 ≤ exponent then
    if precision < size + (exponent + 4).toNat then none
    else some (coefficient * Nat.pow 10 (exponent + 4).toNat)
  else
    let dropped := (-4 - exponent).toNat
    let rounded :=
      if size < dropped then 0 else Number.roundedQuotient coefficient (Nat.pow 10 dropped)
    if Nat.pow 10 precision ≤ rounded then none else some rounded

/--
The number with exactly four fractional places.  There is no such number for
an infinity, for a signaling mark, and where more than twenty-eight digits would
be needed; a quiet mark stays, with the last twenty-eight digits that it carries.
-/
def fixed? : Decimal → Option Decimal
  | .finite negative coefficient exponent =>
    (tenThousandths? coefficient exponent).map fun units => .finite negative units (-4)
  | .infinite _ => none
  | .notANumber negative signaling payload =>
    if signaling then none else some (.notANumber negative false (payload % Nat.pow 10 precision))

/-- Whether the number is zero, with either sign. -/
def isZero : Decimal → Bool
  | .finite _ coefficient _ => coefficient == 0
  | _ => false

end Decimal

end Bookkeeping
