import Bookkeeping.Number.Digits
import Bookkeeping.Text.Blank
import Bookkeeping.Text.Digit

/-!
# Reading integers

The integers that people write: blanks around them are ignored, a sign may
precede them, the digits may be of any script, and single underscores may stand
between digits.  The base is ten or sixteen; sixteen goes on with the letters
from `a` to `f` of either case and may be announced by `0x`.  A decimal text with
too many digits is refused without being read.
-/

namespace Bookkeeping.Number

/-- Why a text is not read as an integer. -/
inductive IntegerFault where
  /-- The text does not write an integer. -/
  | malformed
  /-- The text has more digits than are read. -/
  | tooLong (digits : Nat)
deriving DecidableEq

/-- The base in which an integer is written. -/
inductive Base where
  | ten
  | sixteen
deriving DecidableEq, Repr

/-- The number of digits of a base. -/
def Base.size : Base → Nat
  | .ten => 10
  | .sixteen => 16

/-- The value of a digit: a decimal digit of any script, or a letter where the base has them. -/
def Base.digitValue? (base : Base) (character : Char) : Option Nat :=
  match base, Text.digitValue? character with
  | _, some digit => some digit
  | .ten, none => none
  | .sixteen, none =>
    let letter := character.toLower
    if 'a' ≤ letter ∧ letter ≤ 'f' then some (letter.toNat - 87) else none

/-- The values of digits; one underscore may stand between two of them. -/
def groupedDigits? (base : Base) : List Char → Option (List Nat)
  | [] => none
  | character :: rest =>
    match base.digitValue? character with
    | none => none
    | some digit =>
      match rest with
      | [] => some [digit]
      | '_' :: more => (groupedDigits? base more).map (digit :: ·)
      | more => (groupedDigits? base more).map (digit :: ·)

/-- The sign in front of a number: whether it is a minus sign, and what follows. -/
def integerSign : List Char → Bool × List Char
  | '-' :: rest => (true, rest)
  | '+' :: rest => (false, rest)
  | rest => (false, rest)

/-- The characters behind the announcement of a base; one underscore may end it. -/
def behindAnnouncement : Base → List Char → List Char
  | .sixteen, '0' :: 'x' :: '_' :: rest | .sixteen, '0' :: 'X' :: '_' :: rest => rest
  | .sixteen, '0' :: 'x' :: rest | .sixteen, '0' :: 'X' :: rest => rest
  | _, rest => rest

/-- The number that digits of a base write. -/
def ofDigitsIn (base : Base) (digits : List Nat) : Nat :=
  digits.foldl (fun number digit => base.size * number + digit) 0

/-- Whether there are more digits than are read; a power of two as base has no such limit. -/
def areTooMany : Base → List Nat → Bool
  | .ten, digits => longestInteger < digits.length
  | .sixteen, _ => false

def integerOfText (base : Base) (text : String) : Except IntegerFault Int :=
  let (negative, unsigned) := integerSign (Text.trimBy Text.isWhiteSpace text.toList)
  match groupedDigits? base (behindAnnouncement base unsigned) with
  | none => .error .malformed
  | some digits =>
    if areTooMany base digits then .error (.tooLong digits.length)
    else
      let number : Int := ofDigitsIn base digits
      .ok (if negative then -number else number)

end Bookkeeping.Number
