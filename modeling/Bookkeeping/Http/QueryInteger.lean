import Bookkeeping.Number.Digits
import Bookkeeping.Text.Blank

/-!
# Integers in a query

A query writes an integer in decimal digits with a minus sign in front of a
negative one.  Where that is not what it holds, it is cleaned first: of white
space around it, of a plus sign, of leading zeros, of a fraction of zeros, and
of single underscores between characters.  A number with too many digits is
refused for its size.
-/

namespace Bookkeeping.Http

/-- Why a text of a query is not read as an integer. -/
inductive QueryFault where
  /-- The text does not write an integer. -/
  | malformed
  /-- The integer has more digits than are read. -/
  | tooLong
deriving DecidableEq, Repr

/-- Whether digits start with a needless zero. -/
def hasNeedlessZero : List Char → Bool
  | '0' :: next :: _ => next.isDigit
  | _ => false

/-- The number that digits write, if nothing follows them. -/
def plainNatural (characters : List Char) : Except QueryFault Nat :=
  let digits := characters.takeWhile Char.isDigit
  if digits.isEmpty || hasNeedlessZero digits then .error .malformed
  else if Number.longestInteger < digits.length then .error .tooLong
  else if digits.length < characters.length then .error .malformed
  else .ok (Number.ofDigits (digits.map fun digit => digit.toNat - 48))

/-- The integer that a text writes without any need for cleaning. -/
def plainInteger : List Char → Except QueryFault Int
  | '-' :: rest => (plainNatural rest).map fun number => -(number : Int)
  | characters => (plainNatural characters).map fun number => (number : Int)

/-- The sign in front of a number and what follows; two signs in a row are none. -/
def querySign? : List Char → Option (Bool × List Char)
  | '+' :: '-' :: _ => none
  | '-' :: '-' :: _ => none
  | '-' :: rest => some (true, rest)
  | '+' :: rest => some (false, rest)
  | characters => some (false, characters)

/--
The characters behind a zero without further zeros and underscores.  The
character before a point is kept, and the last character is always kept.
-/
def behindZeros (last : Char) : List Char → Option (List Char)
  | [] => some [last]
  | character :: rest =>
    if character = '0' ∨ character = '_' then behindZeros character rest
    else if character.isDigit ∨ character = '-' then some (character :: rest)
    else if character = '.' then some (last :: character :: rest)
    else none

/-- The characters without leading zeros; they have to start as a number does. -/
def withoutZeros : List Char → Option (List Char)
  | '0' :: rest => behindZeros '0' rest
  | character :: rest =>
    if character.isDigit || character == '-' then some (character :: rest) else none
  | [] => none

/-- The characters without a fraction that consists of zeros only. -/
def withoutFraction (characters : List Char) : List Char :=
  let decimals := (characters.dropWhile (· != '.')).drop 1
  if !decimals.isEmpty && decimals.all (· == '0') then characters.takeWhile (· != '.')
  else characters

/-- Whether two underscores stand side by side. -/
def hasDoubleUnderscore : List Char → Bool
  | '_' :: '_' :: _ => true
  | _ :: rest => hasDoubleUnderscore rest
  | [] => false

/-- The characters without underscores, if each stands alone between others. -/
def withoutUnderscores (characters : List Char) : List Char :=
  if characters.head? == some '_' || characters.getLast? == some '_' ||
      hasDoubleUnderscore characters then characters
  else characters.filter (· != '_')

/-- The characters of a number after they were cleaned, if they can be. -/
def cleaned? (text : String) : Option (List Char) := do
  let (negative, unsigned) ← querySign? (Text.trimBy Text.isWhiteSpace text.toList)
  let bare := withoutUnderscores (withoutFraction (← withoutZeros unsigned))
  return if negative then '-' :: bare else bare

/-- The integer that the text of a query writes. -/
def queryInteger (text : String) : Except QueryFault Int :=
  match plainInteger text.toList with
  | .error .malformed =>
    match cleaned? text with
    | some characters => plainInteger characters
    | none => .error .malformed
  | outcome => outcome

end Bookkeeping.Http
