import Bookkeeping.Failure

/-!
# Amounts that clients name

An amount comes as a value of any kind, and only a text can name one.  The grammar
is a plain ASCII decimal with an optional sign.  The text is then read as any
decimal number is, and the number has to lie above zero and below 10 ^ 15 and may
not be changed by rounding it to four places: nothing is rounded on the way in.  A
value that names no amount is refused together with the value as it was given.
-/

namespace Bookkeeping.Amount

/--
Whether characters are a plain decimal number: digits with a point and more digits
behind them if wanted, or a point and digits, and a sign in front of either.
-/
def isPlain (characters : List Char) : Bool :=
  let unsigned := (Decimal.takeSign characters).2
  match unsigned.takeWhile Char.isDigit, unsigned.dropWhile Char.isDigit with
  | _ :: _, [] => true
  | _ :: _, '.' :: fraction => fraction.all Char.isDigit
  | [], '.' :: fraction => !fraction.isEmpty && fraction.all Char.isDigit
  | _, _ => false

/-- The number zero, below which and at which there are no amounts. -/
def nothing : Decimal := .finite false 0 0

/-- The least number that is too large for an amount. -/
def tooMuch : Decimal := .finite false (Nat.pow 10 15) 0

/-- Whether a number lies between what is no amount yet and what is none any more. -/
def isInRange (number : Decimal) : Bool :=
  number.isFinite && !number.isAtMost nothing && !tooMuch.isAtMost number

/-- The refusal of a value, which quotes it; a value that cannot be written is refused for that. -/
def refusal (value : Value) : Failure :=
  match value.written with
  | .ok _ => .invalidAmount value
  | .error mismatch => .mismatched mismatch

/-- The amount that a number is, given the value that names the number. -/
def ofNumber (value : Value) (number : Decimal) : Except Failure Money :=
  if !isInRange number then .error (refusal value)
  else
    match number.fixed? with
    | some (.finite negative units places) =>
      if number.isEqual (.finite negative units places) then .ok (Money.ofUnits negative units)
      else .error (refusal value)
    | _ => .error (.mismatched .decimalOutOfRange)

/-- The amount that a text names, blanks around it ignored. -/
def ofText (text : String) : Except Failure Money :=
  let characters := Text.trimBy Text.isBlank text.toList
  if !isPlain characters then .error (refusal (.text text))
  else
    match Decimal.ofText (String.ofList characters) with
    | .ok number => ofNumber (.text text) number
    | .error _ => .error (refusal (.text text))

/-- The amount that a value names, or the refusal of the value. -/
def ofValue : Value → Except Failure Money
  | .text text => ofText text
  | value => .error (refusal value)

end Bookkeeping.Amount
