import Bookkeeping.Number.Integer
import Bookkeeping.Value

/-!
# Mismatches

Operators hand in values of any kind.  A mismatch says why a value cannot be
used for what it was handed in for: it is of a kind that knows no such
operation, or its text does not write what is wanted.
-/

namespace Bookkeeping

/-- A part of a decimal number that comes as a list of three members. -/
inductive DecimalPart where
  | whole
  | sign
  | coefficient
  | exponent
  | special
deriving DecidableEq, Repr

/-- What is wrong with a part of a decimal number. -/
def DecimalPart.complaint : DecimalPart → String
  | .whole => "argument must be a sequence of length 3"
  | .sign => "sign must be an integer with the value 0 or 1"
  | .coefficient => "coefficient must be a tuple of digits"
  | .exponent => "exponent must be an integer"
  | .special => "string argument in the third position must be 'F', 'n' or 'N'"

/-- Why a value cannot be used for what it was handed in for. -/
inductive Mismatch where
  /-- Values of this kind know no such operation. -/
  | lacks (value : Value) (operation : String)
  /-- Values of these two kinds have no order. -/
  | unordered (comparison : String) (left right : Value)
  /-- The text writes no integer. -/
  | malformedInteger (base : Number.Base) (text : String)
  /-- The text has more digits than an integer may have. -/
  | integerTooLong (digits : Nat)
  /-- An integer in the value has more digits than are written. -/
  | integerUnwritable
  /-- Values of this kind have no integer part. -/
  | noInteger (value : Value)
  /-- The number is no number, and has no integer part. -/
  | undefinedInteger (value : Value)
  /-- The number is an infinity, and has no integer part. -/
  | infiniteInteger (value : Value)
  /-- Values of this kind do not count the members of a list. -/
  | noIndex (value : Value)
  /-- No list is so long. -/
  | indexTooLarge
  /-- The text writes no decimal number. -/
  | malformedDecimal
  /-- The decimal number is too large, too small or too special. -/
  | decimalOutOfRange
  /-- Values of this kind are not turned into decimal numbers. -/
  | noDecimal (value : Value)
  /-- A list of parts writes no decimal number. -/
  | malformedParts (part : DecimalPart)
  /-- The exponent of a decimal number is beyond all bounds. -/
  | exponentTooLarge
  /-- Only texts write times. -/
  | noTime

namespace Mismatch

/-- The name of a mismatch. -/
def name : Mismatch → String
  | .lacks _ _ => "AttributeError"
  | .unordered _ _ _ | .noInteger _ | .noIndex _ | .noDecimal _ | .noTime => "TypeError"
  | .malformedInteger _ _ | .integerTooLong _ | .integerUnwritable | .undefinedInteger _
  | .malformedParts _ => "ValueError"
  | .infiniteInteger _ | .exponentTooLarge => "OverflowError"
  | .indexTooLarge => "IndexError"
  | .malformedDecimal | .decimalOutOfRange => "InvalidOperation"

/-- A number as it is called where it has no integer part. -/
def unboundedName (word float : String) : Value → String
  | .float _ => "float " ++ float
  | _ => word

/-- The message of a mismatch; a long text is quoted in part. -/
def message : Mismatch → String
  | .lacks value operation =>
    "'" ++ value.kind ++ "' object has no attribute '" ++ operation ++ "'"
  | .unordered comparison left right =>
    "'" ++ comparison ++ "' not supported between instances of '" ++ left.kind ++ "' and '" ++
      right.kind ++ "'"
  | .malformedInteger base text =>
    "invalid literal for int() with base " ++ Number.naturalText base.size ++ ": " ++
      String.ofList ((Text.quoted text).toList.take 200)
  | .integerTooLong digits =>
    "Exceeds the limit (" ++ Number.naturalText Number.longestInteger ++
      " digits) for integer string conversion: value has " ++ Number.naturalText digits ++
      " digits; use sys.set_int_max_str_digits() to increase the limit"
  | .integerUnwritable =>
    "Exceeds the limit (" ++ Number.naturalText Number.longestInteger ++
      " digits) for integer string conversion; use sys.set_int_max_str_digits() to increase " ++
      "the limit"
  | .noInteger value =>
    "int() argument must be a string, a bytes-like object or a real number, not '" ++
      value.kind ++ "'"
  | .undefinedInteger value => "cannot convert " ++ unboundedName "NaN" "NaN" value ++ " to integer"
  | .infiniteInteger value =>
    "cannot convert " ++ unboundedName "Infinity" "infinity" value ++ " to integer"
  | .noIndex value => "list indices must be integers or slices, not " ++ value.kind
  | .indexTooLarge => "cannot fit 'int' into an index-sized integer"
  | .malformedDecimal => "[<class 'decimal.ConversionSyntax'>]"
  | .decimalOutOfRange => "[<class 'decimal.InvalidOperation'>]"
  | .noDecimal value => "conversion from " ++ value.kind ++ " to Decimal is not supported"
  | .malformedParts part => part.complaint
  | .exponentTooLarge => "Python int too large to convert to C ssize_t"
  | .noTime => "fromisoformat: argument must be str"

end Mismatch

/-- The text of a value handed in by a caller, where it has one. -/
def Value.written (value : Value) : Except Mismatch String :=
  if value.isWritable then .ok value.shown else .error .integerUnwritable

namespace Number

/-- The integer that a text writes, or the mismatch where it writes none. -/
def readInteger (base : Base) (text : String) : Except Mismatch Int :=
  match integerOfText base text with
  | .ok number => .ok number
  | .error .malformed => .error (.malformedInteger base text)
  | .error (.tooLong digits) => .error (.integerTooLong digits)

end Number

end Bookkeeping
