import Bookkeeping.Failure
import Bookkeeping.Value.Conversion

/-!
# Arguments

Operators hand in identifiers and decimal numbers as values.  A text has to write
what is wanted, and an identifier may be left out; any other value is refused
with the reason why it cannot be used.
-/

namespace Bookkeeping.Argument

/-- The identifier that a text writes. -/
def identifierOfText (text : String) : Except Failure Identifier :=
  match Identifier.ofText text with
  | .ok identifier => .ok identifier
  | .error .badLength => .error .malformedIdentifier
  | .error (.badDigits characters) =>
    .error (.mismatched (.malformedInteger .sixteen characters))

/-- The identifier that a value gives; null leaves it out. -/
def identifier : Value → Except Failure Identifier
  | .null => .ok .missing
  | .text text => identifierOfText text
  | value => .error (.mismatched (.lacks value "replace"))

/-- The decimal number that a value gives. -/
def decimal (value : Value) : Except Failure Decimal :=
  value.toDecimal.mapError .mismatched

/-- The time that a value writes, and the distance of its zone if it has one. -/
def time : Value → Except Failure (Timestamp × Option Int)
  | .text written => (Timestamp.ofText written).mapError .untimely
  | _ => .error (.mismatched .noTime)

end Bookkeeping.Argument
