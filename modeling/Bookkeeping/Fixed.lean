import Bookkeeping.Money
import Bookkeeping.Value.Conversion

/-!
# Values with four fractional places

Any value can be asked for its four fractional places.  A decimal number is
rounded as it is; of any other value it is the text that has to write a decimal
number.
-/

namespace Bookkeeping

namespace Value

/-- The decimal number that a value is, or that its text writes. -/
def number : Value → Except Mismatch Decimal
  | .decimal held => .ok held
  | value => do readDecimal (← value.written)

/-- The number of a value, rounded to four fractional places. -/
def fixed (value : Value) : Except Mismatch Decimal := do
  match (← value.number).fixed? with
  | some rounded => .ok rounded
  | none => .error .decimalOutOfRange

/-- The text of a value with four fractional places. -/
def fixedText (value : Value) : Except Mismatch String :=
  value.fixed.map Decimal.text

end Value

/--
Money brought to four fractional places once more, as balances and sums are compared;
it is refused where it has more digits than a rounded number may have.
-/
def Money.fixed (amount : Money) : Except Mismatch Money :=
  match amount.decimal.fixed? with
  | some (.finite negative units _) => .ok (ofUnits negative units)
  | _ => .error .decimalOutOfRange

end Bookkeeping
