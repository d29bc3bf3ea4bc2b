import Bookkeeping.Value

/-!
# Money

The ledger keeps money as a whole number of ten-thousandths of the currency's
unit, so that sums are exact.  Money is also a decimal number with four places.
-/

namespace Bookkeeping

/-- An amount of money or a balance, counted in ten-thousandths. -/
abbrev Money := Int

namespace Money

/-- The text of an amount: always four fractional digits. -/
def text (amount : Money) : String :=
  let digits := Number.naturalCharacters (amount.natAbs / 10000) ++ '.' ::
    (Number.lastDigits 4 amount.natAbs).map Number.digitCharacter
  Decimal.signText (amount < 0) ++ String.ofList digits

/-- What amounts come to together. -/
def total (amounts : List Money) : Money :=
  amounts.foldr (· + ·) 0

/-- The least amount that does not fit the ledger any more. -/
def limit : Money := Nat.pow 10 19

/-- The money of a number of ten-thousandths with a sign. -/
def ofUnits (negative : Bool) (units : Nat) : Money :=
  if negative then -(units : Int) else units

/-- Money as a decimal number with four places. -/
def decimal (amount : Money) : Decimal :=
  .finite (amount < 0) amount.natAbs (-4)

end Money

end Bookkeeping
