/-!
# Decimal digits of a number

Numbers are written and read through their lists of decimal digits, most
significant digit first.  The main statement of this file is that reading the
written digits gives the number back.
-/

namespace Bookkeeping

namespace Number

/-- The most decimal digits with which an integer is read or written. -/
def longestInteger : Nat := 4300

/-- The first integer that does not fit a signed word of 64 bits. -/
def wordLimit : Int := 0x8000000000000000

/-- The number that a list of decimal digits writes. -/
def ofDigits (digits : List Nat) : Nat :=
  digits.foldl (fun number digit => 10 * number + digit) 0

/-- The last `width` decimal digits of a number. -/
def lastDigits : Nat → Nat → List Nat
  | 0, _ => []
  | width + 1, number => lastDigits width (number / 10) ++ [number % 10]

/-- The decimal digits of a number, provided that it has at most `fuel + 1` of them. -/
def digitsWithin : Nat → Nat → List Nat
  | 0, number => [number % 10]
  | fuel + 1, number =>
    if number < 10 then [number] else digitsWithin fuel (number / 10) ++ [number % 10]

/-- The decimal digits of a number without leading zeros; zero has one digit. -/
def digits (number : Nat) : List Nat :=
  digitsWithin number number

/-- The character of a decimal digit. -/
def digitCharacter (digit : Nat) : Char :=
  Char.ofNat (48 + digit)

/-- The characters that write a number. -/
def naturalCharacters (number : Nat) : List Char :=
  (digits number).map digitCharacter

/-- The text of a natural number. -/
def naturalText (number : Nat) : String :=
  String.ofList (naturalCharacters number)

/-- The text of an integer: a minus sign only before negative numbers. -/
def integerText (number : Int) : String :=
  if number < 0 then "-" ++ naturalText number.natAbs else naturalText number.natAbs

@[simp]
theorem ofDigits_append_singleton (front : List Nat) (last : Nat) :
    ofDigits (front ++ [last]) = 10 * ofDigits front + last := by
  simp [ofDigits]

theorem ofDigits_digitsWithin
    (fuel number : Nat)
    (enough : number ≤ fuel) :
    ofDigits (digitsWithin fuel number) = number := by
  induction fuel generalizing number with
  | zero =>
    have isZero : number = 0 := by omega
    simp [digitsWithin, ofDigits, isZero]
  | succ fuel hypothesis =>
    rw [digitsWithin]
    split
    · simp [ofDigits]
    · rw [ofDigits_append_singleton, hypothesis (number / 10) (by omega)]
      omega

/-- Reading the digits of a number gives the number back. -/
@[simp]
theorem ofDigits_digits (number : Nat) : ofDigits (digits number) = number :=
  ofDigits_digitsWithin number number (Nat.le_refl number)

@[simp]
theorem length_lastDigits (width number : Nat) : (lastDigits width number).length = width := by
  induction width generalizing number with
  | zero => rfl
  | succ width hypothesis => simp [lastDigits, hypothesis]

end Number

end Bookkeeping
