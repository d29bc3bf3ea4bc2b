import Bookkeeping.Value.Conversion

/-!
# Comparing values

Numbers of all kinds are ordered by what they are worth, and texts by the code
points of their characters.  Values of other kinds, and values of two kinds, have
no order, and who compares them is told so.
-/

namespace Bookkeeping.Value

/-- What a number is worth: a fraction, an infinity, or nothing that has an order. -/
inductive Worth where
  | fraction (numerator : Int) (denominator : Nat)
  | infinite (negative : Bool)
  | unordered

/-- A fraction with its sign. -/
def signedFraction (negative : Bool) (fraction : Nat × Nat) : Worth :=
  .fraction (if negative then -(fraction.1 : Int) else fraction.1) fraction.2

/-- What a value is worth, if it is a number; a decimal mark for no number refuses an order. -/
def worth? : Value → Except Mismatch (Option Worth)
  | .bool held => .ok (some (.fraction (if held then 1 else 0) 1))
  | .int number => .ok (some (.fraction number 1))
  | .float (.finite negative significand exponent) =>
    .ok (some (signedFraction negative (Binary64.descaled significand 1 (-exponent))))
  | .float (.infinite negative) => .ok (some (.infinite negative))
  | .float .notANumber => .ok (some .unordered)
  | .decimal (.finite negative coefficient exponent) =>
    .ok (some (signedFraction negative (decimalFraction coefficient exponent)))
  | .decimal (.infinite negative) => .ok (some (.infinite negative))
  | .decimal (.notANumber _ _ _) => .error .decimalOutOfRange
  | _ => .ok none

/-- Whether one worth is below another one. -/
def Worth.isBelow : Worth → Worth → Bool
  | .fraction left bottom, .fraction right other => left * other < right * bottom
  | .fraction _ _, .infinite negative => !negative
  | .infinite negative, .fraction _ _ => negative
  | .infinite left, .infinite right => left && !right
  | .unordered, _ => false
  | _, .unordered => false

/-- Whether one worth is not above another one. -/
def Worth.isAtMost : Worth → Worth → Bool
  | .unordered, _ => false
  | _, .unordered => false
  | left, right => !right.isBelow left

/-- How two values are compared. -/
inductive Comparison where
  | below
  | above
  | atMost
deriving DecidableEq, Repr

def Comparison.sign : Comparison → String
  | .below => "<"
  | .above => ">"
  | .atMost => "<="

/-- Whether a comparison holds between two worths. -/
def Comparison.holds : Comparison → Worth → Worth → Bool
  | .below, left, right => left.isBelow right
  | .above, left, right => right.isBelow left
  | .atMost, left, right => left.isAtMost right

/-- Whether a comparison holds between two texts. -/
def Comparison.holdsOfTexts : Comparison → String → String → Bool
  | .below, left, right => left < right
  | .above, left, right => right < left
  | .atMost, left, right => !decide (right < left)

/-- Whether a comparison holds between two values. -/
def compared (comparison : Comparison) (left right : Value) : Except Mismatch Bool :=
  match left, right with
  | .text left, .text right => .ok (comparison.holdsOfTexts left right)
  | _, _ => do
    match ← left.worth?, ← right.worth? with
    | some leftWorth, some rightWorth => .ok (comparison.holds leftWorth rightWorth)
    | _, _ => .error (.unordered comparison.sign left right)

/-- The smaller of two values; the first one unless the second is below it. -/
def smaller (first second : Value) : Except Mismatch Value := do
  return if ← second.compared .below first then second else first

/-- The larger of two values; the first one unless the second is above it. -/
def larger (first second : Value) : Except Mismatch Value := do
  return if ← second.compared .above first then second else first

@[simp]
theorem compared_int (comparison : Comparison) (left right : Int) :
    compared comparison (.int left) (.int right) =
      .ok (comparison.holds (.fraction left 1) (.fraction right 1)) :=
  rfl

/-- Of two integers the smaller is the minimum. -/
theorem smaller_int (first second : Int) :
    smaller (.int first) (.int second) = .ok (.int (min first second)) := by
  simp only [smaller, compared_int, Comparison.holds, Worth.isBelow, bind, Except.bind, pure,
    Except.pure]
  by_cases below : second < first
  · simp [below, Int.min_eq_right (Int.le_of_lt below)]
  · simp [below, Int.min_eq_left (Int.not_lt.1 below)]

/-- Of two integers the larger is the maximum. -/
theorem larger_int (first second : Int) :
    larger (.int first) (.int second) = .ok (.int (max first second)) := by
  simp only [larger, compared_int, Comparison.holds, Worth.isBelow, bind, Except.bind, pure,
    Except.pure]
  by_cases above : first < second
  · simp [above, Int.max_eq_right (Int.le_of_lt above)]
  · simp [above, Int.max_eq_left (Int.not_lt.1 above)]

end Bookkeeping.Value
