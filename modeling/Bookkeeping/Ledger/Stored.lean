import Bookkeeping.Failure
import Bookkeeping.Number.Significant

/-!
# What a column of texts keeps

A column of texts takes texts, numbers and truth values, and keeps the text of
each; null leaves the column empty.  A statement that hands it anything else is
refused, and so is a text with a half of a character, which has no bytes.
-/

namespace Bookkeeping

/-- Whether the database can hold an integer. -/
def isStorable (number : Int) : Bool :=
  -Number.wordLimit ≤ number && number < Number.wordLimit

/-- A text as the database keeps it. -/
def storedString (text : String) : Except Failure String :=
  match Text.firstHalves? text with
  | none => .ok text
  | some run => .error (.unwritable run)

/-- The text that is kept of a value; the statement has the value at a place. -/
def storedText (place : Nat) (value : Value) : Except Failure (Option String) :=
  match value with
  | .null => .ok none
  | .bool held => .ok (some (if held then "1" else "0"))
  | .int number =>
    if isStorable number then .ok (some (Number.integerText number))
    else .error .integerTooLarge
  | .float number => .ok number.keptText?
  | .text text => (storedString text).map some
  | .decimal _ | .list _ | .record _ => .error (.unstorable place value)

end Bookkeeping
