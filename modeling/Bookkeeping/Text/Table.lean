import Bookkeeping.Text.Divided
import Bookkeeping.Text.Hexadecimal

/-!
# Tables written as text

Long tables of code points are written as lines of hexadecimal numbers: blanks
stand between the numbers of a row, and commas between the rows of a line.
-/

namespace Bookkeeping.Text

def rowNumbers (row : List Char) : List Nat :=
  ((divided ' ' row).filter (!·.isEmpty)).filterMap hexNumber?

def tableRows (lines : List String) : List (List Nat) :=
  lines.flatMap fun line => (divided ',' line.toList).map rowNumbers

/-- The closed ranges that the rows of a table give. -/
def tableRanges (lines : List String) : List (Nat × Nat) :=
  (tableRows lines).filterMap fun
    | [first, last] => some (first, last)
    | _ => none

end Bookkeeping.Text
