/-!
# Hexadecimal digits

Numbers written in base sixteen with lower-case letters and a fixed width, as
identifiers and escapes write them, and the value of a digit in either case.
-/

namespace Bookkeeping.Text

/-- The character of a number below sixteen. -/
def hexDigit (number : Nat) : Char :=
  if number < 10 then Char.ofNat (48 + number) else Char.ofNat (87 + number)

/-- The last `width` hexadecimal digits of a number. -/
def hexText : Nat → Nat → List Char
  | 0, _ => []
  | width + 1, number => hexText width (number / 16) ++ [hexDigit (number % 16)]

/-- The value of a hexadecimal digit of either case. -/
def hexValue? (character : Char) : Option Nat :=
  let code := character.toNat
  if 48 ≤ code ∧ code ≤ 57 then some (code - 48)
  else if 65 ≤ code ∧ code ≤ 70 then some (code - 55)
  else if 97 ≤ code ∧ code ≤ 102 then some (code - 87)
  else none

/-- The number that hexadecimal digits write, most significant first. -/
def hexNumber? (characters : List Char) : Option Nat :=
  characters.foldlM (fun number character => (hexValue? character).map (16 * number + ·)) 0

theorem length_hexText (width number : Nat) : (hexText width number).length = width := by
  induction width generalizing number with
  | zero => rfl
  | succ width hypothesis => simp [hexText, hypothesis]

end Bookkeeping.Text
