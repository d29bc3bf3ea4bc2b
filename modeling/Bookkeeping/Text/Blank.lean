import Bookkeeping.Text.Ranges

/-!
# Blank characters

Two classes of blanks are in use.  The narrow one is the property *white space*
of the character standard.  The wide one adds the four information separators
U+001C to U+001F; amounts, numbers and addresses are stripped of the wide class,
while the numbers in a query are stripped of the narrow one.
-/

namespace Bookkeeping.Text

/-- The code points with the property *white space*. -/
def whiteSpaceRanges : List (Nat × Nat) :=
  [(9, 13), (32, 32), (133, 133), (160, 160), (5760, 5760), (8192, 8202), (8232, 8233),
    (8239, 8239), (8287, 8287), (12288, 12288)]

/-- White space in the narrow sense. -/
def isWhiteSpace (character : Char) : Bool :=
  inRanges whiteSpaceRanges character.toNat

/-- White space or an information separator. -/
def isBlank (character : Char) : Bool :=
  isWhiteSpace character || inRanges [(28, 31)] character.toNat

/-- Drops the leading and the trailing characters of a class. -/
def trimBy (drops : Char → Bool) (characters : List Char) : List Char :=
  ((characters.dropWhile drops).reverse.dropWhile drops).reverse

/-- The text without its leading and trailing blanks. -/
def strip (text : String) : String :=
  String.ofList (trimBy isBlank text.toList)

/-- Every blank of the core library is a blank here. -/
theorem isBlank_of_isWhitespace
    (character : Char)
    (blank : character.isWhitespace = true) :
    isBlank character = true := by
  simp only [Char.isWhitespace, Bool.or_eq_true, decide_eq_true_eq] at blank
  rcases blank with ((rfl | rfl) | rfl) | rfl <;> rfl

end Bookkeeping.Text
