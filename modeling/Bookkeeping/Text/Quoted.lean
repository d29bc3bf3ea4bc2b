import Bookkeeping.Text.CodePoint
import Bookkeeping.Text.Hexadecimal
import Bookkeeping.Text.Printable

/-!
# Quoted text

The quoted form of a text that error details and log records use.  The text
stands between apostrophes, or between quotation marks when it holds an
apostrophe and no quotation mark.  The mark in use and the backslash are
escaped, and so is every character that is not printable.
-/

namespace Bookkeeping.Text

def apostrophe : Char := Char.ofNat 39

/-- The mark that encloses a text: a quotation mark only where that saves an escape. -/
def enclosingMark (characters : List Char) : Char :=
  if characters.contains apostrophe && !characters.contains '"' then '"' else apostrophe

/-- The numeric escape of a code point: two, four or eight hexadecimal digits. -/
def numericEscape (code : Nat) : List Char :=
  if code < 256 then ['\\', 'x'] ++ hexText 2 code
  else if code < 65536 then ['\\', 'u'] ++ hexText 4 code
  else ['\\', 'U'] ++ hexText 8 code

/-- One code point inside a quoted text enclosed by `mark`. -/
def quotedPoint (mark : Char) (code : Nat) : List Char :=
  let character := Char.ofNat code
  if isHalf code then numericEscape code
  else if character = mark ∨ character = '\\' then ['\\', character]
  else if character = '\n' then ['\\', 'n']
  else if character = '\r' then ['\\', 'r']
  else if character = '\t' then ['\\', 't']
  else if isPrintable character then [character]
  else numericEscape code

/-- The text between marks, with escapes. -/
def quoted (text : String) : String :=
  let characters := text.toList
  let mark := enclosingMark characters
  String.ofList (mark :: ((points characters).flatMap (quotedPoint mark) ++ [mark]))

end Bookkeeping.Text
