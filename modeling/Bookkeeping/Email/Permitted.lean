import Bookkeeping.Email.Mapping
import Bookkeeping.Text.Alphabetic
import Bookkeeping.Text.Digit
import Bookkeeping.Text.Mark

/-!
# Characters of labels

A label of a domain holds letters, marks and digits of all scripts that are in
their one spelling, with some exceptions in both directions, and hyphens.  A few
more characters are permitted in certain company only.
-/

namespace Bookkeeping.Email

/-- Letters, marks and digits that no label holds, or only in certain company. -/
def excludedRanges : List (Nat × Nat) := Text.tableRanges
  ["37a 37a, 488 489, 640 640, 660 669, 6f0 6f9, 7fa 7fa, 1100 11ff, 1abe 1abe, 20d0 20f0",
   "302e 303b, a670 a672, a960 a97c, d7b0 d7fb, fc5e fdfb, fe70 fe72, fe74 fe7f, 1d165 1d244"]

/-- Characters that labels hold without being letters, marks or digits. -/
def addedRanges : List (Nat × Nat) := Text.tableRanges
  ["6fd 6fe, f0b f0b, 3007 3007"]

/-- Whether a label may hold a character in any company. -/
def isPermitted (character : Char) : Bool :=
  let code := character.toNat
  character == '-' || Text.inRanges addedRanges code ||
    ((Text.isLetter character || Text.isMark character || (Text.digitValue? character).isSome) &&
      !Text.inRanges excludedRanges code && (mapped? code).isNone &&
      Text.composed [character] == [character])

/-! ## Company -/

/-- The Greek characters among those that labels hold. -/
def greekRanges : List (Nat × Nat) := Text.tableRanges
  ["371 3e1, 3f3 3fc, 1d26 1d2a, 1f00 1ff6, ab65 ab65"]

/-- The Hebrew characters among those that labels hold. -/
def hebrewRanges : List (Nat × Nat) := Text.tableRanges
  ["591 5f4, fb1e fb1e"]

/-- The kana and the Han characters among those that labels hold. -/
def kanaAndHanRanges : List (Nat × Nat) := Text.tableRanges
  ["3005 3005, 3007 3007, 3041 3096, 309d 30fa, 30fd 30fe, 31f0 9fff, fa0e fa29, 16fe3 16fe3",
   "16ff0 16ff1, 1aff0 1b167, 20000 3134a"]

/-- Whether a code point is one of the ten digits of Arabic. -/
def isArabicDigit (code : Nat) : Bool :=
  1632 ≤ code && code ≤ 1641

/-- Whether a code point is one of the ten other digits that languages in Arabic script use. -/
def isExtendedArabicDigit (code : Nat) : Bool :=
  1776 ≤ code && code ≤ 1785

/--
Whether a label may hold a code point between two others, which may be missing.
A middle dot stands between two `l`, the Greek numeral sign in front of a Greek
character, Hebrew punctuation behind a Hebrew one, and the middle dot of the kana
beside kana or Han characters; the two kinds of Arabic digits keep apart.
-/
def isPermittedAmong (codes : List Nat) (before after : Option Nat) (code : Nat) : Bool :=
  if code = 183 then before == some 108 && after == some 108
  else if code = 885 then after.any (Text.inRanges greekRanges)
  else if code = 1523 ∨ code = 1524 then before.any (Text.inRanges hebrewRanges)
  else if code = 12539 then codes.any (Text.inRanges kanaAndHanRanges)
  else if isArabicDigit code then !codes.any isExtendedArabicDigit
  else if isExtendedArabicDigit code then !codes.any isArabicDigit
  else false

/-- Whether the rest of a label holds permitted characters only; `before` is in front of it. -/
def permitsFrom (codes : List Nat) (before : Option Nat) : List Char → Bool
  | [] => true
  | character :: rest =>
    let after := rest.head?.map Char.toNat
    (isPermitted character || isPermittedAmong codes before after character.toNat) &&
      permitsFrom codes (some character.toNat) rest

/-- Whether a label holds permitted characters only. -/
def isPermittedLabel (label : List Char) : Bool :=
  permitsFrom (label.map Char.toNat) none label

end Bookkeeping.Email
