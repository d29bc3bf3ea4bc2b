import Bookkeeping.Email.Direction
import Bookkeeping.Email.Permitted
import Bookkeeping.Email.Punycode
import Bookkeeping.Text.Printable

/-!
# Domains

A domain consists of at least two labels with points between them.  It has two
forms: one with the characters of all scripts, in which it is shown, and one with
ASCII characters alone, whose length is bounded.  A domain ends with a letter
and may not belong to a domain that is reserved for special use.
-/

namespace Bookkeeping.Email

/-- Whether a character is none of the ASCII characters that no domain has. -/
def isDomainCharacter (character : Char) : Bool :=
  character.isAlphanum || character == '-' || character == '.' || 128 ≤ character.toNat

/-- Whether characters can all be seen, and the first one does not reach in front of them. -/
def isVisible (characters : List Char) : Bool :=
  characters.all Text.isPrintable && !characters.head?.any Text.isMark

/-! ## Labels -/

/-- The most characters of a label in its ASCII form. -/
def longestLabel : Nat := 63

/-- What marks a label as written in Punycode. -/
def punycodeMark : List Char := "xn--".toList

/-- Whether the third and the fourth character of a label are hyphens. -/
def hasInnerHyphens (label : List Char) : Bool :=
  (label.drop 2).take 2 == ['-', '-']

/-- Whether a label is neither empty nor has a hyphen at an end or inner hyphens without need. -/
def isPlainLabel (label : List Char) : Bool :=
  !label.isEmpty && label.head? != some '-' && label.getLast? != some '-' &&
    (!hasInnerHyphens label || label.take 2 == ['x', 'n'])

/-- Whether a label is well formed in the form in which it is shown. -/
def isShownLabel (label : List Char) : Bool :=
  !label.isEmpty && Text.composed label == label && !hasInnerHyphens label &&
    label.head? != some '-' && label.getLast? != some '-' && !label.head?.any Text.isMark &&
    isPermittedLabel label && keepsDirection label

/-- The ASCII form of a label. -/
def asciiLabel? (label : List Char) : Option (List Char) :=
  if label.all Punycode.isBasic then
    if label.length ≤ longestLabel then some label else none
  else
    let written := punycodeMark ++ Punycode.encode label
    if isShownLabel label && written.length ≤ longestLabel then some written else none

/-- The form in which a label is shown, from its ASCII form. -/
def shownLabel? (label : List Char) : Option (List Char) := do
  let shown ←
    if punycodeMark.isPrefixOf label then Punycode.decode? (label.drop punycodeMark.length)
    else some label
  if isShownLabel shown then return shown else none

/-! ## Whole domains -/

/-- The most characters of a domain in its ASCII form. -/
def longestDomain : Nat := 253

/-- A domain in its two forms. -/
structure Domain where
  shown : List Char
  ascii : List Char

/-- Labels with points between them. -/
def joined (labels : List (List Char)) : List Char :=
  List.intercalate ['.'] labels

/-- The domains that are reserved for special use. -/
def reservedDomains : List String :=
  ["arpa", "invalid", "local", "localhost", "onion", "test"]

/-- Whether labels make a domain that is open to everybody. -/
def isOpen (labels : List (List Char)) : Bool :=
  2 ≤ labels.length &&
    labels.getLast?.any fun last =>
      (last.getLast?.any Char.isAlpha) && !reservedDomains.contains (String.ofList last)

/-- The ASCII forms of labels that are not too long together. -/
def asciiLabels? (labels : List (List Char)) : Option (List (List Char)) := do
  let forms ← labels.mapM asciiLabel?
  if (joined forms).length ≤ longestDomain then return forms else none

/-- The domain that a text gives, whatever its spelling. -/
def Domain.ofText? (written : List Char) : Option Domain := do
  let spelling := folded written
  let labels := Text.divided '.' spelling
  if written.all isDomainCharacter && isVisible written && spelling.all isDomainCharacter &&
      labels.all isPlainLabel then
    let ascii ← asciiLabels? labels
    let shown ← ascii.mapM shownLabel?
    let _ ← asciiLabels? shown
    if isOpen ascii then return ⟨joined shown, joined ascii⟩ else none
  else none

end Bookkeeping.Email
