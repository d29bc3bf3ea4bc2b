import Bookkeeping.Email.Domain
import Bookkeeping.Text.Blank
import Bookkeeping.Text.CodePoint
import Bookkeeping.Text.Numeral

/-!
# Addresses of electronic mail

An address is a local part, an `@`, and a domain.  It may come between angle
brackets, with a name in front of them, and with blanks around it; what is kept
is the bare address, with its local part composed and its domain in the one
spelling in which it is shown.

The local part consists of words divided by single points.  Its letters may be of
any script, and their case is kept, except in the names of a few mailboxes that
every domain has.
-/

namespace Bookkeeping.Email

/-! ## Names and brackets -/

/-- The most characters that are looked at. -/
def longestInput : Nat := 2048

/-- The marks that a word of a local part may hold beside letters and digits. -/
def wordMarks : List Char :=
  "!#$%&'*+-/=?^_\x60\x7b|\x7d~".toList

/-- Whether a character may stand in a name that is not quoted. -/
def isNameCharacter (character : Char) : Bool :=
  Text.isWordCharacter character || wordMarks.contains character || character == '.'

/-- What stands between angle brackets that enclose all of the text but blanks. -/
def bracketed? (characters : List Char) : Option (List Char) :=
  match Text.trimBy Text.isBlank characters with
  | '<' :: rest =>
    match rest.reverse with
    | '>' :: reversed => if reversed.isEmpty then none else some reversed.reverse
    | _ => none
  | _ => none

/-- What stands between angle brackets behind a name, which may be missing or quoted. -/
def unnamed? (characters : List Char) : Option (List Char) :=
  match characters.dropWhile Text.isBlank with
  | '"' :: rest =>
    let behind := (rest.reverse.takeWhile (· != '"')).reverse
    if behind.length + 1 < rest.length then bracketed? behind else none
  | rest =>
    bracketed? (rest.dropWhile fun character =>
      isNameCharacter character || Text.isBlank character)

/-- The characters of the address in a text. -/
def addressCharacters (characters : List Char) : List Char :=
  Text.trimBy Text.isBlank ((unnamed? characters).getD characters)

/-! ## Local parts -/

/-- Whether a character may stand in a word of a local part. -/
def isLocalCharacter (character : Char) : Bool :=
  character.isAlphanum || wordMarks.contains character ||
    (128 ≤ character.toNat && Text.isPrintable character)

/-- Whether a local part is well formed: words divided by points, and no mark in front. -/
def isLocalPart (characters : List Char) : Bool :=
  (Text.divided '.' characters).all (fun word => !word.isEmpty && word.all isLocalCharacter) &&
    !characters.head?.any Text.isMark

/-- The mailboxes that are the same whatever the case of their letters. -/
def sharedMailboxes : List String :=
  ["info", "marketing", "sales", "support", "abuse", "noc", "security", "postmaster",
    "hostmaster", "usenet", "news", "webmaster", "www", "uucp", "ftp"]

/-- The local part as it is kept. -/
def keptLocalPart (characters : List Char) : List Char :=
  let lowered := characters.map Char.toLower
  if sharedMailboxes.contains (String.ofList lowered) then lowered else Text.composed characters

/-! ## Addresses -/

/-- The most bytes of an address, in any of its forms. -/
def longestAddress : Nat := 254

def addressText (localPart domain : List Char) : String :=
  String.ofList (localPart ++ '@' :: domain)

/-- The address in a text, as it is kept. -/
def ofText? (text : String) : Option String := do
  let characters := text.toList
  let address := addressCharacters characters
  let localPart := address.takeWhile (· != '@')
  let written := address.drop (localPart.length + 1)
  let kept := keptLocalPart localPart
  if Text.size text ≤ longestInput && !characters.contains '\n' && !characters.contains '\r' &&
      isLocalPart localPart && isLocalPart kept then
    let domain ← Domain.ofText? written
    let forms := [addressText localPart written, addressText kept domain.shown,
      addressText kept domain.ascii]
    if forms.all fun form => form.utf8ByteSize ≤ longestAddress then
      return addressText kept domain.shown
    else none
  else none

end Bookkeeping.Email
