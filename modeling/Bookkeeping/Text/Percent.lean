import Bookkeeping.Text.CodePoint
import Bookkeeping.Text.Hexadecimal

/-!
# Percent signs

In addresses a character can be written by its bytes, each of them as two
hexadecimal digits behind a percent sign.  Bytes that are no part of a character
are read as the replacement character, one for each stretch that might have
become a character.
-/

namespace Bookkeeping.Text

/-! ## Bytes -/

/-- A character of which some bytes were read. -/
structure PartialCharacter where
  /-- What the bytes read so far contribute. -/
  value : Nat
  /-- How many bytes are still to come. -/
  remaining : Nat
  /-- The least byte that may come next. -/
  least : Nat
  /-- The greatest byte that may come next. -/
  greatest : Nat
deriving DecidableEq

/-- What a byte begins: characters that are complete, or one that is not. -/
def begun (byte : UInt8) : List Char × Option PartialCharacter :=
  let code := byte.toNat
  if code < 0x80 then ([Char.ofNat code], none)
  else if code < 0xC2 ∨ 0xF4 < code then ([replacementCharacter], none)
  else if code < 0xE0 then ([], some ⟨code - 0xC0, 1, 0x80, 0xBF⟩)
  else if code < 0xF0 then
    let least := if code = 0xE0 then 0xA0 else 0x80
    let greatest := if code = 0xED then 0x9F else 0xBF
    ([], some ⟨code - 0xE0, 2, least, greatest⟩)
  else
    let least := if code = 0xF0 then 0x90 else 0x80
    let greatest := if code = 0xF4 then 0x8F else 0xBF
    ([], some ⟨code - 0xF0, 3, least, greatest⟩)

/-- The characters that bytes write behind a character that is not complete. -/
def charactersBehind : Option PartialCharacter → List UInt8 → List Char
  | none, [] => []
  | some _, [] => [replacementCharacter]
  | none, byte :: rest =>
    let (characters, unfinished) := begun byte
    characters ++ charactersBehind unfinished rest
  | some unfinished, byte :: rest =>
    if unfinished.least ≤ byte.toNat ∧ byte.toNat ≤ unfinished.greatest then
      let value := unfinished.value * 64 + (byte.toNat - 0x80)
      if unfinished.remaining = 1 then Char.ofNat value :: charactersBehind none rest
      else charactersBehind (some ⟨value, unfinished.remaining - 1, 0x80, 0xBF⟩) rest
    else
      let (characters, next) := begun byte
      replacementCharacter :: (characters ++ charactersBehind next rest)

/-- The characters that bytes write. -/
def charactersOf (bytes : List UInt8) : List Char :=
  charactersBehind none bytes

/-! ## Resolving and setting percent signs -/

/-- The code point of a percent sign. -/
def percentSign : Nat := 37

/-- The bytes that code points stand for once their percent signs are resolved. -/
def resolvedBytes : List Nat → List UInt8
  | first :: high :: low :: rest =>
    match if first = percentSign then hexNumber? [Char.ofNat high, Char.ofNat low] else none with
    | some code => UInt8.ofNat code :: resolvedBytes rest
    | none => pointBytes first ++ resolvedBytes (high :: low :: rest)
  | codes => codes.flatMap pointBytes

/-- The text with its percent signs resolved. -/
def resolved (characters : List Char) : String :=
  String.ofList (kept (charactersOf (resolvedBytes (points characters))))

/-- Whether a character is never written by its bytes. -/
def isUnreserved (character : Char) : Bool :=
  character.isAlphanum || ['_', '.', '-', '~'].contains character

/-- The text with percent signs for all but unreserved characters and some others. -/
def percentQuoted (others : List Char) (text : String) : String :=
  String.ofList <| (points text.toList).flatMap fun code =>
    if isUnreserved (Char.ofNat code) || others.contains (Char.ofNat code) then [Char.ofNat code]
    else (pointBytes code).flatMap fun byte => '%' :: (hexText 2 byte.toNat).map Char.toUpper

/-- Characters of a query, where a plus sign stands for a blank. -/
def blankForPlus (characters : List Char) : List Char :=
  characters.map fun character => if character = '+' then ' ' else character

end Bookkeeping.Text
