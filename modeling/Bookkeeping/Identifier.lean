import Bookkeeping.Number.Integer
import Bookkeeping.Text.CodePoint
import Bookkeeping.Text.Hexadecimal

/-!
# Identifiers

Users, accounts, entries and groups of entries are named by identifiers of 128
bits, written as thirty-two hexadecimal digits in five groups.  The bank draws
them from one counter for each kind, so a run of the bank hands out the same
identifiers every time.

Two readers exist: a lenient one for operators and a strict one for clients.
Operators may also leave an identifier out; what takes its place is no row's
identifier, so whatever is looked up by it is not found.
-/

namespace Bookkeeping

/-- An identifier of 128 bits. -/
structure Identifier where
  number : Nat
deriving DecidableEq

namespace Identifier

/-- The thirty-two digits of an identifier. -/
def digits (identifier : Identifier) : List Char :=
  Text.hexText 32 identifier.number

/-- Digits in groups of eight, four, four, four and twelve, divided by hyphens. -/
def grouped (digits : List Char) : List Char :=
  digits.take 8 ++ '-' :: (digits.drop 8).take 4 ++ '-' :: (digits.drop 12).take 4 ++
    '-' :: (digits.drop 16).take 4 ++ '-' :: digits.drop 20

/-- What takes the place of an identifier that was left out; it has more than 128 bits. -/
def missing : Identifier :=
  ⟨Nat.pow 2 128⟩

/-- The identifier, unless it was left out. -/
def given? (identifier : Identifier) : Option Identifier :=
  if identifier = missing then none else some identifier

/-- The text of an identifier: lower-case digits in hyphenated groups, or the word for none. -/
def text (identifier : Identifier) : String :=
  if identifier = missing then "None" else String.ofList (grouped identifier.digits)

/-- The identifier that thirty-two digits of either case write. -/
def ofDigits? (characters : List Char) : Option Identifier :=
  if characters.length = 32 then (Text.hexNumber? characters).map Identifier.mk else none

/--
The strict reading: hyphenated groups, bare or in braces or after the prefix of
a resource name, or thirty-two digits without hyphens.
-/
def ofStrictText? (text : String) : Option Identifier :=
  let characters := text.toList
  let bare :=
    if characters.length = 38 ∧ text.startsWith "\x7b" ∧ text.endsWith "\x7d" then
      (characters.drop 1).take 36
    else if characters.length = 45 ∧ text.startsWith "urn:uuid:" then characters.drop 9
    else characters
  if characters.length = 32 then ofDigits? characters
  else
    let unhyphenated := bare.filter (· != '-')
    if bare.length = 36 ∧ grouped unhyphenated = bare then ofDigits? unhyphenated else none

/-- The characters without every occurrence of a word, from left to right. -/
def without (word : List Char) : Nat → List Char → List Char
  | 0, characters => characters
  | _ + 1, [] => []
  | fuel + 1, character :: rest =>
    if word.isPrefixOf (character :: rest) then
      without word fuel ((character :: rest).drop word.length)
    else character :: without word fuel rest

def isBrace (character : Char) : Bool :=
  character.toNat == 123 || character.toNat == 125

/-- The digits that the lenient reading sees: without prefixes, braces and hyphens. -/
def lenientDigits (text : String) : List Char :=
  let characters := text.toList
  let unprefixed :=
    without "uuid:".toList characters.length (without "urn:".toList characters.length characters)
  let opened := unprefixed.dropWhile isBrace
  let closed := (opened.reverse.dropWhile isBrace).reverse
  closed.filter (· != '-')

/-- Why the lenient reading sees no identifier. -/
inductive Fault where
  /-- There are more or fewer than thirty-two characters. -/
  | badLength
  /-- The characters write no hexadecimal number. -/
  | badDigits (characters : String)
deriving DecidableEq

/--
The lenient reading: prefixes, braces and hyphens are dropped wherever they
stand, and the thirty-two characters that are left have to write a hexadecimal
number.
-/
def ofText (text : String) : Except Fault Identifier :=
  let characters := lenientDigits text
  if (Text.points characters).length = 32 then
    match Number.integerOfText .sixteen (String.ofList characters) with
    | .ok number => .ok ⟨number.toNat⟩
    | .error _ => .error (.badDigits (String.ofList characters))
  else .error .badLength

/-- What an identifier names. -/
inductive Kind where
  | user
  | account
  | entry
  | group
deriving DecidableEq

/-- The leading number that all identifiers of a kind share. -/
def Kind.number : Kind → Nat
  | .user => 1
  | .account => 2
  | .entry => 3
  | .group => 4

/-- The identifier that a kind draws as its `count`-th, counted from one. -/
def drawn (kind : Kind) (count : Nat) : Identifier :=
  ⟨kind.number * Nat.pow 2 96 + 0x40008000 * Nat.pow 2 48 + count⟩

/-- Different counts give different identifiers of one kind. -/
theorem drawn_injective
    (kind : Kind)
    {left right : Nat}
    (same : drawn kind left = drawn kind right) :
    left = right := by
  simp only [drawn, mk.injEq] at same
  omega

end Identifier

end Bookkeeping
