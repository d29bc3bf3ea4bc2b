import Bookkeeping.Text.CodePoint
import Bookkeeping.Text.Hexadecimal
import Bookkeeping.Value

/-!
# Reading JSON

Request bodies are texts in the JSON notation.  The reader is liberal in two
points: it knows the names of the numbers that are not finite, and it takes a
number with a fraction or an exponent for the nearest binary one.  Of several
fields with one name the last counts.

The reader spends one unit of fuel on each value and each member, and the text
has at least one character for each of them, so a text never runs out of fuel.
-/

namespace Bookkeeping.Json

/-- Why a text is no JSON. -/
inductive Unreadable where
  /-- The text does not follow the grammar. -/
  | malformed
  /-- The text follows the grammar, but holds an integer with too many digits. -/
  | numberTooLong
  /-- Lists and records are nested deeper than they are read. -/
  | tooDeep
deriving DecidableEq

/-- Whether a character may stand between the parts of a text. -/
def isSpace (character : Char) : Bool :=
  character == ' ' || character == '\t' || character == '\n' || character == '\r'

/-- The text behind its leading space. -/
def skipSpace (characters : List Char) : List Char :=
  characters.dropWhile isSpace

/-! ## Texts -/

/-- The character that a backslash and a letter stand for. -/
def simpleEscape? : Char → Option Nat
  | '"' => some 34
  | '\\' => some 92
  | '/' => some 47
  | 'b' => some 8
  | 'f' => some 12
  | 'n' => some 10
  | 'r' => some 13
  | 't' => some 9
  | _ => none

/--
The code units up to the closing quotation mark.  An escape gives a unit of
sixteen bits; any other character gives its number, which is that of no half.
-/
def readUnits? : List Char → Option (List Nat × List Char)
  | [] => none
  | '"' :: rest => some ([], rest)
  | '\\' :: 'u' :: first :: second :: third :: fourth :: rest =>
    match Text.hexNumber? [first, second, third, fourth], readUnits? rest with
    | some unit, some (units, rest) => some (unit :: units, rest)
    | _, _ => none
  | '\\' :: escape :: rest =>
    match simpleEscape? escape, readUnits? rest with
    | some unit, some (units, rest) => some (unit :: units, rest)
    | _, _ => none
  | character :: rest =>
    if character.toNat < 32 then none
    else (readUnits? rest).map fun (units, rest) => (character.toNat :: units, rest)

/-- Reads a text behind its opening quotation mark. -/
def readText (characters : List Char) : Except Unreadable (String × List Char) :=
  match readUnits? characters with
  | some (units, rest) => .ok (String.ofList (Text.ofUnits units), rest)
  | none => .error .malformed

/-! ## Numbers -/

/-- The digits of a whole number: a zero stands alone. -/
def wholeDigits : List Char → List Char
  | '0' :: _ => ['0']
  | characters => characters.takeWhile Char.isDigit

/-- The digits behind a point, if there are any. -/
def fractionDigits : List Char → List Char
  | '.' :: rest => rest.takeWhile Char.isDigit
  | _ => []

/-- The power of ten behind a number, and what follows it. -/
def readPower? : List Char → Option (Int × List Char)
  | mark :: rest =>
    let (negative, unsigned) :=
      match rest with
      | '-' :: rest => (true, rest)
      | '+' :: rest => (false, rest)
      | rest => (false, rest)
    let digits := unsigned.takeWhile Char.isDigit
    let size : Int := Decimal.digitsNumber digits
    if (mark == 'e' || mark == 'E') && !digits.isEmpty then
      some (if negative then -size else size, unsigned.drop digits.length)
    else none
  | [] => none

/-- Reads a number without its sign. -/
def readUnsigned
    (negative : Bool)
    (characters : List Char) :
    Except Unreadable (Value × List Char) :=
  let whole := wholeDigits characters
  let rest := characters.drop whole.length
  let fraction := fractionDigits rest
  let rest := if fraction.isEmpty then rest else rest.drop (fraction.length + 1)
  if whole.isEmpty then .error .malformed
  else
    let inexact (power : Int) : Value :=
      .float (Binary64.ofDecimal negative (Decimal.digitsNumber (whole ++ fraction))
        (power - fraction.length))
    match readPower? rest with
    | some (power, rest) => .ok (inexact power, rest)
    | none =>
      let size : Int := Decimal.digitsNumber whole
      if !fraction.isEmpty then .ok (inexact 0, rest)
      else if Number.longestInteger < whole.length then .error .numberTooLong
      else .ok (.int (if negative then -size else size), rest)

/-! ## Values -/

/-- The values that are written as a word. -/
def namedValues : List (List Char × Value) :=
  [("null".toList, .null), ("true".toList, .bool true), ("false".toList, .bool false),
    ("NaN".toList, .float .notANumber), ("Infinity".toList, .float (.infinite false)),
    ("-Infinity".toList, .float (.infinite true))]

def readAtom (characters : List Char) : Except Unreadable (Value × List Char) :=
  match namedValues.find? fun (word, _) => word.isPrefixOf characters with
  | some (word, value) => .ok (value, characters.drop word.length)
  | none =>
    match characters with
    | '-' :: rest => readUnsigned true rest
    | rest => readUnsigned false rest

/-- Sets a field: a field of that name keeps its place and takes the new value. -/
def setField (name : String) (value : Value) :
    List (String × Value) → List (String × Value)
  | [] => [(name, value)]
  | (other, old) :: rest =>
    if other = name then (name, value) :: rest else (other, old) :: setField name value rest

mutual

/-- Reads a value inside of which lists and records may be nested `depth` times. -/
def readValue : Nat → Nat → List Char → Except Unreadable (Value × List Char)
  | 0, _, _ => .error .malformed
  | fuel + 1, depth, characters =>
    match characters, depth with
    | '"' :: rest, _ => (readText rest).map fun (text, rest) => (.text text, rest)
    | '[' :: _, 0 | '\x7b' :: _, 0 => .error .tooDeep
    | '[' :: rest, depth + 1 =>
      match skipSpace rest with
      | ']' :: rest => .ok (.list [], rest)
      | rest => (readMembers fuel depth rest).map fun (members, rest) => (.list members, rest)
    | '\x7b' :: rest, depth + 1 =>
      match skipSpace rest with
      | '\x7d' :: rest => .ok (.record [], rest)
      | rest => (readFields fuel depth [] rest).map fun (fields, rest) => (.record fields, rest)
    | characters, _ => readAtom characters

/-- Reads the members of a list up to its end. -/
def readMembers : Nat → Nat → List Char → Except Unreadable (List Value × List Char)
  | 0, _, _ => .error .malformed
  | fuel + 1, depth, characters => do
    let (member, rest) ← readValue fuel depth characters
    match skipSpace rest with
    | ']' :: rest => .ok ([member], rest)
    | ',' :: rest =>
      let (members, rest) ← readMembers fuel depth (skipSpace rest)
      .ok (member :: members, rest)
    | _ => .error .malformed

/-- Reads the fields of a record up to its end, behind those already read. -/
def readFields :
    Nat → Nat → List (String × Value) → List Char →
      Except Unreadable (List (String × Value) × List Char)
  | 0, _, _, _ => .error .malformed
  | fuel + 1, depth, fields, characters =>
    match characters with
    | '"' :: rest => do
      let (name, rest) ← readText rest
      match skipSpace rest with
      | ':' :: rest =>
        let (value, rest) ← readValue fuel depth (skipSpace rest)
        let fields := setField name value fields
        match skipSpace rest with
        | '\x7d' :: rest => .ok (fields, rest)
        | ',' :: rest => readFields fuel depth fields (skipSpace rest)
        | _ => .error .malformed
      | _ => .error .malformed
    | _ => .error .malformed

end

/-- The value that a whole text writes, with lists and records nested at most `depth` times. -/
def ofNestedText (depth : Nat) (text : String) : Except Unreadable Value := do
  let characters := text.toList
  let (value, rest) ← readValue (characters.length + 1) depth (skipSpace characters)
  if (skipSpace rest).isEmpty then .ok value else .error .malformed

/-- The value that a whole text writes, however deep it is nested. -/
def ofText (text : String) : Except Unreadable Value :=
  ofNestedText text.length text

end Bookkeeping.Json
