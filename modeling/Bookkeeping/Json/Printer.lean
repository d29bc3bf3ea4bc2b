import Bookkeeping.Text.CodePoint
import Bookkeeping.Text.Hexadecimal
import Bookkeeping.Value

/-!
# Writing JSON

A value is written on one line and in ASCII alone: every other character is
escaped by its units of sixteen bits, and a half that stands alone by its unit.
-/

namespace Bookkeeping.Json

/-- The escape of a unit of sixteen bits. -/
def unitEscape (unit : Nat) : List Char :=
  ['\\', 'u'] ++ Text.hexText 4 unit

/-- One code point of a text. -/
def escaped (code : Nat) : List Char :=
  let character := Char.ofNat code
  if character = '"' ∨ character = '\\' then ['\\', character]
  else if 32 ≤ code ∧ code < 127 then [character]
  else if code < 0x10000 then unitEscape code
  else
    unitEscape (0xD800 + (code - 0x10000) / 1024) ++
      unitEscape (0xDC00 + (code - 0x10000) % 1024)

/-- A text between quotation marks. -/
def quotedText (text : String) : String :=
  String.ofList ('"' :: ((Text.points text.toList).flatMap escaped ++ ['"']))

mutual

def text : Value → String
  | .null => "null"
  | .bool value => if value then "true" else "false"
  | .int value => Number.integerText value
  | .float .notANumber => "NaN"
  | .float (.infinite negative) => if negative then "-Infinity" else "Infinity"
  | .float value => value.text
  | .decimal value => quotedText value.text
  | .text value => quotedText value
  | .list members => "[" ++ membersText members ++ "]"
  | .record fields => "\x7b" ++ fieldsText fields ++ "\x7d"

/-- The members of a list, divided by commas. -/
def membersText : List Value → String
  | [] => ""
  | [member] => text member
  | member :: rest => text member ++ "," ++ membersText rest

/-- The fields of a record, divided by commas. -/
def fieldsText : List (String × Value) → String
  | [] => ""
  | [(name, value)] => quotedText name ++ ":" ++ text value
  | (name, value) :: rest => quotedText name ++ ":" ++ text value ++ "," ++ fieldsText rest

end

/-! ## Strict JSON -/

mutual

/--
Whether a value can be sent as strict JSON: no number in it is an infinity or no
number at all, and no text in it holds a half of a character.
-/
def isStrict : Value → Bool
  | .float (.finite _ _ _) => true
  | .float _ => false
  | .text value => !Text.hasHalf value
  | .list members => areStrict members
  | .record fields => areStrictFields fields
  | _ => true

/-- Whether all members of a list can be sent. -/
def areStrict : List Value → Bool
  | [] => true
  | member :: rest => isStrict member && areStrict rest

/-- Whether all fields of a record can be sent. -/
def areStrictFields : List (String × Value) → Bool
  | [] => true
  | (name, value) :: rest => !Text.hasHalf name && isStrict value && areStrictFields rest

end

end Bookkeeping.Json
