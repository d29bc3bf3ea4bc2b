import Bookkeeping.Number.Binary64
import Bookkeeping.Number.Decimal
import Bookkeeping.Text.Quoted

/-!
# Values handed in by callers

An amount, a setting or an error detail may be any value that a caller can
send.  Such a value is only ever shown: plainly, as messages show it, or
quoted, as the members of a list or a record are shown.
-/

namespace Bookkeeping

/-- A value of any kind. -/
inductive Value where
  | null
  | bool (value : Bool)
  | int (value : Int)
  | float (value : Binary64)
  | decimal (value : Decimal)
  | text (value : String)
  | list (members : List Value)
  | record (fields : List (String × Value))
deriving Inhabited

namespace Value

mutual

/-- A value as it is shown inside of another one: texts and decimals are quoted. -/
def quoted : Value → String
  | .null => "None"
  | .bool value => if value then "True" else "False"
  | .int value => Number.integerText value
  | .float value => value.text
  | .decimal value => "Decimal('" ++ value.text ++ "')"
  | .text value => Text.quoted value
  | .list members => "[" ++ quotedMembers members ++ "]"
  | .record fields => "\x7b" ++ quotedFields fields ++ "\x7d"

/-- The members of a list, divided by commas. -/
def quotedMembers : List Value → String
  | [] => ""
  | [member] => quoted member
  | member :: rest => quoted member ++ ", " ++ quotedMembers rest

/-- The fields of a record, divided by commas. -/
def quotedFields : List (String × Value) → String
  | [] => ""
  | [(name, value)] => Text.quoted name ++ ": " ++ quoted value
  | (name, value) :: rest => Text.quoted name ++ ": " ++ quoted value ++ ", " ++ quotedFields rest

end

def kind : Value → String
  | .null => "NoneType"
  | .bool _ => "bool"
  | .int _ => "int"
  | .float _ => "float"
  | .decimal _ => "decimal.Decimal"
  | .text _ => "str"
  | .list _ => "list"
  | .record _ => "dict"

/-- A value as a message shows it: a text or a decimal stands for itself. -/
def shown : Value → String
  | .text value => value
  | .decimal value => value.text
  | value => value.quoted

mutual

/-- Whether a value can be written: no integer in it has too many digits. -/
def isWritable : Value → Bool
  | .int value => value.natAbs < Nat.pow 10 Number.longestInteger
  | .list members => areWritable members
  | .record fields => areWritableFields fields
  | _ => true

/-- Whether all members of a list can be written. -/
def areWritable : List Value → Bool
  | [] => true
  | member :: rest => isWritable member && areWritable rest

/-- Whether all fields of a record can be written. -/
def areWritableFields : List (String × Value) → Bool
  | [] => true
  | (_, value) :: rest => isWritable value && areWritableFields rest

end

/-- Whether a value counts as given: neither null, nor false, nor zero, nor empty. -/
def isTruthy : Value → Bool
  | .null => false
  | .bool value => value
  | .int value => value != 0
  | .float value => !value.isZero
  | .decimal value => !value.isZero
  | .text value => !value.isEmpty
  | .list members => !members.isEmpty
  | .record fields => !fields.isEmpty

/-- A text that may be missing. -/
def ofText? : Option String → Value
  | some given => .text given
  | none => .null

/-- The value of a field; of several with one name, the last. -/
def field? (fields : List (String × Value)) (name : String) : Option Value :=
  fields.reverse.lookup name

end Value

end Bookkeeping
