import Bookkeeping.Connection.Address
import Bookkeeping.Failure

/-!
# Parameters for a file

The address of a database in a file names nothing but the file.  Its query may
hold some parameters of the driver, which have to be of the kind that the driver
wants; others belong to the file.
-/

namespace Bookkeeping.File

/-- The report on an address that names more than a file. -/
def misplaced (address : DatabaseAddress) : Report :=
  Failure.plainReport "ArgumentError"
    ("Invalid SQLite URL: " ++ address.text ++ "\nValid SQLite URL forms are:\n" ++
      " sqlite:///:memory: (or, sqlite://)\n sqlite:///relative/path/to/file.db\n" ++
      " sqlite:////absolute/path/to/file.db")

/-- Whether an address names a host, a port, a user or a password. -/
def namesMore (address : DatabaseAddress) : Bool :=
  [address.user, address.host, address.password].any (fun part => part.any (· ≠ "")) ||
    address.port.any (· ≠ 0)

def refusal (name message : String) : Except Report Value :=
  .error (Failure.plainReport name message)

def truth (text : String) : Except Report Value :=
  let word := String.ofList ((Text.trimBy Text.isBlank text.toList).map Char.toLower)
  if ["true", "yes", "on", "y", "t", "1"].contains word then .ok (.bool true)
  else if ["false", "no", "off", "n", "f", "0"].contains word then .ok (.bool false)
  else refusal "ValueError" ("String is not true/false: " ++ (Value.text word).quoted)

def integer (text : String) : Except Report Value :=
  match Number.readInteger .ten text with
  | .ok number => .ok (.int number)
  | .error mismatch => refusal mismatch.name mismatch.message

/-- Whether every underscore stands between two digits. -/
def hasInnerUnderscores : Bool → List Char → Bool
  | _, [] => true
  | isBehindDigit, '_' :: rest =>
    isBehindDigit && rest.head?.any (fun next => (Text.digitValue? next).isSome) &&
      hasInnerUnderscores false rest
  | _, character :: rest =>
    hasInnerUnderscores (Text.digitValue? character).isSome rest

def isBinaryText (text : String) : Bool :=
  let characters := Text.trimBy Text.isWhiteSpace text.toList
  hasInnerUnderscores false characters &&
    match Decimal.ofText (String.ofList characters) with
    | .ok (.notANumber _ _ _) =>
      (Decimal.takeSign characters).2.map Char.toLower == "nan".toList
    | .ok _ | .error .outOfRange => true
    | .error .malformed => false

/-- The number of seconds that a text writes; it never takes effect. -/
def number (text : String) : Except Report Value :=
  if isBinaryText text then .ok .null
  else refusal "ValueError" ("could not convert string to float: " ++ (Value.text text).quoted)

/-- What the driver wants a parameter to be. -/
inductive Want where
  | truth
  | integer
  | number
  | text
deriving DecidableEq

/-- A parameter that was given once, as the driver wants it. -/
def wantedOnce (want : Want) (text : String) : Except Report (Option Value) :=
  match want with
  | .truth => (truth text).map some
  | .integer => (integer text).map some
  | .number => (number text).map some
  | .text => .ok none

/-- Several texts as a report quotes them. -/
def quotedTexts (texts : List String) : String :=
  "(" ++ Value.quotedMembers (texts.map Value.text) ++ ")"

/-- A parameter that was given several times, as the driver wants it. -/
def wantedOften (want : Want) (texts : List String) : Except Report (Option Value) :=
  match want with
  | .truth => .ok (some (.bool true))
  | .integer =>
    (refusal "TypeError"
      ("int() argument must be a string, a bytes-like object or a real number, " ++
        "not 'tuple'")).map some
  | .number =>
    (refusal "TypeError" "float() argument must be a string or a real number, not 'tuple'").map
      some
  | .text => .ok (some (.text (quotedTexts texts)))

/-- The parameters of the driver, in the order in which it looks at them. -/
def wanted : List (String × Want) :=
  [("uri", .truth), ("timeout", .number), ("isolation_level", .text), ("detect_types", .integer),
    ("check_same_thread", .truth), ("cached_statements", .integer)]

/-- One parameter of the driver, if the query has it. -/
def readParameter (query : List (String × ParameterValues)) (name : String) (want : Want) :
    Except Report (List (String × Value)) := do
  let value ←
    match query.lookup name with
    | none => pure none
    | some [text] => wantedOnce want text
    | some texts => wantedOften want texts
  return value.toList.map fun value => (name, value)

/-- Whether parameters of the file would be added to a file without a name. -/
def lacksName (address : DatabaseAddress) (own : List (String × Value)) : Bool :=
  address.database.isNone && (own.lookup "uri").any Value.isTruthy &&
    address.query.any fun (name, _) => (wanted.lookup name).isNone

/-- The parameters that an address gives to the driver for a file. -/
def parameters (address : DatabaseAddress) : Except Report (List (String × Value)) := do
  if namesMore address then throw (misplaced address)
  let own := (← wanted.mapM fun (name, want) => readParameter address.query name want).flatten
  if lacksName address own then
    throw (Failure.plainReport "TypeError"
      "unsupported operand type(s) for +=: 'NoneType' and 'str'")
  return own

end Bookkeeping.File
