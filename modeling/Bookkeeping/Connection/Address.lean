import Bookkeeping.Mismatch
import Bookkeeping.Text.Divided
import Bookkeeping.Text.Numeral
import Bookkeeping.Text.Percent

/-!
# Addresses of databases

An address names a kind of database, then who connects with which password, the
host and its port, the name of the database, and a query of further parameters.
A parameter may be given several times, and then has several values.
-/

namespace Bookkeeping

/-- The values of a parameter: one, or several in the order in which they were given. -/
abbrev ParameterValues := List String

/-- An address of a database in its parts. -/
structure DatabaseAddress where
  kind : String
  user : Option String
  password : Option String
  host : Option String
  port : Option Int
  database : Option String
  query : List (String × ParameterValues)

/-- Why a text is no address. -/
inductive AddressFault where
  /-- The text does not follow the grammar. -/
  | malformed
  /-- The port is no integer. -/
  | port (mismatch : Mismatch)

namespace DatabaseAddress

/-! ## Reading -/

/-- A text up to the first of some characters, and the rest from that character on. -/
def upTo (stops : List Char) (characters : List Char) : List Char × List Char :=
  (characters.takeWhile (!stops.contains ·), characters.dropWhile (!stops.contains ·))

/-- The text before the last occurrence of a character, and the text behind it. -/
def beforeLast? (divider : Char) (characters : List Char) : Option (List Char × List Char) :=
  if characters.contains divider then
    let behind := (characters.reverse.takeWhile (· != divider)).reverse
    some (characters.take (characters.length - behind.length - 1), behind)
  else none

/-- The user and the password in front of a host, where they are, and what follows. -/
def readCredentials (characters : List Char) :
    Option String × Option String × List Char :=
  let (user, rest) := upTo [':', '/'] characters
  let alone :=
    match beforeLast? '@' user with
    | some (user, behind) => (some (Text.resolved user), none, behind ++ rest)
    | none => (none, none, characters)
  match rest with
  | ':' :: behind =>
    if behind.contains '@' then
      let (password, rest) := upTo ['@'] behind
      (some (Text.resolved user), some (Text.resolved password), rest.drop 1)
    else alone
  | _ => alone

/-- The host in brackets or without, and what follows. -/
def readHost (characters : List Char) : Option String × List Char :=
  let (plain, rest) := upTo ['/', ':', '?'] characters
  let unbracketed := (if plain.isEmpty then none else some (String.ofList plain), rest)
  match characters with
  | '[' :: inner =>
    let (stretch, beyond) := upTo ['/', '?'] inner
    match beforeLast? ']' stretch with
    | some (host, behind) =>
      if host.isEmpty then unbracketed else (some (String.ofList host), behind ++ beyond)
    | none => unbracketed
  | _ => unbracketed

/-- What a mark introduces, up to the first of some characters, where the mark is. -/
def readMarked (mark : Char) (stops : List Char) (characters : List Char) :
    Option (List Char) × List Char :=
  match characters with
  | [] => (none, [])
  | first :: rest =>
    if first = mark then
      let (part, rest) := upTo stops rest
      (some part, rest)
    else (none, characters)

/-- The port, which has to be an integer where there is one. -/
def readPort : Option (List Char) → Except AddressFault (Option Int)
  | none => .ok none
  | some characters =>
    match Number.readInteger .ten (String.ofList characters) with
    | .ok number => .ok (some number)
    | .error mismatch => .error (.port mismatch)

/-- The name and the value of an item of a query; an item without a value counts for nothing. -/
def parameter? (item : List Char) : Option (String × String) :=
  let value := (item.dropWhile (· != '=')).drop 1
  if value.isEmpty then none
  else
    let read (characters : List Char) := Text.resolved (Text.blankForPlus characters)
    some (read (item.takeWhile (· != '=')), read value)

def addParameter (name value : String) :
    List (String × ParameterValues) → List (String × ParameterValues)
  | [] => [(name, [value])]
  | (other, values) :: rest =>
    if other = name then (other, values ++ [value]) :: rest
    else (other, values) :: addParameter name value rest

def readQuery : Option (List Char) → List (String × ParameterValues)
  | none => []
  | some characters =>
    ((Text.divided '&' characters).filterMap parameter?).foldl
      (fun parameters (name, value) => addParameter name value parameters) []

def ofText (text : String) : Except AddressFault DatabaseAddress := do
  let isPart (character : Char) : Bool := Text.isWordCharacter character || character == '+'
  let kind := text.toList.takeWhile isPart
  match text.toList.drop kind.length with
  | ':' :: '/' :: '/' :: rest =>
    if kind.isEmpty then .error .malformed
    else
      let (user, password, rest) := readCredentials rest
      let (host, rest) := readHost rest
      let (port, rest) := readMarked ':' ['/', '?'] rest
      let (database, rest) := readMarked '/' ['?'] rest
      let (query, _) := readMarked '?' ['\n'] rest
      return {
        kind := String.ofList kind
        user := user
        password := password
        host := host
        port := ← readPort port
        database := database.map Text.resolved
        query := readQuery query }
  | _ => .error .malformed

/-! ## Writing -/

/-- Where a name that is compared by code points belongs among parameters. -/
def insertParameter (parameter : String × ParameterValues) :
    List (String × ParameterValues) → List (String × ParameterValues)
  | [] => [parameter]
  | first :: rest =>
    if Text.points first.1.toList < Text.points parameter.1.toList then
      first :: insertParameter parameter rest
    else parameter :: first :: rest

/-- A name or a value as a query writes it. -/
def queryPart (text : String) : String :=
  let quoted := Text.percentQuoted [' '] text
  String.ofList (quoted.toList.map fun character => if character = ' ' then '+' else character)

/-- The query with its parameters in the order of their names. -/
def queryText (query : List (String × ParameterValues)) : String :=
  let ordered := query.foldr insertParameter []
  let items := ordered.flatMap fun (name, values) =>
    values.map fun value => queryPart name ++ "=" ++ queryPart value
  if items.isEmpty then "" else "?" ++ String.intercalate "&" items

/-- The user and the password as a text writes them; the password is hidden. -/
def credentialsText (address : DatabaseAddress) : String :=
  match address.user with
  | none => ""
  | some user =>
    Text.percentQuoted [' ', '+'] user ++ (if address.password.isSome then ":***" else "") ++ "@"

/-- The host as a text writes it, in brackets if need be. -/
def hostText (host : String) : String :=
  if host.toList.contains ':' then "[" ++ host ++ "]" else host

/-- The text of an address, with its password hidden. -/
def text (address : DatabaseAddress) : String :=
  address.kind ++ "://" ++ address.credentialsText ++ (address.host.map hostText).getD "" ++
    (address.port.map fun port => ":" ++ Number.integerText port).getD "" ++
    (address.database.map fun name => "/" ++ Text.percentQuoted [' ', '+', '/'] name).getD "" ++
    queryText address.query

end DatabaseAddress

end Bookkeeping
