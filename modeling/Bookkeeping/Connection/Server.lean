import Bookkeeping.Connection.Address
import Bookkeeping.Failure

/-!
# Parameters for a server

What a driver for a server is told: the parts of the address that are given, and
the parameters of its query.  The query may also name several hosts, either by
several values of the host, each with its port behind a colon, or by lists of
hosts and of ports between commas.
-/

namespace Bookkeeping.Server

/-- An error of whoever wrote an address. -/
def refusal (message : String) : Report :=
  Failure.plainReport "ArgumentError" message

/-- The values of a parameter as one value: a text, or a list of several texts. -/
def parameterValue : ParameterValues → Value
  | [only] => .text only
  | several => .list (several.map Value.text)

/-- The hosts that a query names, each with the text of its port if it has one. -/
structure Hosts where
  hosts : List String
  /-- The ports, if they are named together with the hosts. -/
  ports : Option (List (Option String))

/-- Parts of a text between dividers. -/
def parts (divider : Char) (text : String) : List String :=
  (Text.divided divider text.toList).map String.ofList

/-- A host of which each has its port behind a colon, or none. -/
def withPort (host : String) : Except Report (String × Option String) :=
  match parts ':' host with
  | [name, port] => .ok (name, some port)
  | [name] => .ok (name, none)
  | name :: port :: _ => .ok (name, some port)
  | [] => .ok (host, none)

/-- Whether a single host is a name with a port: letters, digits, hyphens and points, and digits. -/
def isNameWithPort (name port : String) : Bool :=
  name.toList.all (fun character => character.isAlphanum || character == '-' || character == '.')
    && port.toList.all Char.isDigit

/-- The hosts in the values of a parameter. -/
def hostsIn (values : ParameterValues) (hasPorts : Bool) : Except Report Hosts := do
  match values with
  | [only] =>
    match parts ',' only, parts ':' only with
    | [_], [name, port] =>
      if !hasPorts && isNameWithPort name port then
        return ⟨[name], some [if port.isEmpty then none else some port]⟩
      else return ⟨[only], none⟩
    | hosts, _ => return ⟨hosts, none⟩
  | several =>
    if several.all fun host => 3 ≤ (parts ':' host).length then
      throw (Failure.plainReport "ValueError" "too many values to unpack (expected 2)")
    let hosts ← several.mapM withPort
    return ⟨hosts.map Prod.fst, some (hosts.map Prod.snd)⟩

/-- The report on hosts whose ports are named in two ways. -/
def mixedHosts : Report :=
  refusal ("Can't mix 'multihost' formats together; use \"host=h1,h2,h3&port=p1,p2,p3\" or " ++
    "\"host=h1:p1&host=h2:p2&host=h3:p3\" separately")

def quotedPorts : List (Option String) → String
  | [only] => "(" ++ (Value.ofText? only).quoted ++ ",)"
  | several => "(" ++ Value.quotedMembers (several.map Value.ofText?) ++ ")"

/-- The number of a port; an empty text is none. -/
def portNumber? (port : Option String) : Option (Option Int) :=
  match port.filter (· ≠ "") with
  | none => some none
  | some text =>
    match Number.integerOfText .ten text with
    | .ok number => some (some number)
    | .error _ => none

def portNumbers (ports : List (Option String)) : Except Report (List (Option Int)) :=
  match ports.mapM portNumber? with
  | some numbers => .ok numbers
  | none => .error (refusal ("Received non-integer port arguments: " ++ quotedPorts ports))

/-- The texts of the ports that a query names apart from its hosts. -/
def separatePorts : ParameterValues → List (Option String)
  | [only] => (parts ',' only).map some
  | several => several.map some

/-- Whether there are as many ports as hosts, or one port for all. -/
def fit (hosts : Option (List String)) (ports : List (Option Int)) : Bool :=
  match hosts with
  | none => ports.length ≤ 1
  | some hosts => hosts.length == ports.length

/-- The hosts that a query names, and their ports. -/
def hostsAndPorts (query : List (String × ParameterValues)) :
    Except Report (Option (List String × List (Option Int))) := do
  let separate := query.lookup "port"
  let named ←
    match query.lookup "host" with
    | none => pure none
    | some values => do pure (some (← hostsIn values separate.isSome))
  let integrated := named.bind Hosts.ports
  if integrated.isSome && separate.isSome then throw mixedHosts
  let hosts := named.map Hosts.hosts
  match integrated.or (separate.map separatePorts) with
  | none => return hosts.map fun hosts => (hosts, hosts.map fun _ => none)
  | some texts =>
    let ports ← portNumbers texts
    if fit hosts ports then return hosts.map fun hosts => (hosts, ports)
    else throw (refusal "number of hosts and ports don't match")

def withParameter (name : String) (value : Value) (parameters : List (String × Value)) :
    List (String × Value) :=
  parameters.filter (fun (other, _) => other ≠ name) ++ [(name, value)]

/-- A parameter for a part of an address that is given and not empty. -/
def given (name : String) (part : Option String) : List (String × Value) :=
  match part.filter (· ≠ "") with
  | some text => [(name, .text text)]
  | none => []

/-- The parameters that the parts of an address give. -/
def partParameters (address : DatabaseAddress) : List (String × Value) :=
  given "host" address.host ++ given "dbname" address.database ++ given "user" address.user ++
    given "password" address.password ++
    match address.port.filter (· ≠ 0) with
    | some port => [("port", .int port)]
    | none => []

/-- The port of a host, or nothing; zero counts as none. -/
def portText (port : Option Int) : String :=
  match port.filter (· ≠ 0) with
  | some number => Number.integerText number
  | none => ""

/-- The parameters with several hosts and their ports. -/
def withHosts (named : Option (List String × List (Option Int)))
    (parameters : List (String × Value)) : List (String × Value) :=
  match named with
  | none => parameters
  | some (hosts, ports) =>
    let parameters := withParameter "host" (.text (String.intercalate "," hosts)) parameters
    let joined := String.intercalate "," (ports.map portText)
    if joined.isEmpty then parameters else withParameter "port" (.text joined) parameters

/-- The parameters that an address gives to the driver for a server. -/
def parameters (address : DatabaseAddress) : Except Report (List (String × Value)) := do
  let named ← hostsAndPorts address.query
  let own := address.query.foldl
    (fun parameters (name, values) => withParameter name (parameterValue values) parameters)
    (partParameters address)
  return withHosts named own

end Bookkeeping.Server
