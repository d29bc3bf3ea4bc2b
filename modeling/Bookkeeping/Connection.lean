import Bookkeeping.Configuration
import Bookkeeping.Connection.File
import Bookkeeping.Connection.Kind
import Bookkeeping.Connection.Server

/-!
# Connections

Where the tables are stored is configured by an address.  A database in a file
waits for its lock as long as the settings say, in seconds; a database on a
server is told so in milliseconds.  Either goes with what the address says.
-/

namespace Bookkeeping

/-- How the database is connected to. -/
structure Connection where
  dialect : String
  driver : String
  parameters : List (String × Value)

namespace Connection

def timeless (value : Value) : Report :=
  Failure.plainReport "TypeError"
    ("unsupported operand type(s) for /: '" ++ value.kind ++ "' and 'int'")

def endless : Report :=
  Failure.plainReport "OverflowError" "integer division result too large for a float"

/-- An integer number of milliseconds in seconds. -/
def integerSeconds (number : Int) : Except Report Value :=
  match Binary64.ofDecimal (number < 0) number.natAbs (-3) with
  | .finite negative significand exponent => .ok (.float (.finite negative significand exponent))
  | _ => .error endless

/-- A coefficient and an exponent with fewer zeros at the end, down to a number of steps. -/
def shortened : Nat → Nat → Int → Nat × Int
  | 0, coefficient, exponent => (coefficient, exponent)
  | steps + 1, coefficient, exponent =>
    if coefficient % 10 = 0 then shortened steps (coefficient / 10) (exponent + 1)
    else (coefficient, exponent)

/-- A decimal number of milliseconds in seconds. -/
def decimalSeconds : Decimal → Decimal
  | .finite negative coefficient exponent =>
    let (coefficient, exponent) := shortened 3 coefficient (exponent - 3)
    .finite negative coefficient exponent
  | special => special

/-- A number of milliseconds in seconds. -/
def seconds : Value → Except Report Value
  | .int number => integerSeconds number
  | .bool held => integerSeconds (if held then 1 else 0)
  | .float (.finite negative significand exponent) =>
    let (top, bottom) := Binary64.descaled significand 1 (-exponent)
    if significand = 0 then .ok (.float (.finite negative significand exponent))
    else .ok (.float (Binary64.nearest negative top (bottom * 1000)))
  | .float special => .ok (.float special)
  | .decimal number => .ok (.decimal (decimalSeconds number))
  | value => .error (timeless value)

/-- How an address that cannot be read is told. -/
def addressReport : AddressFault → Report
  | .malformed =>
    Failure.plainReport "ArgumentError" "Could not parse SQLAlchemy URL from given URL string"
  | .port mismatch => Failure.plainReport mismatch.name mismatch.message

/-- Refuses an address whose query asks for an extension. -/
def refuseExtensions (address : DatabaseAddress) : Except Report Unit :=
  match address.query.lookup "plugin" with
  | some (name :: _) =>
    .error (Failure.plainReport "NoSuchModuleError"
      ("Can't load plugin: sqlalchemy.plugins:" ++ name))
  | _ => .ok ()

/-- The connection to an address, told what the settings add to it. -/
def ofAddress (text : String) (added : List (String × Value)) : Except Report Connection := do
  let address ← (DatabaseAddress.ofText text).mapError addressReport
  refuseExtensions address
  let driver ← Driver.ofKind address.kind
  let own ←
    if driver.dialect = Driver.file.dialect then File.parameters address
    else Server.parameters address
  return ⟨driver.dialect, driver.name,
    added.foldl (fun parameters (name, value) => Server.withParameter name value parameters) own⟩

/-- The address in the settings, which has to be a text. -/
def addressIn (settings : Settings) : Except Report String :=
  match settings.value .databaseUrl with
  | .text text => .ok text
  | value => .error (Failure.mismatched (.lacks value "startswith")).report

/-- The connection that settings ask for. -/
def ofSettings (settings : Settings) : Except Report Connection := do
  let text ← addressIn settings
  let timeout := settings.value .lockTimeout
  if text.startsWith Driver.file.dialect then
    let timeout ← seconds timeout
    ofAddress text [("check_same_thread", .bool false), ("timeout", timeout)]
  else
    let timeout ← timeout.written.mapError fun mismatch => (Failure.mismatched mismatch).report
    ofAddress text [("options", .text ("-c lock_timeout=" ++ timeout))]

def record (connection : Connection) : Value :=
  .record [("dialect", .text connection.dialect), ("driver", .text connection.driver),
    ("connect", .record connection.parameters)]

end Connection

end Bookkeeping
