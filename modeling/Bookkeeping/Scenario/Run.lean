import Bookkeeping.Configuration
import Bookkeeping.Connection
import Bookkeeping.Ledger.Migration
import Bookkeeping.Recorder
import Bookkeeping.Scenario.Step

/-!
# Scenarios

A scenario opens a bank and takes steps at its desk.  A bank opens with empty
tables or with those that a migration has created; one that serves requests also
sets up its recorder and provides the settlement account.  Each step is answered
by its outcome, by what it put on record if that is asked for, and by the
balances where it was to change them.
-/

namespace Bookkeeping

/-- How a bank is opened. -/
structure Opening where
  overrides : List (String × Value)
  /-- Whether a migration has created the tables. -/
  isMigrated : Bool
  /-- Whether the bank serves requests. -/
  isServing : Bool

namespace Opening

/-- The bank before its first operation. -/
def bank (settings : Settings) (isMigrated : Bool) : Bank where
  tables := if isMigrated then Migration.seededTables settings else .empty
  sources := if isMigrated then Migration.seededSources else .fresh
  policy := .ofSettings settings
  isolation := settings.value .isolationLevel

/-- A desk with an empty record. -/
def desk (bank : Bank) : Desk where
  bank := bank
  log := []

/-- What a bank that serves requests has to be called by; what does not count as given is none. -/
def requireNames (settings : Settings) : Except Report Unit :=
  let lacking (part usual : String) : Report :=
    Failure.plainReport "AssertionError"
      ("A " ++ part ++ " must be provided for OpenAPI, e.g.: '" ++ usual ++ "'")
  if !(settings.value .appName).isTruthy then .error (lacking "title" "My API")
  else if !(settings.value .appVersion).isTruthy then .error (lacking "version" "2.1.0")
  else .ok ()

/-- Provides the settlement account at a desk. -/
def settled (desk : Desk) : Except Report Desk :=
  match Service.ensureSettlement .calm desk with
  | .ok _ desk => .ok desk
  | .error failure _ => .error failure.report

/-- Starts to serve requests: records are kept from now on, and the settlement account exists. -/
def startServing (settings : Settings) (desk : Desk) : Except Report Desk := do
  requireNames settings
  match Recorder.ofSettings? settings with
  | none => .error Recorder.unknownLevel
  | some _ =>
    let _ ← Connection.seconds (settings.value .lockTimeout)
    settled { desk with log := desk.log ++ [Recorder.opening settings] }

def start (opening : Opening) : Except Report Desk := do
  let settings ← Settings.build [] opening.overrides
  let desk := desk (bank settings opening.isMigrated)
  if opening.isServing then startServing settings desk
  else
    let _ ← Connection.seconds (settings.value .lockTimeout)
    return desk

end Opening

/-- A bank and what is done with it. -/
structure Scenario where
  opening : Opening
  /-- Whether the answers tell what was put on record. -/
  tellsLog : Bool
  steps : List Step

namespace Scenario

/-- The lines on record at a desk. -/
def logRecord (desk : Desk) : Value :=
  .list (desk.log.map fun announcement => .text announcement.line)

/-- The balances of all accounts, the oldest first, and the number of entries. -/
def stateRecord (tables : Tables) : Value :=
  .record [("balances", .list (tables.accountsByAge.map fun account =>
      .list [.text account.id.text, .text account.balance.text])),
    ("entries", .int tables.entries.length)]

/--
The state of the ledger, which is read in a unit of work of its own; it cannot be
told where the bank's own level of isolation is unknown.
-/
def stateAt (desk : Desk) : Except Report Value :=
  match Session.opened .calm .null desk with
  | .ok _ => .ok (stateRecord desk.bank.tables)
  | .error failure => .error failure.report

/-- The answer to a step with its outcome, and the desk that it left. -/
def answer (tellsLog : Bool) (step : Step) (outcome : Outcome) (desk : Desk) :
    Except Report Value := do
  let told := if tellsLog then [("log", logRecord desk)] else []
  let state ← if step.tellsState then do pure [("state", ← stateAt desk)] else pure []
  match outcome.record with
  | .record fields => return .record (fields ++ told ++ state)
  | other => return other

/-- The answers to steps that are taken one after the other, each with an empty record. -/
def answers (tellsLog : Bool) : List Step → Desk → Except Report (List Value)
  | [], _ => .ok []
  | step :: rest, desk => do
    let (outcome, desk) := step.take .calm { desk with log := [] }
    let first ← answer tellsLog step outcome desk
    return first :: (← answers tellsLog rest desk)

def run (scenario : Scenario) : Except Report Value := do
  let desk ← scenario.opening.start
  let told := if scenario.tellsLog then [("start_log", logRecord desk)] else []
  return .record
    (told ++ [("steps", .list (← answers scenario.tellsLog scenario.steps desk))])

end Scenario

end Bookkeeping
