import Bookkeeping.Announcement
import Bookkeeping.Ledger.Tables
import Bookkeeping.Settings
import Bookkeeping.Sources

/-!
# The bank

A bank is what lasts between two operations: the committed tables, the sources
of identifiers and times, and the policy that the operations follow.
-/

namespace Bookkeeping

/-- What the operations of the bank are configured by; each setting is a value of any kind. -/
structure Policy where
  settlementName : Value
  defaultCurrency : Value
  defaultPageSize : Value
  maxPageSize : Value
  version : Value

/-- The policy that a configuration asks for. -/
def Policy.ofSettings (settings : Settings) : Policy where
  settlementName := settings.value .settlementAccountName
  defaultCurrency := settings.value .defaultCurrency
  defaultPageSize := settings.value .defaultPageSize
  maxPageSize := settings.value .maxPageSize
  version := settings.value .appVersion

/-- The state of a bank between two operations. -/
structure Bank where
  tables : Tables
  sources : Sources
  policy : Policy
  /-- The level of isolation that units of work ask for by themselves, if it counts as given. -/
  isolation : Value

/-- A bank and what it has put on record during the step under way. -/
structure Desk where
  bank : Bank
  log : List Announcement

/-- Which calls of the database fail during a step. -/
structure Fault where
  commit : Bool
  rollback : Bool
deriving DecidableEq

/-- No call fails. -/
def Fault.absent : Fault where
  commit := false
  rollback := false

/-- What surrounds an activity: who holds the lock for writing, and what fails. -/
structure Surroundings where
  locked : Bool
  fault : Fault
deriving DecidableEq

/-- Nobody holds the lock and nothing fails. -/
def Surroundings.calm : Surroundings where
  locked := false
  fault := .absent

/-- An activity at the desk of a bank: it answers or fails, and leaves a desk either way. -/
abbrev Activity (Answer : Type) := EStateM Failure Desk Answer

/-- Puts something on record. -/
def Activity.announce (announcement : Announcement) : Activity Unit :=
  fun desk => .ok () { desk with log := desk.log ++ [announcement] }

/-- The policy in force. -/
def Activity.policy : Activity Policy :=
  fun desk => .ok desk.bank.policy desk

/-- Fails without touching anything. -/
def Activity.refuse {Answer : Type} (failure : Failure) : Activity Answer :=
  fun desk => .error failure desk

/-- The outcome of something that does not touch the desk. -/
def Activity.ofExcept {Answer : Type} : Except Failure Answer → Activity Answer
  | .ok answer => fun desk => .ok answer desk
  | .error failure => .refuse failure

end Bookkeeping
