import Bookkeeping.Configuration
import Bookkeeping.Ledger.Schema
import Bookkeeping.Ledger.Tables
import Bookkeeping.Sources

/-!
# Migrations

Before the first migration the database holds no tables.  An upgrade creates
them, together with the settlement account that the settings name; a downgrade
drops them with all that they hold.  Neither does anything where it has been done.
-/

namespace Bookkeeping

/-- A step between the empty database and the tables of the ledger. -/
inductive Migration where
  | upgrade
  | downgrade
deriving DecidableEq

namespace Migration

/-- The settlement account that settings name, as the first object that is made. -/
def settlement (settings : Settings) (sources : Sources) : Account where
  id := sources.upcoming .account
  owner := none
  name := (settings.value .settlementAccountName).shown
  balance := 0
  currency := (settings.value .defaultCurrency).shown
  isSystem := true
  createdAt := sources.clock

/-- The tables right after they were created. -/
def seededTables (settings : Settings) : Tables :=
  { Tables.empty with accounts := [settlement settings .fresh] }

/-- The sources right after the tables were created. -/
def seededSources : Sources :=
  Sources.fresh.afterMaking .account

/-- What a migration makes of the tables, which may not exist. -/
def apply (settings : Settings) : Migration → Option Tables → Option Tables
  | .upgrade, none => some (seededTables settings)
  | .upgrade, some tables => some tables
  | .downgrade, _ => none

def accountRecord (account : Account) : Value :=
  .record [("owner_id", .ofText? (account.owner.map Identifier.text)), ("name", .text account.name),
    ("balance", .text account.balance.text), ("currency", .text account.currency),
    ("is_system", .bool account.isSystem)]

/-- The report on the tables, which may not exist. -/
def report : Option Tables → Value
  | none => .record [("tables", .record []), ("accounts", .list [])]
  | some tables =>
    .record [("tables", .record (TableSchema.all.map fun table => (table.name, table.record))),
      ("accounts", .list (tables.accounts.map accountRecord))]

/-- The reports after each of a list of migrations. -/
def reports (settings : Settings) : Option Tables → List Migration → List Value
  | _, [] => []
  | tables, migration :: rest =>
    let tables := migration.apply settings tables
    report tables :: reports settings tables rest

/-- Runs migrations in an environment, which is read by each of them. -/
def run (environment : Environment) (migrations : List Migration) : Except Report (List Value) :=
  if migrations.isEmpty then .ok []
  else (Settings.build environment []).map fun settings => reports settings none migrations

@[simp]
theorem apply_apply (settings : Settings) (migration : Migration) (tables : Option Tables) :
    migration.apply settings (migration.apply settings tables) =
      migration.apply settings tables := by
  cases migration <;> cases tables <;> rfl

end Migration

end Bookkeeping
