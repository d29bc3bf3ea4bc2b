import Bookkeeping.Failure

/-!
# The schema of the tables

The columns, indexes and constraints under which the database keeps users,
accounts and entries.
-/

namespace Bookkeeping

/-- What a column holds. -/
inductive ColumnType where
  | identifier
  | text (longest : Nat)
  | money
  | flag
  | time
deriving DecidableEq

/-- The name that the database has for the type of a column. -/
def ColumnType.name : ColumnType → String
  | .identifier => "CHAR(32)"
  | .text longest => "VARCHAR(" ++ Number.naturalText longest ++ ")"
  | .money => "NUMERIC(19, 4)"
  | .flag => "BOOLEAN"
  | .time => "DATETIME"

/-- A column of a table. -/
structure Column where
  name : String
  type : ColumnType
  isNullable : Bool

/-- A reference of a column to another table, and what becomes of it when that row goes. -/
structure Reference where
  column : String
  table : String
  onDelete : String

/-- A table as the database keeps it. -/
structure TableSchema where
  name : String
  columns : List Column
  indexes : List String
  checks : List String
  references : List Reference

namespace TableSchema

def users : TableSchema where
  name := "users"
  columns := [⟨"id", .identifier, false⟩, ⟨"email", .text 255, false⟩, ⟨"created_at", .time, false⟩]
  indexes := []
  checks := []
  references := []

def accounts : TableSchema where
  name := "accounts"
  columns := [⟨"id", .identifier, false⟩, ⟨"owner_id", .identifier, true⟩,
    ⟨"name", .text 100, false⟩, ⟨"balance", .money, false⟩, ⟨"currency", .text 3, false⟩,
    ⟨"is_system", .flag, false⟩, ⟨"created_at", .time, false⟩]
  indexes := ["ix_accounts_owner_id"]
  checks := []
  references := [⟨"owner_id", "users", "CASCADE"⟩]

def entries : TableSchema where
  name := "entries"
  columns := [⟨"id", .identifier, false⟩, ⟨"account_id", .identifier, false⟩,
    ⟨"debit", .money, false⟩, ⟨"credit", .money, false⟩, ⟨"transaction_id", .identifier, false⟩,
    ⟨"operation_type", .text 10, false⟩, ⟨"description", .text 255, true⟩,
    ⟨"created_at", .time, false⟩]
  indexes := ["ix_entries_account_id", "ix_entries_transaction_id"]
  checks := ["check_credit_non_negative", "check_debit_non_negative", "check_single_side"]
  references := [⟨"account_id", "accounts", "RESTRICT"⟩]

/-- All tables of the ledger. -/
def all : List TableSchema :=
  [accounts, entries, users]

/-- The table as a record. -/
def record (table : TableSchema) : Value :=
  let column (column : Column) : Value :=
    .list [.text column.name, .text column.type.name, .bool column.isNullable]
  let reference (reference : Reference) : Value :=
    .list [.list [.text reference.column], .text reference.table, .text reference.onDelete]
  .record [("columns", .list (table.columns.map column)),
    ("indexes", .list (table.indexes.map Value.text)),
    ("checks", .list (table.checks.map Value.text)),
    ("foreign_keys", .list (table.references.map reference))]

end TableSchema

end Bookkeeping
