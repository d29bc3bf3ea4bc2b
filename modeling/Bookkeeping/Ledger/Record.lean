import Bookkeeping.Ledger.Row

/-!
# Rows as records

The form in which rows leave the bank: identifiers and times as texts, and money
always with four fractional digits.
-/

namespace Bookkeeping

def User.record (user : User) : Value :=
  .record [("id", .text user.id.text), ("email", .text user.email),
    ("created_at", .text user.createdAt.text)]

def Account.record (account : Account) : Value :=
  .record [("id", .text account.id.text),
    ("owner_id", .ofText? (account.owner.map Identifier.text)),
    ("name", .text account.name), ("balance", .text account.balance.text),
    ("currency", .text account.currency), ("is_system", .bool account.isSystem),
    ("created_at", .text account.createdAt.text)]

def Entry.record (entry : Entry) : Value :=
  .record [("id", .text entry.id.text), ("account_id", .text entry.account.text),
    ("debit", .text entry.debit.text), ("credit", .text entry.credit.text),
    ("transaction_id", .text entry.group.text),
    ("operation_type", .text entry.operation.text),
    ("description", .ofText? entry.description),
    ("created_at", .text entry.createdAt.text)]

/--
A row with those of its fields that are shown as they were given.  Whoever
inserted the row sees it so; everybody else sees what the database has kept.
-/
structure Seen (Row : Type) where
  row : Row
  given : List (String × Value)

namespace Seen

variable {Row : Type}

/-- A row of which every field is shown as it is kept. -/
def plain (row : Row) : Seen Row where
  row := row
  given := []

/-- The fields of a record, of which some are shown as they were given. -/
def overlaid (given fields : List (String × Value)) : List (String × Value) :=
  fields.map fun (name, value) => (name, (given.lookup name).getD value)

/-- The record of a row as it is seen. -/
def record (form : Row → Value) (seen : Seen Row) : Value :=
  match form seen.row with
  | .record fields => .record (overlaid seen.given fields)
  | other => other

/-- A text of a row as it is seen. -/
def shown (seen : Seen Row) (name kept : String) : String :=
  ((seen.given.lookup name).getD (.text kept)).shown

end Seen

def User.line (seen : Seen User) : String :=
  "<User " ++ seen.shown "email" seen.row.email ++ ">"

def Account.line (seen : Seen Account) : String :=
  let account := seen.row
  "<Account " ++ account.id.text ++ " " ++ seen.shown "name" account.name ++ " " ++
    account.balance.text ++ " " ++ seen.shown "currency" account.currency ++ ">"

/-- An entry in one line, with its sides as they were written. -/
def Entry.lineWith (entry : Entry) (debit credit : String) : String :=
  "<Entry " ++ entry.operation.text ++ " debit=" ++ debit ++ " credit=" ++ credit ++ ">"

def Entry.line (entry : Entry) : String :=
  entry.lineWith entry.debit.text entry.credit.text

end Bookkeeping
