import Bookkeeping.Identifier
import Bookkeeping.Money
import Bookkeeping.Timestamp

/-!
# Rows of the ledger

Users own accounts, and entries move money into and out of accounts.  An entry
has a debit side and a credit side, one of which is zero.  The entries that one
operation writes share the identifier of their group.

A draft is what becomes a row once the database has accepted it.  What a row has
to have may still be missing from its draft, and its texts are values of any kind.
-/

namespace Bookkeeping

/-- Someone who can own accounts. -/
structure User where
  id : Identifier
  email : String
  createdAt : Timestamp
deriving DecidableEq

/-- An account with its stored balance.  An account of the bank's own has no owner. -/
structure Account where
  id : Identifier
  owner : Option Identifier
  name : String
  balance : Money
  currency : String
  isSystem : Bool
  createdAt : Timestamp
deriving DecidableEq

/-- The operation that wrote an entry. -/
inductive Operation where
  | deposit
  | withdrawal
  | transfer
deriving DecidableEq, Repr

namespace Operation

def text : Operation → String
  | .deposit => "deposit"
  | .withdrawal => "withdrawal"
  | .transfer => "transfer"

def ofText? (name : String) : Option Operation :=
  [deposit, withdrawal, transfer].find? fun operation => operation.text = name

end Operation

/-- One side of an operation: money that left or entered an account. -/
structure Entry where
  id : Identifier
  account : Identifier
  debit : Money
  credit : Money
  group : Identifier
  operation : Operation
  description : Option String
  createdAt : Timestamp
deriving DecidableEq

/-- What an entry adds to the balance of its account. -/
def Entry.effect (entry : Entry) : Money :=
  entry.credit - entry.debit

/-- A user to be. -/
structure UserDraft where
  id : Identifier
  email : Value
  createdAt : Timestamp

/-- An account to be; its balance will be zero. -/
structure AccountDraft where
  id : Identifier
  owner : Option Identifier
  name : Value
  currency : Value
  isSystem : Bool
  createdAt : Timestamp

/-- An entry to be; a side that is no number is missing. -/
structure EntryDraft where
  id : Identifier
  account : Identifier
  debit : Option Money
  credit : Option Money
  group : Identifier
  operation : Operation
  description : Value
  createdAt : Timestamp

end Bookkeeping
