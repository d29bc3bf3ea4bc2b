import Bookkeeping.Ledger.Record
import Bookkeeping.Unit.Queries

/-!
# Operations on the store

The queries of a unit of work, as values.  An operator can let any list of them
run as the body of one unit of work, or a single one in a unit of its own.
-/

namespace Bookkeeping

/-- What kind of row is looked at. -/
inductive RowKind where
  | user
  | account
  | entry
deriving DecidableEq

/-- A query with its arguments. -/
inductive StoreOperation where
  | readAccount (id : Identifier) (forUpdate : Bool)
  | readSettlement (name : Value) (forUpdate : Bool)
  | findSettlement (name : Value)
  | moveBalance (id : Identifier) (delta : Decimal)
  | openAccount (name currency : Value) (owner : Option Identifier) (isSystem : Bool)
  | accounts
  | accountsOf (owner : Identifier)
  | createUser (email : Value)
  | readUser (id : Identifier)
  | addUser (email : Value)
  | post (account group : Identifier) (operation : Value) (debit credit : Decimal)
      (description : Value)
  | history (account : Identifier) (limit offset : Value)
  | entriesOfGroup (group : Identifier)
  | calculatedBalance (account : Identifier)
  | calculatedBalances
  | reviseEntry (group : Identifier) (index : Value) (amendment : Amendment)
  | changeEntry (group : Identifier) (index : Value) (amendment : Amendment)
  | flush
  | readIsolation
  | line (kind : RowKind) (id : Identifier)
  /-- An operation whose arguments cannot be used; it may be one after which the state is told. -/
  | fail (failure : Failure) (tellsState : Bool)

namespace StoreOperation

/--
A decimal number of money, rounded to what the ledger keeps.  A quiet mark for
no number leaves its column empty; any other special value is refused.
-/
def moneyOf (decimal : Decimal) : Except Failure (Option Money) :=
  match decimal.fixed? with
  | some (.finite negative units _) => .ok (some (Money.ofUnits negative units))
  | some _ => .ok none
  | none => .error (.mismatched .decimalOutOfRange)

/-- Moves a balance by a decimal number; a number is what a balance cannot be without. -/
def movingBalance (id : Identifier) (delta : Decimal) : Work Unit := do
  match ← Work.ofExcept (moneyOf delta) with
  | some delta => Work.moveBalance id delta
  | none =>
    let _ ← Work.orFail (.accountNotFound id) ((← Work.view).account? id)
    throw (.violated (.given "accounts.balance"))

/-- The operation of the ledger that a value names. -/
def operationOf (value : Value) : Work Operation :=
  match value with
  | .text name => Work.orFail (.unknownOperation value) (Operation.ofText? name)
  | _ => do
    let _ ← Work.ofExcept (value.written.mapError .mismatched)
    throw (.unknownOperation value)

/-- Keeps the sides of an entry as they were given. -/
def keepWritten (id : Identifier) (debit credit : Decimal) : Work Unit := fun session =>
  .ok () { session with written := session.written ++ [(id, debit, credit)] }

/-- Inserts an entry whose sides are decimal numbers. -/
def posting
    (account group : Identifier)
    (operation : Value)
    (debit credit : Decimal)
    (description : Value) :
    Work Entry := do
  let operation ← operationOf operation
  let debitMoney ← Work.ofExcept (moneyOf debit)
  let creditMoney ← Work.ofExcept (moneyOf credit)
  let entry ← Work.post ⟨account, group, operation, debitMoney, creditMoney, description⟩
  keepWritten entry.id debit credit
  return entry

/-- The entry in one line; one that the session wrote shows its sides as they were given. -/
def entryLine (session : Session) (entry : Entry) : String :=
  match session.written.lookup entry.id with
  | some (debit, credit) => entry.lineWith debit.text credit.text
  | none => entry.line

/-- The account in one line, as the session shows it. -/
def accountLine (session : Session) (account : Account) : String :=
  let shown := (session.shown.find? fun shown => shown.id = account.id).getD account
  Account.line ⟨shown, (session.given.lookup account.id).getD []⟩

/-- The user in one line, as the session shows it. -/
def userLine (session : Session) (user : User) : String :=
  User.line ⟨user, (session.given.lookup user.id).getD []⟩

/-- The line of a row, or the word for none. -/
def lineOf (kind : RowKind) (id : Identifier) : Work String := do
  let tables ← Work.view
  let session ← get
  let line := match kind with
    | .user => (tables.user? id).map (userLine session)
    | .account => (tables.account? id).map (accountLine session)
    | .entry => (tables.entry? id).map (entryLine session)
  return line.getD Value.null.shown

/-- The record of a user, as the session shows it. -/
def userRecord (user : User) : Work Value :=
  return (← Work.seen user.id user).record User.record

/-- The record of an account, as the session shows it. -/
def accountRecord (account : Account) : Work Value :=
  return (← Work.seen account.id account).record Account.record

/-- The record of an entry, as the session shows it. -/
def entryRecord (entry : Entry) : Work Value :=
  return (← Work.seen entry.id entry).record Entry.record

/-- A balance beside its account. -/
def balanceRecord (balance : Identifier × Money) : Value :=
  .list [.text balance.1.text, .text balance.2.text]

/-- Performs an operation; the answer is what it read or wrote. -/
def perform : StoreOperation → Work Value
  | .readAccount id forUpdate => Work.account id forUpdate >>= accountRecord
  | .readSettlement name forUpdate => Work.settlement name forUpdate >>= accountRecord
  | .findSettlement name => do
    match ← Work.findSettlement name with
    | some found => accountRecord found
    | none => return .null
  | .moveBalance id delta => (fun _ => Value.null) <$> movingBalance id delta
  | .openAccount name currency owner isSystem =>
    Work.openAccount name currency owner isSystem >>= accountRecord
  | .accounts => do return .list (← (← Work.accounts).mapM accountRecord)
  | .accountsOf owner => do return .list (← (← Work.accountsOf owner).mapM accountRecord)
  | .createUser email => Work.createUser email >>= userRecord
  | .readUser id => Work.user id >>= userRecord
  | .addUser email => (fun _ => Value.null) <$> Work.addUser email
  | .post account group operation debit credit description =>
    posting account group operation debit credit description >>= entryRecord
  | .history account limit offset => do
    return .list (← (← Work.history account limit offset).mapM entryRecord)
  | .entriesOfGroup group => do
    return .list (← (← Work.entriesOfGroup group).mapM entryRecord)
  | .calculatedBalance account =>
    (fun balance => Value.text balance.text) <$> Work.calculatedBalance account
  | .calculatedBalances =>
    (fun balances => Value.list (balances.map balanceRecord)) <$> Work.calculatedBalances
  | .reviseEntry group index amendment =>
    (fun _ => Value.null) <$> Work.reviseEntry group index amendment
  | .changeEntry group index amendment =>
    (fun _ => Value.null) <$> Work.changeEntry group index amendment
  | .flush => (fun _ => Value.null) <$> Work.flushWaiting
  | .readIsolation => Value.text <$> Work.isolationInForce
  | .line kind id => Value.text <$> lineOf kind id
  | .fail failure _ => throw failure

/-- Whether the state of the ledger is told after the operation. -/
def tellsState : StoreOperation → Bool
  | .moveBalance _ _ | .post _ _ _ _ _ _ | .changeEntry _ _ _ => true
  | .fail _ tellsState => tellsState
  | _ => false

end StoreOperation

end Bookkeeping
