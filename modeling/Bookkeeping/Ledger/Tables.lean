import Bookkeeping.Ledger.Order
import Bookkeeping.Ledger.Row
import Bookkeeping.Ledger.Stored
import Bookkeeping.Ledger.Totals

/-!
# Tables

The three tables of the ledger, each in the order of insertion.  A row is
inserted only when it keeps the constraints of its table.  Of the rows that are
there, an account can have its balance moved.
-/

namespace Bookkeeping

/-- The users, accounts and entries of a bank. -/
structure Tables where
  users : List User
  accounts : List Account
  entries : List Entry
deriving DecidableEq

namespace Tables

/-- Tables without rows. -/
def empty : Tables where
  users := []
  accounts := []
  entries := []

/-! ## Looking up rows -/

def user? (tables : Tables) (id : Identifier) : Option User :=
  tables.users.find? fun user => user.id = id

/-- The user with an address. -/
def userWithEmail? (tables : Tables) (email : String) : Option User :=
  tables.users.find? fun user => user.email = email

def account? (tables : Tables) (id : Identifier) : Option Account :=
  tables.accounts.find? fun account => account.id = id

/-- The entry with an identifier. -/
def entry? (tables : Tables) (id : Identifier) : Option Entry :=
  tables.entries.find? fun entry => entry.id = id

/-- The first of the bank's own accounts with a name. -/
def settlement? (tables : Tables) (name : String) : Option Account :=
  tables.accounts.find? fun account => account.isSystem && account.name = name

/-- All accounts, the oldest first. -/
def accountsByAge (tables : Tables) : List Account :=
  oldestFirst Account.createdAt tables.accounts

/-- The accounts of an owner, or those without one, the newest first. -/
def accountsOf (tables : Tables) (owner : Identifier) : List Account :=
  newestFirst Account.createdAt
    (tables.accounts.filter fun account => account.owner = owner.given?)

/-- The entries of a group, the oldest first. -/
def entriesOfGroup (tables : Tables) (group : Identifier) : List Entry :=
  oldestFirst Entry.createdAt (tables.entries.filter fun entry => entry.group = group)

/-- The entries of an account, in the order of insertion. -/
def entriesOfAccount (tables : Tables) (account : Identifier) : List Entry :=
  tables.entries.filter fun entry => entry.account = account

/-- The history of an account, the newest entry first. -/
def history (tables : Tables) (account : Identifier) : List Entry :=
  newestFirst Entry.createdAt (tables.entriesOfAccount account)

/-- The totals of the entries of an account. -/
def totalsOf (tables : Tables) (account : Identifier) : Totals :=
  .ofEntries (tables.entriesOfAccount account)

/-! ## Inserting rows -/

/-- The new user and the tables with it, unless the address is missing or taken. -/
def insertUser (tables : Tables) (draft : UserDraft) : Except Failure (User × Tables) := do
  match ← storedText 2 draft.email with
  | none => .error (.violated (.given "users.email"))
  | some email =>
    if (tables.userWithEmail? email).isSome then .error (.violated .distinctEmail)
    else
      let user : User := ⟨draft.id, email, draft.createdAt⟩
      .ok (user, { tables with users := tables.users ++ [user] })

/-- The tables with more users, one after the other. -/
def insertUsers (tables : Tables) : List UserDraft → Except Failure Tables
  | [] => .ok tables
  | draft :: rest =>
    match tables.insertUser draft with
    | .ok (_, tables) => tables.insertUsers rest
    | .error failure => .error failure

/-- The currency of an account that is inserted without one. -/
def defaultCurrency : String := "NGN"

/-- The account that a draft becomes under a name and with a currency. -/
def accountRow (draft : AccountDraft) (name currency : String) : Account where
  id := draft.id
  owner := draft.owner
  name := name
  balance := 0
  currency := currency
  isSystem := draft.isSystem
  createdAt := draft.createdAt

/-- Whether the owner of an account to be exists, if it has one. -/
def hasOwner (tables : Tables) (owner : Option Identifier) : Bool :=
  match owner with
  | none => true
  | some id => (tables.user? id).isSome

/-- The currency that is inserted; null stands for the usual one. -/
def givenCurrency : Value → Value
  | .null => .text defaultCurrency
  | currency => currency

/-- The new account and the tables with it, unless its name is missing or its owner unknown. -/
def insertAccount (tables : Tables) (draft : AccountDraft) :
    Except Failure (Account × Tables) := do
  match ← storedText 3 draft.name, ← storedText 5 (givenCurrency draft.currency) with
  | none, _ => .error (.violated (.given "accounts.name"))
  | some _, none => .error (.violated (.given "accounts.currency"))
  | some name, some currency =>
    if tables.hasOwner draft.owner then
      let account := accountRow draft name currency
      .ok (account, { tables with accounts := tables.accounts ++ [account] })
    else .error (.violated .reference)

/-- The columns of entries that a draft leaves empty, in the order in which they are missed. -/
def missedColumns (draft : EntryDraft) : List String :=
  (if draft.account.given?.isNone then ["entries.account_id"] else []) ++
    (if draft.debit.isNone then ["entries.debit"] else []) ++
    (if draft.credit.isNone then ["entries.credit"] else []) ++
    (if draft.group.given?.isNone then ["entries.transaction_id"] else [])

/-- The entry that a draft becomes with a description. -/
def entryRow (draft : EntryDraft) (description : Option String) : Entry where
  id := draft.id
  account := draft.account
  debit := draft.debit.getD 0
  credit := draft.credit.getD 0
  group := draft.group
  operation := draft.operation
  description := description
  createdAt := draft.createdAt

/-- Whether exactly one side of an entry is positive and the other one is zero. -/
def isSingleSided (entry : Entry) : Bool :=
  (0 < entry.debit && entry.credit == 0) || (entry.debit == 0 && 0 < entry.credit)

/-- What an entry violates: its sides are wrong, or its account is unknown. -/
def violation? (tables : Tables) (entry : Entry) : Option Constraint :=
  if entry.debit < 0 then some .debitNonNegative
  else if entry.credit < 0 then some .creditNonNegative
  else if !isSingleSided entry then some .singleSide
  else if (tables.account? entry.account).isNone then some .reference
  else none

/-- The new entry and the tables with it, unless a column is missed or it violates anything. -/
def insertEntry (tables : Tables) (draft : EntryDraft) : Except Failure (Entry × Tables) := do
  let entry := entryRow draft (← storedText 7 draft.description)
  match missedColumns draft, tables.violation? entry with
  | column :: _, _ => .error (.violated (.given column))
  | [], some constraint => .error (.violated constraint)
  | [], none => .ok (entry, { tables with entries := tables.entries ++ [entry] })

/-! ## Moving balances -/

/-- The account with its balance moved, if it is the one that is meant. -/
def movedAccount (id : Identifier) (delta : Money) (account : Account) : Account :=
  if account.id = id then { account with balance := account.balance + delta } else account

/-- The tables with the balance of an account moved, if there is such an account. -/
def moveBalance (tables : Tables) (id : Identifier) (delta : Money) : Option Tables :=
  if (tables.account? id).isSome then
    some { tables with accounts := tables.accounts.map (movedAccount id delta) }
  else none

end Tables

end Bookkeeping
