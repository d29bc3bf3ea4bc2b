import Bookkeeping.Unit.Session
import Bookkeeping.Value.Conversion

/-!
# Queries

What work inside of a session can ask of the database: reading accounts, users
and entries, moving balances, and inserting rows.  Entries that were read can be
revised in memory, and whatever waits in memory can be written.
-/

namespace Bookkeeping.Work

/-- The level of isolation in force. -/
def isolationInForce : Work String := do
  let _ ← view
  return (← get).isolation.inForce

/-! ## Accounts -/

/-- Reads an account, by a plain or a locking read. -/
def read (forUpdate : Bool) (account : Account) : Work Account :=
  if forUpdate then refresh account else remember account

def account (id : Identifier) (forUpdate : Bool) : Work Account := do
  let found ← orFail (.accountNotFound id) ((← view).account? id)
  read forUpdate found

/-- The first of the bank's own accounts whose name is the text that is kept of a value. -/
def settlementNamed (name : Value) : Work (Option Account) := do
  let tables ← view
  return (← ofExcept (storedText 1 name)).bind tables.settlement?

/-- The bank's own account with a name. -/
def settlement (name : Value) (forUpdate : Bool) : Work Account := do
  let found ← orFail (.settlementNotFound name) (← settlementNamed name)
  read forUpdate found

/-- The bank's own account with a name, if there is one. -/
def findSettlement (name : Value) : Work (Option Account) := do
  match ← settlementNamed name with
  | some found => return some (← remember found)
  | none => return none

/-- All accounts, the oldest first. -/
def accounts : Work (List Account) := do
  (← view).accountsByAge.mapM remember

/-- The accounts of an owner, the newest first. -/
def accountsOf (owner : Identifier) : Work (List Account) := do
  ((← view).accountsOf owner).mapM remember

/-- The stored balance of an account, brought to four places as it is compared. -/
def comparedBalance (account : Account) : Work Money :=
  ofExcept (account.balance.fixed.mapError .mismatched)

/-- Adds to the stored balance of an account, whatever it is. -/
def moveBalance (id : Identifier) (delta : Money) : Work Unit := do
  let moved ← orFail (.accountNotFound id) ((← view).moveBalance id delta)
  replaceTables moved

/-- Inserts an account with a balance of zero. -/
def openAccount
    (name currency : Value)
    (owner : Option Identifier)
    (isSystem : Bool) :
    Work Account := do
  let (id, createdAt) ← make .account
  let account ← insertBetween fun tables =>
    tables.insertAccount ⟨id, owner, name, currency, isSystem, createdAt⟩
  keepGiven id [("name", name), ("currency", currency)]
  remember account

/-! ## Users -/

def user (id : Identifier) : Work User := do
  orFail (.userNotFound id) ((← view).user? id)

/-- Makes a user and keeps it for the next insertion. -/
def addUser (email : Value) : Work Unit := do
  let (id, createdAt) ← make .user
  stage ⟨id, email, createdAt⟩

/-- Whether an address belongs to a user of the tables. -/
def isTaken (email : Value) : Work Bool := do
  let tables ← view
  return (← ofExcept (storedText 1 email)).any fun email => (tables.userWithEmail? email).isSome

/-- A constraint that is violated while a user is inserted is told as a taken address. -/
def asTaken (email : Value) : Failure → Failure
  | .violated _ => .userAlreadyExists email
  | failure => failure

/-- Work whose failures are told in other words. -/
def rewording {Answer : Type} (words : Failure → Failure) (work : Work Answer) : Work Answer :=
  fun session =>
    match work session with
    | .ok answer session => .ok answer session
    | .error failure session => .error (words failure) session

/-- Inserts a user, unless the address is taken. -/
def createUser (email : Value) : Work User := do
  if ← isTaken email then throw (.userAlreadyExists email)
  let (id, createdAt) ← make .user
  let user ← rewording (asTaken email) <| insert fun tables =>
    tables.insertUser ⟨id, email, createdAt⟩
  keepGiven id [("email", email)]
  return user

/-! ## Entries -/

/-- What an operation says about one side of itself; a side that is no number is missing. -/
structure Posting where
  account : Identifier
  group : Identifier
  operation : Operation
  debit : Option Money
  credit : Option Money
  description : Value

/-- The entry to be that a posting becomes. -/
def Posting.draft (posting : Posting) (id : Identifier) (createdAt : Timestamp) : EntryDraft where
  id := id
  account := posting.account
  debit := posting.debit
  credit := posting.credit
  group := posting.group
  operation := posting.operation
  description := posting.description
  createdAt := createdAt

def post (posting : Posting) : Work Entry := do
  let (id, createdAt) ← make .entry
  let entry ← insertAhead fun tables => tables.insertEntry (posting.draft id createdAt)
  keepGiven id [("description", posting.description)]
  return entry

/--
One page of a list.  Without a limit, or with a negative one, the page reaches
to the end; a negative offset counts as zero.
-/
def page {Row : Type} (limit : Option Int) (offset : Int) (rows : List Row) : List Row :=
  let rest := rows.drop offset.toNat
  match limit with
  | some limit => if limit < 0 then rest else rest.take limit.toNat
  | none => rest

/-- The integer that a value gives for the size or the start of a page; null gives none. -/
def pageInteger : Value → Work (Option Int)
  | .null => pure none
  | value => ofExcept ((value.integer.map some).mapError .mismatched)

/-- One page of the entries of an account, the newest first. -/
def history (account : Identifier) (limit offset : Value) : Work (List Entry) := do
  let limit ← pageInteger limit
  let offset ← pageInteger offset
  let tables ← view
  if limit.all isStorable && offset.all isStorable then
    return page limit (offset.getD 0) (tables.history account)
  else throw .integerTooLarge

/-- The entries of a group, the oldest first. -/
def entriesOfGroup (group : Identifier) : Work (List Entry) :=
  return (← view).entriesOfGroup group

/-- The balance of an account as its entries give it. -/
def calculatedBalance (account : Identifier) : Work Money := do
  let totals := (← view).totalsOf account
  ofExcept (totals.balance.mapError .mismatched)

/-- The balance of every account that has entries, as the entries give it. -/
def calculatedBalances : Work (List (Identifier × Money)) := do
  let groups := Totals.grouped (← view).entries
  ofExcept ((Totals.balances groups).mapError .mismatched)

/-- The member of a list at an index, which counts from the end when it is negative. -/
def member? {Row : Type} (rows : List Row) (index : Int) : Option Row :=
  let position := if index < 0 then index + rows.length else index
  if position < 0 then none else rows[position.toNat]?

/-- Revises an entry of a group in memory. -/
def reviseEntry (group : Identifier) (index : Value) (amendment : Amendment) : Work Unit := do
  let entries ← entriesOfGroup group
  let index ← ofExcept (index.index.mapError .mismatched)
  let entry ← orFail .indexOutOfRange (member? entries index)
  revise entry.id amendment

/-- Revises an entry of a group, and writes what waits to be written. -/
def changeEntry (group : Identifier) (index : Value) (amendment : Amendment) : Work Unit := do
  reviseEntry group index amendment
  flushWaiting

end Bookkeeping.Work
