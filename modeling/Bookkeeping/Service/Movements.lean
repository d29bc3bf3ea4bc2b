import Bookkeeping.Amount
import Bookkeeping.Unit.Queries
import Bookkeeping.Unit.Transaction

/-!
# Deposits, withdrawals and transfers

Every movement of money is one unit of work with the same shape: two entries of
one group whose effects cancel each other, and the same two effects on the
stored balances.  A deposit and a withdrawal have the settlement account on the
other side; a transfer may not touch it.  A client's account is never drawn below
zero.
-/

namespace Bookkeeping.Service

/-- The description of an entry: the one given, or else the one that is usual. -/
def describe (description : Value) (usual : String) : Value :=
  if description.isTruthy then description else .text usual

/-- The posting by which a movement adds a positive or negative effect to an account. -/
def side
    (operation : Operation)
    (group account : Identifier)
    (effect : Money)
    (description : Value) :
    Work.Posting where
  account := account
  group := group
  operation := operation
  debit := some (max 0 (-effect))
  credit := some (max 0 effect)
  description := description

/--
Moves money between two accounts: the first one is affected by `effect` and the
second one by its opposite.  The answer is the identifier of the new group.
-/
def move
    (operation : Operation)
    (first second : Identifier)
    (effect : Money)
    (firstDescription secondDescription : Value) :
    Work Identifier := do
  let group ← Work.drawGroup
  let _ ← Work.post (side operation group first effect firstDescription)
  let _ ← Work.post (side operation group second (-effect) secondDescription)
  Work.moveBalance first effect
  Work.moveBalance second (-effect)
  return group

/-- Fails where the account is the bank's own. -/
def refuseSystem (account : Account) : Work Unit :=
  if account.isSystem then throw (.systemAccount account.id) else pure ()

/-- Fails where two accounts keep different currencies. -/
def requireCurrency (expected actual : String) : Work Unit :=
  if actual ≠ expected then throw (.currencyMismatch expected actual) else pure ()

/-- Fails where an account holds less than an amount. -/
def requireFunds (account : Account) (amount : Money) : Work Unit := do
  let available ← Work.comparedBalance account
  if available < amount then throw (.insufficientFunds account.id amount available)

/-- The settlement account and a client's account, fit to exchange money. -/
def counterparties (id : Identifier) : Work (Account × Account) := do
  let settlement ← Work.settlement (← Work.policy).settlementName true
  let account ← Work.account id true
  refuseSystem account
  requireCurrency settlement.currency account.currency
  return (settlement, account)

/--
Two accounts by locking reads.  They are locked in the order of their identifiers, whichever
of them is asked for first, so that two movements never wait for each other.
-/
def lockedPair (first second : Identifier) : Work (Account × Account) := do
  if first.number ≤ second.number then
    let firstAccount ← Work.account first true
    let secondAccount ← Work.account second true
    return (firstAccount, secondAccount)
  else
    let secondAccount ← Work.account second true
    let firstAccount ← Work.account first true
    return (firstAccount, secondAccount)

def depositing
    (id : Identifier)
    (amount : Money)
    (description : Value) :
    Work Identifier := do
  let (settlement, account) ← counterparties id
  move .deposit account.id settlement.id amount
    (describe description "External deposit")
    (.text ("Deposit to account " ++ account.id.text))

def withdrawing
    (id : Identifier)
    (amount : Money)
    (description : Value) :
    Work Identifier := do
  let (settlement, account) ← counterparties id
  requireFunds account amount
  move .withdrawal account.id settlement.id (-amount)
    (describe description "External withdrawal")
    (.text ("Withdrawal from " ++ account.id.text))

def transferring
    (sourceId destinationId : Identifier)
    (amount : Money)
    (description : Value) :
    Work Identifier := do
  refuseSystem (← Work.account sourceId false)
  refuseSystem (← Work.account destinationId false)
  let (source, destination) ← lockedPair sourceId destinationId
  requireCurrency source.currency destination.currency
  requireFunds source amount
  move .transfer source.id destination.id (-amount)
    (describe description ("Transfer to " ++ destination.id.text))
    (describe description ("Transfer from " ++ source.id.text))

/-- The amount that a value names. -/
def amountOf (value : Value) : Activity Money :=
  Activity.ofExcept (Amount.ofValue value)

/-- Brings money from outside into an account. -/
def deposit
    (surroundings : Surroundings)
    (account : Identifier)
    (amount : Value)
    (description : Value) :
    Activity Identifier := do
  let amount ← amountOf amount
  let group ← (depositing account amount description).inUnit surroundings .null
  Activity.announce (.depositCompleted group account amount)
  return group

/-- Takes money from an account to the outside. -/
def withdraw
    (surroundings : Surroundings)
    (account : Identifier)
    (amount : Value)
    (description : Value) :
    Activity Identifier := do
  let amount ← amountOf amount
  let group ← (withdrawing account amount description).inUnit surroundings .null
  Activity.announce (.withdrawalCompleted group account amount)
  return group

/-- Moves money from one client's account to another one. -/
def transfer
    (surroundings : Surroundings)
    (source destination : Identifier)
    (amount : Value)
    (description : Value) :
    Activity Identifier := do
  let amount ← amountOf amount
  if source = destination then .refuse (.sameAccountTransfer source)
  else
    let group ← (transferring source destination amount description).inUnit surroundings .null
    Activity.announce (.transferCompleted group source destination amount)
    return group

end Bookkeeping.Service
