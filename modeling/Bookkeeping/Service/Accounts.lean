import Bookkeeping.Unit.Queries
import Bookkeeping.Unit.Transaction

/-!
# Users and accounts

Registering users, opening accounts for them, and providing the settlement
account, which stands for the world outside of the ledger.  Opening an account
moves no money: a new account has a balance of zero.
-/

namespace Bookkeeping.Service

def createUser (surroundings : Surroundings) (email : Value) : Activity (Seen User) :=
  (do
    let user ← Work.createUser email
    Work.seen user.id user : Work (Seen User)).inUnit surroundings .null

/-- The currency of a new account, in capitals: the one given, or else the bank's own. -/
def currencyOf (policy : Policy) (currency : Value) : Except Failure String :=
  match if currency.isTruthy then currency else policy.defaultCurrency with
  | .text name => .ok (Text.upper name)
  | other => .error (.mismatched (.lacks other "upper"))

/-- The insertion of an account for an owner who exists, its currency in capitals. -/
def openingAccount
    (owner : Identifier)
    (name currency : Value) :
    Work (Seen Account) := do
  let _ ← Work.user owner
  let currency ← Work.ofExcept (currencyOf (← Work.policy) currency)
  let account ← Work.openAccount name (.text currency) (some owner) false
  Work.seen account.id account

def openAccount
    (surroundings : Surroundings)
    (owner : Identifier)
    (name currency : Value) :
    Activity (Seen Account) := do
  let seen ← (openingAccount owner name currency).inUnit surroundings .null
  Activity.announce (.accountOpened seen.row.id owner seen.row.currency)
  return seen

/-- The settlement account of the policy, inserted if there is none yet. -/
def seedingSettlement : Work (Seen Account) := do
  let policy ← Work.policy
  match ← Work.findSettlement policy.settlementName with
  | some settlement => return .plain settlement
  | none =>
    let settlement ←
      Work.openAccount policy.settlementName policy.defaultCurrency none true
    let seen ← Work.seen settlement.id settlement
    Work.announce (.settlementSeeded settlement.id (seen.shown "currency" settlement.currency))
    return seen

/-- Provides the settlement account. -/
def ensureSettlement (surroundings : Surroundings) : Activity (Seen Account) :=
  seedingSettlement.inUnit surroundings .null

def account (surroundings : Surroundings) (id : Identifier) : Activity Account :=
  (Work.account id false).inUnit surroundings .null

/-- The accounts of an owner, the newest first. -/
def accountsOf (surroundings : Surroundings) (owner : Identifier) : Activity (List Account) :=
  (Work.accountsOf owner).inUnit surroundings .null

end Bookkeeping.Service
