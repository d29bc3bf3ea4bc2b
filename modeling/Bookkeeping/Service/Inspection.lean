import Bookkeeping.Unit.Queries
import Bookkeeping.Unit.Transaction
import Bookkeeping.Value.Comparison

/-!
# Inspecting the ledger

Reading the history of an account or the entries of a group, and reconciling
stored balances with the entries that should explain them.  A mismatch is put on
record and answered, never corrected.
-/

namespace Bookkeeping

/-- The stored balance of an account beside the one that its entries give. -/
structure Reconciliation where
  account : Identifier
  stored : Money
  calculated : Money
deriving DecidableEq

namespace Reconciliation

/-- Whether the stored balance is the calculated one. -/
def isMatched (reconciliation : Reconciliation) : Bool :=
  reconciliation.stored == reconciliation.calculated

/--
What is stored beyond the calculated balance.  Decimal subtraction gives exactly this as long
as it has no more digits than are kept of a number.
-/
def difference (reconciliation : Reconciliation) : Money :=
  reconciliation.stored - reconciliation.calculated

/-- What a reconciliation leaves on record. -/
def announcement (reconciliation : Reconciliation) : Announcement :=
  if reconciliation.isMatched then .balanceConfirmed reconciliation.account reconciliation.stored
  else
    .balanceMismatch reconciliation.account reconciliation.stored reconciliation.calculated

end Reconciliation

namespace Service

def reconciling (id : Identifier) : Work Reconciliation := do
  let account ← Work.account id false
  let stored ← Work.comparedBalance account
  let calculated ← Work.calculatedBalance id
  return ⟨id, stored, calculated⟩

def reconcile (surroundings : Surroundings) (id : Identifier) : Activity Reconciliation := do
  let reconciliation ← (reconciling id).inUnit surroundings .null
  Activity.announce reconciliation.announcement
  return reconciliation

/-- The reconciliation of an account by a list of calculated balances; none means zero. -/
def reconciledBy (calculated : List (Identifier × Money)) (account : Account) :
    Work Reconciliation := do
  let stored ← Work.comparedBalance account
  return ⟨account.id, stored, (calculated.lookup account.id).getD 0⟩

/-- The reconciliation of all accounts by one look at the ledger. -/
def reconcilingAll : Work (List Reconciliation) := do
  let accounts ← Work.accounts
  let calculated ← Work.calculatedBalances
  accounts.mapM (reconciledBy calculated)

/-- Reconciles every account, the oldest first. -/
def reconcileAll (surroundings : Surroundings) : Activity (List Reconciliation) := do
  let reconciliations ← reconcilingAll.inUnit surroundings .null
  reconciliations.forM fun reconciliation => Activity.announce reconciliation.announcement
  return reconciliations

/-- Whether a limit leaves the size of a page open: it is missing, or not positive. -/
def isOpenLimit : Value → Except Mismatch Bool
  | .null => .ok true
  | limit => limit.compared .atMost (.int 0)

/-- The size of a page: what is asked for, or else the usual size, and never too much. -/
def pageSize (policy : Policy) (limit : Value) : Except Mismatch Value := do
  let wanted := if ← isOpenLimit limit then policy.defaultPageSize else limit
  wanted.smaller policy.maxPageSize

/-- The start of a page: what is asked for, and never before the beginning. -/
def pageStart (offset : Value) : Except Mismatch Value :=
  offset.larger (.int 0)

/-- One page of the entries of an account that exists. -/
def readingHistory (id : Identifier) (limit offset : Value) : Work (List Entry) := do
  let _ ← Work.account id false
  Work.history id limit offset

/-- One page of the history of an account, the newest entry first. -/
def history
    (surroundings : Surroundings)
    (id : Identifier)
    (limit offset : Value) :
    Activity (List Entry) := do
  let policy ← Activity.policy
  let limit ← Activity.ofExcept ((pageSize policy limit).mapError .mismatched)
  let offset ← Activity.ofExcept ((pageStart offset).mapError .mismatched)
  (readingHistory id limit offset).inUnit surroundings .null

/-- The entries of a group; a group without entries does not exist. -/
def entriesOfGroup (surroundings : Surroundings) (group : Identifier) :
    Activity (List Entry) := do
  let entries ← (Work.entriesOfGroup group).inUnit surroundings .null
  if entries.isEmpty then .refuse (.transactionNotFound group) else return entries

/-- Asks the database for an answer; it has none while someone holds the lock. -/
def ping (surroundings : Surroundings) : Activity Unit := fun desk =>
  if surroundings.locked then .error .locked desk else .ok () desk

end Service

end Bookkeeping
