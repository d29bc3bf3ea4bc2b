import Bookkeeping.Fixed
import Bookkeeping.Ledger.Order
import Bookkeeping.Ledger.Row

/-!
# Totals of entries

What entries come to on either side.  The totals of one account are the two sums
over its entries.  The totals of all accounts come from one pass over all entries,
which counts each entry in the group of its account.
-/

namespace Bookkeeping

/-- The sum of the credits of some entries and the sum of their debits. -/
structure Totals where
  credit : Money
  debit : Money
deriving DecidableEq

namespace Totals

/-- The totals of no entries. -/
def zero : Totals where
  credit := 0
  debit := 0

/-- The totals of a list of entries. -/
def ofEntries (entries : List Entry) : Totals where
  credit := Money.total (entries.map Entry.credit)
  debit := Money.total (entries.map Entry.debit)

/-- The totals with one more entry. -/
def add (totals : Totals) (entry : Entry) : Totals where
  credit := totals.credit + entry.credit
  debit := totals.debit + entry.debit

/-- The balance that totals give; each of the two sums is brought to four places first. -/
def balance (totals : Totals) : Except Mismatch Money := do
  return (← totals.credit.fixed) - (← totals.debit.fixed)

/-! ## Groups -/

/-- Groups with one more entry, in the group of its account or as the first of a new group. -/
def counted (groups : List (Identifier × Totals)) (entry : Entry) :
    List (Identifier × Totals) :=
  match groups with
  | [] => [(entry.account, zero.add entry)]
  | (account, totals) :: rest =>
    if account = entry.account then (account, totals.add entry) :: rest
    else (account, totals) :: counted rest entry

/-- The totals of every account that entries belong to, in the order of the identifiers. -/
def grouped (entries : List Entry) : List (Identifier × Totals) :=
  sorted (fun left right => left.1.number < right.1.number) (entries.foldl counted [])

/-- The balances that the totals of groups give. -/
def balances (groups : List (Identifier × Totals)) :
    Except Mismatch (List (Identifier × Money)) :=
  groups.mapM fun (account, totals) => do return (account, ← totals.balance)

end Totals

end Bookkeeping
