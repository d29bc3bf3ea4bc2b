import Bookkeeping.Proofs.Primitives
import Mathlib.Algebra.BigOperators.Group.List.Basic
import Mathlib.Tactic.Linarith

/-!
# Drift

The drift of an account is what it stores beyond the balance that its entries give.
Each write adds something to it that depends on the write alone: a movement of the
balance adds the movement, an entry takes away what it adds to the calculated balance,
and a new account or user changes nothing.  So writes add to the drift the sum of what
each of them adds.
-/

namespace Bookkeeping

/-! ## The drift of an account -/

theorem Money.total_eq_sum (amounts : List Money) : Money.total amounts = amounts.sum :=
  rfl

namespace Entry

/-- What entries add together to the calculated balance of an account. -/
def effectOf (entries : List Entry) (account : Identifier) : Money :=
  (entries.map fun entry => if entry.account = account then entry.effect else 0).sum

@[simp]
theorem effectOf_nil (account : Identifier) : effectOf [] account = 0 :=
  rfl

@[simp]
theorem effectOf_cons (entry : Entry) (rest : List Entry) (account : Identifier) :
    effectOf (entry :: rest) account =
      (if entry.account = account then entry.effect else 0) + effectOf rest account := by
  simp [effectOf]

/-- What entries add is what they credit to the account less what they debit to it. -/
theorem effectOf_eq (entries : List Entry) (account : Identifier) :
    effectOf entries account =
      Money.total ((entries.filter fun entry => entry.account = account).map credit) -
        Money.total ((entries.filter fun entry => entry.account = account).map debit) := by
  simp only [Money.total_eq_sum]
  induction entries with
  | nil => rfl
  | cons entry rest hypothesis =>
      rw [effectOf_cons, hypothesis]
      by_cases touched : entry.account = account
      · simp only [touched, List.filter_cons, decide_true, if_true, List.map_cons, List.sum_cons,
          effect]
        linarith
      · simp [touched]

end Entry

namespace Tables

/-- The stored balance of an account; where there is none, nothing is stored. -/
def storedBalance (tables : Tables) (account : Identifier) : Money :=
  ((tables.account? account).map Account.balance).getD 0

/-- The balance of an account as its entries give it. -/
def calculatedBalance (tables : Tables) (account : Identifier) : Money :=
  (tables.totalsOf account).credit - (tables.totalsOf account).debit

/-- What an account stores beyond the balance that its entries give. -/
def drift (tables : Tables) (account : Identifier) : Money :=
  tables.storedBalance account - tables.calculatedBalance account

/-- Entries that are appended add to the calculated balance of an account. -/
theorem calculatedBalance_append
    {earlier later : Tables}
    {rows : List Entry}
    (appended : later.entries = earlier.entries ++ rows)
    (account : Identifier) :
    later.calculatedBalance account =
      earlier.calculatedBalance account + Entry.effectOf rows account := by
  simp only [calculatedBalance, totalsOf, Totals.ofEntries, entriesOfAccount, appended,
    Entry.effectOf_eq, Money.total_eq_sum, List.filter_append, List.map_append, List.sum_append]
  linarith

/-- An entry adds its effect to the calculated balance of its account. -/
theorem calculatedBalance_entry (tables : Tables) (row : Entry) (account : Identifier) :
    ((Write.entry row).apply tables).calculatedBalance account =
      tables.calculatedBalance account + if row.account = account then row.effect else 0 := by
  have appended : ((Write.entry row).apply tables).entries = tables.entries ++ [row] := rfl
  rw [calculatedBalance_append appended, Entry.effectOf_cons, Entry.effectOf_nil, Int.add_zero]

/-- A movement of the balance of an account that exists adds to what it stores. -/
theorem storedBalance_balance
    {tables : Tables}
    {id : Identifier}
    {delta : Money}
    (fits : (Write.balance id delta).Fits tables)
    (account : Identifier) :
    ((Write.balance id delta).apply tables).storedBalance account =
      tables.storedBalance account + if id = account then delta else 0 := by
  rw [storedBalance, storedBalance, Write.account?_balance]
  cases found : tables.account? account with
  | none =>
      have different : id ≠ account := by
        rintro rfl
        rw [Write.Fits, found] at fits
        cases fits
      simp [different]
  | some row =>
      have sameId := (account?_eq_some found).2
      simp [movedAccount_eq, sameId, eq_comm]

/-- A new account stores nothing, like an account that does not exist. -/
theorem storedBalance_account
    {tables : Tables}
    {row : Account}
    (fits : (Write.account row).Fits tables)
    (account : Identifier) :
    ((Write.account row).apply tables).storedBalance account = tables.storedBalance account := by
  rw [storedBalance, storedBalance, Write.account?_account]
  cases tables.account? account with
  | some found => rfl
  | none =>
      by_cases same : row.id = account
      · simp [same, fits.2.2]
      · simp [same]

end Tables

/-! ## What writes add to it -/

namespace Write

/-- What a write adds to the drift of an account. -/
def drift (account : Identifier) : Write → Money
  | .user _ | .account _ => 0
  | .entry row => if row.account = account then -row.effect else 0
  | .balance id delta => if id = account then delta else 0

theorem drift_apply
    {write : Write}
    {tables : Tables}
    (fits : write.Fits tables)
    (account : Identifier) :
    (write.apply tables).drift account = tables.drift account + write.drift account := by
  cases write with
  | user row => exact (Int.add_zero _).symm
  | account row =>
      rw [Tables.drift, Tables.storedBalance_account fits]
      exact (Int.add_zero _).symm
  | entry row =>
      rw [Tables.drift, Tables.calculatedBalance_entry, drift, Tables.drift]
      change tables.storedBalance account - _ = _
      split
      · linarith
      · linarith
  | balance id delta =>
      rw [Tables.drift, Tables.storedBalance_balance fits, drift, Tables.drift]
      change _ - tables.calculatedBalance account = _
      linarith

/-- What writes add together to the drift of an account. -/
def driftOf (writes : List Write) (account : Identifier) : Money :=
  (writes.map (drift account)).sum

@[simp]
theorem driftOf_nil (account : Identifier) : driftOf [] account = 0 :=
  rfl

@[simp]
theorem driftOf_cons (write : Write) (rest : List Write) (account : Identifier) :
    driftOf (write :: rest) account = write.drift account + driftOf rest account := by
  simp [driftOf]

@[simp]
theorem driftOf_append (early late : List Write) (account : Identifier) :
    driftOf (early ++ late) account = driftOf early account + driftOf late account := by
  simp [driftOf]

/-- Users who are inserted along with other rows add nothing. -/
@[simp]
theorem driftOf_users (users : List User) (account : Identifier) :
    driftOf (users.map .user) account = 0 := by
  induction users with
  | nil => rfl
  | cons user rest hypothesis =>
      rw [List.map_cons, driftOf_cons, hypothesis]
      rfl

end Write

/-- Writes add to the drift of every account what they add together. -/
theorem Written.drift
    {writes : List Write}
    {before after : Tables}
    (written : Written writes before after)
    (account : Identifier) :
    after.drift account = before.drift account + Write.driftOf writes account := by
  induction written with
  | nil tables => exact (Int.add_zero _).symm
  | @cons write rest before after fits others hypothesis =>
      rw [hypothesis, Write.drift_apply fits, Write.driftOf_cons, Int.add_assoc]

end Bookkeeping
