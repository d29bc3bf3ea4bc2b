import Bookkeeping.Proofs.Integrity
import Bookkeeping.Proofs.Intentions
import Bookkeeping.Proofs.Totals
import Mathlib.Data.List.Basic

/-!
# Reconciliation

A reconciliation reports the stored balance of an account beside the calculated one,
and so the drift of the account.  Over any run, whatever its steps are and however
they end, the drift of an account is what the operations on the store inject that
the run has committed.  Calls and requests never add to it, on any of their paths;
without such operations every balance is the one that the entries give, and every
reconciliation matches.
-/

namespace Bookkeeping

open Session Work

/-! ## What is reconciled -/

namespace Tables

/-- What a reconciliation of an account reports. -/
def reconciled (tables : Tables) (account : Account) : Reconciliation where
  account := account.id
  stored := account.balance
  calculated := tables.calculatedBalance account.id

/-- A reconciliation reports the drift of the account. -/
theorem difference_reconciled
    {tables : Tables}
    {account : Account}
    (found : tables.account? account.id = some account) :
    (tables.reconciled account).difference = tables.drift account.id := by
  rw [drift, storedBalance, found]
  rfl

/-- No number that the reconciliation of an account reads is too large to be compared. -/
structure IsReconcilable (tables : Tables) (account : Account) : Prop where
  stored : account.balance.IsComparable
  totals : (tables.totalsOf account.id).AreComparable

/-- Where every entry belongs to an account, the groups are no more than the accounts. -/
theorem reconcilable_iff {tables : Tables} (constrained : tables.Constrained) :
    (∀ account ∈ tables.accounts, tables.IsReconcilable account) ↔
      (∀ group ∈ Totals.grouped tables.entries, group.2.AreComparable) ∧
        ∀ account ∈ tables.accounts, account.balance.IsComparable := by
  rw [groups_comparable_iff]
  constructor
  · intro all
    refine ⟨?_, fun account member => (all account member).stored⟩
    intro id
    by_cases nothing : tables.entriesOfAccount id = []
    · rw [totalsOf_of_no_entries nothing]
      exact ⟨by decide, by decide⟩
    · rcases List.exists_mem_of_ne_nil _ nothing with ⟨entry, member⟩
      rcases List.mem_filter.mp member with ⟨posted, own⟩
      rcases constrained.booked entry posted with ⟨account, present, same⟩
      rw [← of_decide_eq_true own, ← same]
      exact (all account present).totals
  · rintro ⟨totals, stored⟩ account member
    exact ⟨stored account member, totals account.id⟩

end Tables

namespace Reconciliation

theorem isMatched_iff (reconciliation : Reconciliation) :
    reconciliation.isMatched = true ↔ reconciliation.difference = 0 := by
  rw [isMatched, difference, beq_iff_eq, Int.sub_eq_zero]

end Reconciliation

/-! ## What is summed, and what is compared -/

namespace Work

variable {before after : Session} {tables : Tables}

end Work

namespace Service

/-- Accounts are compared one after the other, up to one whose balance is too large. -/
theorem mapM_reconciledBy
    (calculated : List (Identifier × Money))
    (accounts : List Account)
    (session : Session) :
    accounts.mapM (reconciledBy calculated) session =
      if ∀ account ∈ accounts, account.balance.IsComparable then
        .ok (accounts.map fun account =>
          ⟨account.id, account.balance, (calculated.lookup account.id).getD 0⟩) session
      else .error (.mismatched .decimalOutOfRange) session := by
  induction accounts with
  | nil => rfl
  | cons account rest hypothesis =>
      rw [List.mapM_cons]
      by_cases comparable : account.balance.IsComparable
      · have compared :
            reconciledBy calculated account session =
              .ok ⟨account.id, account.balance, (calculated.lookup account.id).getD 0⟩ session :=
          sequence_ok (comparedBalance_answers comparable) rfl
        rw [sequence_after compared]
        by_cases others : ∀ account ∈ rest, account.balance.IsComparable
        · rw [if_pos others] at hypothesis
          have all : ∀ other ∈ account :: rest, other.balance.IsComparable :=
            List.forall_mem_cons.mpr ⟨comparable, others⟩
          rw [sequence_after hypothesis, if_pos all]
          rfl
        · have notAll : ¬∀ other ∈ account :: rest, other.balance.IsComparable :=
            fun all => others fun other member => all other (List.mem_cons_of_mem _ member)
          rw [if_neg others] at hypothesis
          rw [if_neg notAll]
          exact sequence_error_iff.mpr (Or.inl hypothesis)
      · have notAll : ¬∀ other ∈ account :: rest, other.balance.IsComparable :=
          fun all => comparable (all account List.mem_cons_self)
        rw [if_neg notAll]
        refine sequence_error_iff.mpr (Or.inl ?_)
        exact sequence_error_iff.mpr (Or.inl (comparedBalance_refuses comparable))

end Service

/-! ## Reconciling one account -/

namespace Service

variable {before after : Session} {surroundings : Surroundings} {desk later : Desk}

end Service

/-! ## Every run -/

namespace StoreOperation

/-- Whether an operation moves a balance or posts an entry, which services only do together. -/
def isRaw : StoreOperation → Bool
  | .moveBalance _ _ | .post _ _ _ _ _ _ => true
  | _ => false

/-- Operations that are not raw inject nothing. -/
theorem injected_eq_zero
    {operations : List StoreOperation}
    (gentle : ∀ operation ∈ operations, operation.isRaw = false)
    (account : Identifier) :
    injected operations account = 0 := by
  induction operations with
  | nil => rfl
  | cons operation rest hypothesis =>
      have first : injected [operation] account = 0 := by
        have isGentle := gentle operation List.mem_cons_self
        cases operation with
        | moveBalance id delta => cases isGentle
        | post id group kind debit credit description => cases isGentle
        | _ => rfl
      rw [← List.singleton_append, injected_append, first, Int.zero_add]
      exact hypothesis fun other member => gentle other (List.mem_cons_of_mem _ member)

end StoreOperation

namespace Opening

variable (settings : Settings) (isMigrated : Bool)

/-- A bank opens without entries and without money. -/
theorem bank_drift (account : Identifier) :
    (bank settings isMigrated).tables.drift account = 0 := by
  cases isMigrated with
  | false => rfl
  | true =>
      have nothing : (bank settings true).tables.storedBalance account = 0 := by
        rw [Tables.storedBalance]
        cases found : (bank settings true).tables.account? account with
        | none => rfl
        | some row =>
            rw [List.mem_singleton.mp (Tables.account?_eq_some found).1]
            rfl
      rw [Tables.drift, nothing]
      rfl

/-- After any run a bank is sound, and asks for the level of isolation that it opened with. -/
theorem after_sound (steps : List Step) :
    (after settings isMigrated steps).bank.Sound ∧
      (after settings isMigrated steps).bank.isolation = settings.value .isolationLevel := by
  have start : (desk (bank settings isMigrated)).bank.Sound := bank_sound settings isMigrated
  rcases Desk.after_injects (desk (bank settings isMigrated)) steps start with
    ⟨writes, progress, -, -⟩
  exact ⟨progress.sound start, progress.isolation⟩

/-- After any run the drift of an account is what was injected into it. -/
theorem drift_after (steps : List Step) (account : Identifier) :
    (after settings isMigrated steps).bank.tables.drift account =
      StoreOperation.injected ((desk (bank settings isMigrated)).operated steps) account := by
  have start : (desk (bank settings isMigrated)).bank.Sound := bank_sound settings isMigrated
  rcases Desk.after_injects (desk (bank settings isMigrated)) steps start with
    ⟨writes, progress, sums, -⟩
  have drifts := progress.written.drift account
  rw [sums] at drifts
  change _ = (bank settings isMigrated).tables.drift account + _ at drifts
  rw [bank_drift, Int.zero_add] at drifts
  exact drifts

/-- After any run the difference that is reported is what was injected. -/
theorem difference_after
    (steps : List Step)
    {account : Account}
    (found :
      (after settings isMigrated steps).bank.tables.account? account.id = some account) :
    ((after settings isMigrated steps).bank.tables.reconciled account).difference =
      StoreOperation.injected ((desk (bank settings isMigrated)).operated steps) account.id := by
  rw [Tables.difference_reconciled found]
  exact drift_after settings isMigrated steps account.id

/-- After a run that committed no raw operation every account is as its entries give it. -/
theorem isMatched_after
    {steps : List Step}
    (gentle :
      ∀ operation ∈ (desk (bank settings isMigrated)).operated steps, operation.isRaw = false)
    {account : Account}
    (found :
      (after settings isMigrated steps).bank.tables.account? account.id = some account) :
    ((after settings isMigrated steps).bank.tables.reconciled account).isMatched = true := by
  rw [Reconciliation.isMatched_iff, difference_after settings isMigrated steps found,
    StoreOperation.injected_eq_zero gentle]

end Opening

namespace Sample

/--
The sample, with operations on the store between its steps: a balance that is moved,
an entry that is posted beside an operation that fails, and a movement rolled back.
-/
def rawSteps : List Step :=
  [.store (.moveBalance savings (.finite false 1 0)) false] ++ steps ++
    [.store (.moveBalance savings (.finite false 75000 (-4))) false,
      .unit .null none
        [.store (.post rent (.drawn .group 9) (.text "deposit") (.finite false 0 0)
          (.finite false 25 (-1)) .null) false,
          .call (.deposit rent (.text "1") .null),
          .store (.moveBalance dollars (.notANumber false false 0)) true],
      .unit .null (some .indexOutOfRange)
        [.store (.moveBalance rent (.finite false 10000 (-4))) false]]

end Sample

end Bookkeeping
