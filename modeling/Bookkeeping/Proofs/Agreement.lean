import Bookkeeping.Proofs.Intentions
import Bookkeeping.Proofs.Outcomes

/-!
# Reconciling everything, or one account after the other

All accounts are reconciled by one look at the ledger, which sums the entries of all of them
in groups.  After any run, whatever its steps are, that look gives each account the very
reconciliation that is given when the account is asked for by itself: one for each account,
the oldest first, and with nothing calculated where there are no entries.

A balance or a total that is too large to be compared makes both ways fail, and the look at
all accounts fails already where one account by itself does.
-/

namespace Bookkeeping

open Session

/-! ## What looks come to -/

namespace Work

variable {bank : Bank}

theorem remember_rows_comes
    {rows : List Account}
    (present : ∀ row ∈ rows, bank.tables.account? row.id = some row) :
    ComesTo bank (rows.mapM remember) (pure rows) := by
  induction rows with
  | nil => exact .refl _
  | cons row rest hypothesis =>
      rw [List.mapM_cons]
      have first : ComesTo bank (remember row) (pure row) :=
        read_present (present row List.mem_cons_self) false
      exact first.after
        ((hypothesis fun other member => present other (List.mem_cons_of_mem _ member)).after
          (.refl _))

theorem accounts_comes (sound : bank.Sound) :
    ComesTo bank accounts (pure bank.tables.accountsByAge) := by
  refine view_comes.after (remember_rows_comes ?_)
  intro row member
  exact sound.account?_of_mem ((sorted_perm _ _).mem_iff.mp member)

/-- The totals of one account are summed if they can be compared, and else refused. -/
theorem calculatedBalance_comes
    {id : Identifier}
    (comparable : (bank.tables.totalsOf id).AreComparable) :
    ComesTo bank (calculatedBalance id) (pure (bank.tables.calculatedBalance id)) := by
  refine view_comes.after ?_
  simp only [Totals.balance_eq, if_pos comparable]
  exact .refl _

theorem calculatedBalance_fails
    {id : Identifier}
    (large : ¬(bank.tables.totalsOf id).AreComparable) :
    ComesTo bank (calculatedBalance id) (throw (.mismatched .decimalOutOfRange)) := by
  refine view_comes.after ?_
  simp only [Totals.balance_eq, if_neg large]
  exact .refl _

/-- The groups of all accounts are summed if all of them can be compared, and else refused. -/
theorem calculatedBalances_comes
    (comparable : ∀ group ∈ Totals.grouped bank.tables.entries, group.2.AreComparable) :
    ComesTo bank calculatedBalances
      (pure ((Totals.grouped bank.tables.entries).map fun group =>
        (group.1, group.2.credit - group.2.debit))) := by
  refine view_comes.after ?_
  simp only [Totals.balances_eq, if_pos comparable]
  exact .refl _

theorem calculatedBalances_fails
    (large : ¬∀ group ∈ Totals.grouped bank.tables.entries, group.2.AreComparable) :
    ComesTo bank calculatedBalances (throw (.mismatched .decimalOutOfRange)) := by
  refine view_comes.after ?_
  simp only [Totals.balances_eq, if_neg large]
  exact .refl _

end Work

namespace Tables

theorem calculated_of_no_entries
    {tables : Tables}
    {account : Account}
    (nothing : tables.entriesOfAccount account.id = []) :
    (tables.reconciled account).calculated = 0 := by
  rw [reconciled, calculatedBalance, totalsOf_of_no_entries nothing]
  rfl

end Tables

/-! ## What reconciliations end in -/

namespace Service

open Work

variable {desk : Desk} {account : Account}

section Bodies

variable {bank : Bank}

theorem reconciling_comes
    (present : bank.tables.account? account.id = some account)
    (reconcilable : bank.tables.IsReconcilable account) :
    ComesTo bank (reconciling account.id) (pure (bank.tables.reconciled account)) :=
  (account_present present false).after <|
    (comparedBalance_comes reconcilable.stored).after <|
      (calculatedBalance_comes reconcilable.totals).after (.refl _)

theorem reconciling_fails
    (present : bank.tables.account? account.id = some account)
    (large : ¬bank.tables.IsReconcilable account) :
    ComesTo bank (reconciling account.id) (throw (.mismatched .decimalOutOfRange)) := by
  refine (account_present present false).after ?_
  by_cases stored : account.balance.IsComparable
  · refine (comparedBalance_comes stored).after ?_
    exact (calculatedBalance_fails fun totals => large ⟨stored, totals⟩).fails _
  · exact (comparedBalance_fails stored).fails _

/-- What each account is compared with among all groups is what is summed for it alone. -/
theorem reconcilingAll_comes
    (sound : bank.Sound)
    (constrained : bank.tables.Constrained)
    (reconcilable : ∀ account ∈ bank.tables.accounts, bank.tables.IsReconcilable account) :
    ComesTo bank reconcilingAll
      (pure (bank.tables.accountsByAge.map bank.tables.reconciled)) := by
  rcases (Tables.reconcilable_iff constrained).mp reconcilable with ⟨totals, stored⟩
  refine (accounts_comes sound).after ((calculatedBalances_comes totals).after ?_)
  intro before sees
  have comparable : ∀ account ∈ bank.tables.accountsByAge, account.balance.IsComparable :=
    fun account member => stored account ((sorted_perm _ _).mem_iff.mp member)
  refine ⟨before, sees, ?_⟩
  rw [mapM_reconciledBy, if_pos comparable]
  simp only [Tables.lookup_balances]
  rfl

theorem reconcilingAll_fails
    (sound : bank.Sound)
    (constrained : bank.tables.Constrained)
    (large : ¬∀ account ∈ bank.tables.accounts, bank.tables.IsReconcilable account) :
    ComesTo bank reconcilingAll (throw (.mismatched .decimalOutOfRange)) := by
  rw [Tables.reconcilable_iff constrained] at large
  refine (accounts_comes sound).after ?_
  by_cases totals : ∀ group ∈ Totals.grouped bank.tables.entries, group.2.AreComparable
  · refine (calculatedBalances_comes totals).after ?_
    intro before sees
    have beyond : ¬∀ account ∈ bank.tables.accountsByAge, account.balance.IsComparable :=
      fun stored =>
        large ⟨totals, fun account member => stored account ((sorted_perm _ _).mem_iff.mpr member)⟩
    refine ⟨before, sees, ?_⟩
    rw [mapM_reconciledBy, if_neg beyond]
    rfl
  · exact (calculatedBalances_fails totals).fails _

end Bodies

/-- Asking for an account by itself ends in its reconciliation. -/
theorem reconcile_reads
    (known : Isolation.isUsable desk.bank.isolation = true)
    (present : desk.bank.tables.account? account.id = some account)
    (reconcilable : desk.bank.tables.IsReconcilable account) :
    (reconcile .calm account.id).EndsIn desk (.ok (desk.bank.tables.reconciled account))
      desk.bank :=
  (inUnit_reads known (reconciling_comes present reconcilable)).told _

theorem reconcileAll_told
    {outcome : Except Failure (List Reconciliation)}
    (ends : (reconcilingAll.inUnit .calm .null).EndsIn desk outcome desk.bank) :
    (reconcileAll .calm).EndsIn desk outcome desk.bank := by
  refine ends.followed ?_
  intro reconciliations later
  rw [Activity.forM_announce]
  exact ⟨_, rfl, rfl⟩

/-- Asking for all accounts ends in the reconciliation of each, the oldest first. -/
theorem reconcileAll_reads
    (sound : desk.bank.Sound)
    (constrained : desk.bank.tables.Constrained)
    (known : Isolation.isUsable desk.bank.isolation = true)
    (reconcilable :
      ∀ account ∈ desk.bank.tables.accounts, desk.bank.tables.IsReconcilable account) :
    (reconcileAll .calm).EndsIn desk
      (.ok (desk.bank.tables.accountsByAge.map desk.bank.tables.reconciled)) desk.bank :=
  reconcileAll_told (inUnit_reads known (reconcilingAll_comes sound constrained reconcilable))

end Service

namespace Opening

/--
After any run all accounts are reconciled as each of them is by itself: there is one
reconciliation for each account, in the order in which the accounts were made, and it is the
one that is answered when the account is asked for.  Accounts without entries have nothing
calculated.  If the balance or the totals of an account are too large to be compared, all
accounts fail to be reconciled as this one does.  Where no unit of work can be opened, both ways
fail alike.
-/
theorem reconciliations_agree
    (settings : Settings)
    (isMigrated : Bool)
    (steps : List Step) :
    let desk := after settings isMigrated steps
    let report := desk.bank.tables.reconciled
    let isUsable := Isolation.isUsable (settings.value .isolationLevel)
    (isUsable = true →
      (∀ account ∈ desk.bank.tables.accounts, desk.bank.tables.IsReconcilable account) →
      ∃ accounts : List Account,
        accounts.Perm desk.bank.tables.accounts ∧
          (accounts.map Account.id).Nodup ∧
          (accounts.Pairwise fun earlier later =>
            earlier.createdAt.microseconds ≤ later.createdAt.microseconds) ∧
          (Service.reconcileAll .calm).EndsIn desk (.ok (accounts.map report)) desk.bank ∧
          ∀ account ∈ accounts,
            (report account).account = account.id ∧
              (Service.reconcile .calm account.id).EndsIn desk (.ok (report account))
                desk.bank ∧
              (desk.bank.tables.entriesOfAccount account.id = [] →
                (report account).calculated = 0)) ∧
      (isUsable = true →
        ∀ account ∈ desk.bank.tables.accounts, ¬desk.bank.tables.IsReconcilable account →
          (Service.reconcileAll .calm).EndsIn desk (.error (.mismatched .decimalOutOfRange))
              desk.bank ∧
            (Service.reconcile .calm account.id).EndsIn desk
              (.error (.mismatched .decimalOutOfRange)) desk.bank) ∧
      ∀ failure,
        Isolation.Refused (settings.value .isolationLevel) failure →
          (Service.reconcileAll .calm).EndsIn desk (.error failure) desk.bank ∧
            ∀ id, (Service.reconcile .calm id).EndsIn desk (.error failure) desk.bank := by
  intro desk report isUsable
  rcases after_sound settings isMigrated steps with ⟨sound, isolation⟩
  change desk.bank.Sound at sound
  change desk.bank.isolation = _ at isolation
  have constrained : desk.bank.tables.Constrained :=
    Desk.after_constrained (bank_sound settings isMigrated) (bank_constrained settings isMigrated)
      steps
  simp only [isUsable, ← isolation]
  refine ⟨?_, ?_, ?_⟩
  · intro known reconcilable
    have rearranged : desk.bank.tables.accountsByAge.Perm desk.bank.tables.accounts :=
      sorted_perm _ _
    refine ⟨desk.bank.tables.accountsByAge, rearranged, ?_, oldestFirst_pairwise _ _,
      Service.reconcileAll_reads sound constrained known reconcilable, ?_⟩
    · exact (rearranged.map Account.id).nodup_iff.mpr sound.distinct
    · intro account member
      have kept := rearranged.mem_iff.mp member
      have present := sound.account?_of_mem kept
      exact
        ⟨rfl, Service.reconcile_reads known present (reconcilable account kept),
          Tables.calculated_of_no_entries⟩
  · intro known account member large
    have notAll : ¬∀ account ∈ desk.bank.tables.accounts,
        desk.bank.tables.IsReconcilable account := fun all => large (all account member)
    have present := sound.account?_of_mem member
    constructor
    · exact
        Service.reconcileAll_told
          (Work.inUnit_refused known (Service.reconcilingAll_fails sound constrained notAll))
    · exact (Work.inUnit_refused known (Service.reconciling_fails present large)).told _
  · intro failure refused
    constructor
    · exact Service.reconcileAll_told (Work.inUnit_unopened refused _)
    · intro id
      exact (Work.inUnit_unopened refused _).told _

end Opening

namespace Sample

/-- The rule at work, with a balance that has drifted: the account is among all of them. -/
theorem reconciliations_of_rent :
    ∃ reconciliations,
      (Service.reconcileAll .calm).EndsIn (Opening.after settings true rawSteps)
          (.ok reconciliations) (Opening.after settings true rawSteps).bank ∧
        ∃ reconciliation ∈ reconciliations,
          reconciliation.account = rent ∧
            (Service.reconcile .calm rent).EndsIn (Opening.after settings true rawSteps)
              (.ok reconciliation) (Opening.after settings true rawSteps).bank := by
  have opened :
      ∃ account ∈ (Opening.after settings true rawSteps).bank.tables.accounts,
        account.id = rent := by
    decide +kernel
  rcases opened with ⟨account, member, same⟩
  have reconcilable :
      ∀ account ∈ (Opening.after settings true rawSteps).bank.tables.accounts,
        account.balance.IsComparable ∧
          ((Opening.after settings true rawSteps).bank.tables.totalsOf
            account.id).AreComparable := by
    decide +kernel
  rcases (Opening.reconciliations_agree settings true rawSteps).1 rfl fun account member =>
      ⟨(reconcilable account member).1, (reconcilable account member).2⟩ with
    ⟨accounts, rearranged, -, -, all, each⟩
  rcases each account (rearranged.mem_iff.mpr member) with ⟨sameAccount, alone, -⟩
  rw [same] at sameAccount alone
  exact ⟨_, all, _, List.mem_map_of_mem (rearranged.mem_iff.mpr member), sameAccount, alone⟩

end Sample

end Bookkeeping
