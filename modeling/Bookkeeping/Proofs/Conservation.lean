import Bookkeeping.Proofs.Run
import Mathlib.Algebra.BigOperators.Group.List.Basic
import Mathlib.Algebra.Order.BigOperators.Group.List
import Mathlib.Tactic.Linarith

/-!
# Conservation

Calls and requests neither make money nor lose any: in each currency the balances of
all accounts, the bank's own included, sum to zero.  The reason is that the two
accounts of a movement have one currency, and that nothing ever changes the currency
of an account.  What the policy says by then plays no part in it.

The accounts of clients are never overdrawn, since each movement is covered.  Both
facts together say that the bank owes in every currency what its clients hold, and
that clients hold nothing in a currency in which the bank has no account.
-/

namespace Bookkeeping

/-! ## Sums over accounts -/

namespace Tables

/-- What all accounts in a currency hold together. -/
def holdings (tables : Tables) (currency : String) : Money :=
  ((tables.accounts.filter fun account => account.currency = currency).map Account.balance).sum

/-- What the accounts in a currency hold of which the bank owns all, or the clients all. -/
def holdingsOf (tables : Tables) (isSystem : Bool) (currency : String) : Money :=
  ((tables.accounts.filter fun account =>
    account.isSystem = isSystem ∧ account.currency = currency).map Account.balance).sum

/-- The bank and its clients hold together what is held. -/
theorem holdings_eq_add (tables : Tables) (currency : String) :
    tables.holdings currency =
      tables.holdingsOf true currency + tables.holdingsOf false currency := by
  have parts :=
    ((List.filter_append_perm Account.isSystem
      (tables.accounts.filter fun account => account.currency = currency)).map
        Account.balance).sum_eq
  rw [List.map_append, List.sum_append, List.filter_filter, List.filter_filter] at parts
  simpa [holdings, holdingsOf] using parts.symm

/-- An account that is inserted with nothing on it leaves what is held as it is. -/
theorem holdings_account
    {row : Account}
    (tables : Tables)
    (nothing : row.balance = 0)
    (currency : String) :
    ((Write.account row).apply tables).holdings currency = tables.holdings currency := by
  simp only [holdings, Write.apply, List.filter_append, List.map_append, List.sum_append]
  by_cases counted : row.currency = currency
  · simp [counted, nothing]
  · simp [counted]

/-- An amount that counts for one account alone counts once, if that account counts. -/
theorem sum_for_one
    {accounts : List Account}
    (distinct : (accounts.map Account.id).Nodup)
    {account : Account}
    (member : account ∈ accounts)
    (counted : Account → Bool)
    (amount : Money) :
    ((accounts.filter counted).map fun other =>
        if other.id = account.id then amount else 0).sum =
      if counted account then amount else 0 := by
  induction accounts with
  | nil => simp at member
  | cons first rest hypothesis =>
      rw [List.map_cons, List.nodup_cons] at distinct
      rcases distinct with ⟨fresh, distinctRest⟩
      rcases List.mem_cons.mp member with rfl | later
      · have others :
            ((rest.filter counted).map fun other =>
              if other.id = account.id then amount else 0).sum = 0 := by
          apply List.sum_eq_zero
          intro term present
          rcases List.mem_map.mp present with ⟨other, chosen, rfl⟩
          have different : other.id ≠ account.id := by
            intro same
            exact fresh (same ▸ List.mem_map_of_mem (List.mem_of_mem_filter chosen))
          rw [if_neg different]
        cases chosen : counted account with
        | true => simp [chosen, others]
        | false => simp [chosen, others]
      · have different : first.id ≠ account.id := by
          intro same
          exact fresh (same ▸ List.mem_map_of_mem later)
        rw [← hypothesis distinctRest later]
        cases chosen : counted first with
        | true => simp [chosen, different]
        | false => simp [chosen]

end Tables

/-! ## What a movement does to balances -/

namespace Movement

variable {movement : Movement} {tables : Tables}

theorem settled_balance (movement : Movement) (account : Account) :
    (movement.settled account).balance =
      account.balance +
        ((if account.id = movement.debited.account then -movement.amount else 0) +
          if account.id = movement.credited.account then movement.amount else 0) := by
  simp only [settled, Tables.movedAccount_eq, Int.add_assoc]

/-- A movement takes from a currency what it gives to it. -/
theorem Proper.holdings
    {sources : Sources}
    {after : Tables}
    (proper : movement.Proper tables)
    (sound : tables.Sound sources)
    (written : Written movement.writes tables after)
    (currency : String) :
    after.holdings currency = tables.holdings currency := by
  rcases proper.parties with ⟨payer, payee, foundPayer, foundPayee, parties⟩
  rcases Tables.account?_eq_some foundPayer with ⟨memberPayer, samePayer⟩
  rcases Tables.account?_eq_some foundPayee with ⟨memberPayee, samePayee⟩
  have sameCurrency (account : Account) :
      (movement.settled account).currency = account.currency :=
    (movement.settled_continues account).currency
  have taken :=
    Tables.sum_for_one sound.distinct memberPayer
      (fun account => account.currency = currency) (-movement.amount)
  have given :=
    Tables.sum_for_one sound.distinct memberPayee
      (fun account => account.currency = currency) movement.amount
  rw [proper.after_eq written]
  simp only [Tables.holdings, List.filter_map, Function.comp_def, sameCurrency, List.map_map,
    settled_balance, List.sum_map_add, ← samePayer, ← samePayee, taken, given, parties.currency]
  split
  · rw [Int.add_left_neg, Int.add_zero]
  · rw [Int.add_zero, Int.add_zero]

/-- A movement that is covered overdraws no client's account. -/
theorem Proper.solvent
    {sources : Sources}
    {after : Tables}
    (proper : movement.Proper tables)
    (covered : movement.Covered tables)
    (sound : tables.Sound sources)
    (written : Written movement.writes tables after)
    (solvent : ∀ account ∈ tables.accounts, account.isSystem = false → 0 ≤ account.balance) :
    ∀ account ∈ after.accounts, account.isSystem = false → 0 ≤ account.balance := by
  intro later member serves
  rw [proper.after_eq written] at member
  rcases List.mem_map.mp member with ⟨account, earlier, rfl⟩
  rw [(movement.settled_continues account).isSystem] at serves
  have held := solvent account earlier serves
  have found := sound.account?_of_mem earlier
  have positive := proper.positive
  rw [settled_balance]
  by_cases pays : account.id = movement.debited.account
  · have enough := covered account (pays ▸ found) serves
    rw [if_pos pays]
    split
    · linarith
    · linarith
  · rw [if_neg pays]
    split
    · linarith
    · linarith

end Movement

/-! ## What every deed keeps -/

/-- In each currency the balances sum to zero. -/
def Tables.Balances (tables : Tables) : Prop :=
  ∀ currency, tables.holdings currency = 0

/-- No client's account is overdrawn. -/
def Tables.Solvent (tables : Tables) : Prop :=
  ∀ account ∈ tables.accounts, account.isSystem = false → 0 ≤ account.balance

namespace Deed

variable {before after : Tables} {earlier later : Sources} {writes : List Write}

/-- A deed that inserts an account inserts one that holds nothing. -/
theorem account_written
    {row : Account}
    (written : Written [.account row] before after) :
    after = (Write.account row).apply before ∧ row.balance = 0 := by
  cases written with
  | cons fits others => exact ⟨Written.nil_iff.mp others, fits.2.2⟩

theorem balances
    (deed : Deed before earlier later writes)
    (sound : before.Sound earlier)
    (written : Written writes before after)
    (balances : before.Balances) :
    after.Balances := by
  intro currency
  rw [← balances currency]
  cases deed with
  | nothing => rw [Written.nil_iff.mp written]
  | registration row =>
      rw [written.eq_foldl]
      rfl
  | opening serves owned =>
      rcases account_written written with ⟨rfl, nothing⟩
      exact before.holdings_account nothing currency
  | seeding settles unowned absent =>
      rcases account_written written with ⟨rfl, nothing⟩
      exact before.holdings_account nothing currency
  | movement proper covered drawn advanced => exact proper.holdings sound written currency

/-- An account that holds nothing is not overdrawn. -/
theorem solvent_account
    {row : Account}
    (solvent : before.Solvent)
    (nothing : row.balance = 0) :
    ((Write.account row).apply before).Solvent := by
  intro account member serves
  rcases List.mem_append.mp member with old | new
  · exact solvent account old serves
  · rw [List.mem_singleton.mp new, nothing]

theorem solvent
    (deed : Deed before earlier later writes)
    (sound : before.Sound earlier)
    (written : Written writes before after)
    (solvent : before.Solvent) :
    after.Solvent := by
  cases deed with
  | nothing => rwa [Written.nil_iff.mp written]
  | registration row =>
      rw [written.eq_foldl]
      exact solvent
  | opening serves owned =>
      rcases account_written written with ⟨rfl, nothing⟩
      exact solvent_account solvent nothing
  | seeding settles unowned absent =>
      rcases account_written written with ⟨rfl, nothing⟩
      exact solvent_account solvent nothing
  | movement proper covered drawn advanced =>
      exact proper.solvent covered sound written solvent

end Deed

/-! ## Every run -/

namespace Opening

variable (settings : Settings) (isMigrated : Bool)

/-- A bank opens with at most one account, which is its own and holds nothing. -/
theorem bank_accounts
    {account : Account}
    (member : account ∈ (bank settings isMigrated).tables.accounts) :
    account.isSystem = true ∧ account.balance = 0 := by
  cases isMigrated with
  | false => cases member
  | true =>
      rw [List.mem_singleton.mp member]
      exact ⟨rfl, rfl⟩

theorem bank_balances : (bank settings isMigrated).tables.Balances := by
  intro currency
  apply List.sum_eq_zero
  intro balance present
  rcases List.mem_map.mp present with ⟨account, chosen, rfl⟩
  exact (bank_accounts settings isMigrated (List.mem_of_mem_filter chosen)).2

theorem bank_solvent : (bank settings isMigrated).tables.Solvent := by
  intro account member serves
  rw [(bank_accounts settings isMigrated member).2]

/-- After every run of ordinary steps the balances sum to zero in every currency. -/
theorem holdings_eq_zero
    {steps : List Step}
    (ordinary : ∀ step ∈ steps, step.isOrdinary = true)
    (currency : String) :
    (after settings isMigrated steps).bank.tables.holdings currency = 0 := by
  have kept : Bank.IsKept fun bank => bank.tables.Balances := by
    intro before after writes sound balances deed progress
    exact deed.balances sound progress.written balances
  exact after_keeps kept settings isMigrated (bank_balances settings isMigrated) ordinary currency

/-- The rule at work: two accounts of the bank's own face two clients' accounts. -/
theorem holdings_of_sample :
    ((after Sample.settings true Sample.steps).bank.tables.accounts.map fun account =>
          (account.currency, account.isSystem, account.balance)) =
        [("NGN", true, -1000000), ("NGN", false, 695000), ("NGN", false, 205000),
          ("USD", false, 0), ("NGN", true, 100000)] ∧
      (after Sample.settings true Sample.steps).bank.tables.holdings "NGN" = 0 :=
  ⟨by decide +kernel, holdings_eq_zero Sample.settings true Sample.steps_ordinary "NGN"⟩

end Opening

/-! ## Consequences of both laws -/

namespace Tables

variable {tables : Tables}

theorem Solvent.holdingsOf_nonneg (solvent : tables.Solvent) (currency : String) :
    0 ≤ tables.holdingsOf false currency := by
  apply List.sum_nonneg
  intro balance present
  rcases List.mem_map.mp present with ⟨account, chosen, rfl⟩
  rcases List.mem_filter.mp chosen with ⟨member, counted⟩
  exact solvent account member (by simpa using (of_decide_eq_true counted).1)

/-- Where clients hold nothing below zero, the bank holds nothing above it. -/
theorem Balances.holdingsOf_nonpos
    (balances : tables.Balances)
    (solvent : tables.Solvent)
    (currency : String) :
    tables.holdingsOf true currency ≤ 0 := by
  have total := balances currency
  have clients := solvent.holdingsOf_nonneg currency
  rw [holdings_eq_add] at total
  linarith

/-- In a currency without an account of the bank's own no client holds anything. -/
theorem Balances.balance_eq_zero
    (balances : tables.Balances)
    (solvent : tables.Solvent)
    {account : Account}
    (member : account ∈ tables.accounts)
    (serves : account.isSystem = false)
    (unsettled :
      ∀ other ∈ tables.accounts, other.isSystem = true → other.currency ≠ account.currency) :
    account.balance = 0 := by
  have bankHolds : tables.holdingsOf true account.currency = 0 := by
    apply List.sum_eq_zero
    intro balance present
    rcases List.mem_map.mp present with ⟨other, chosen, rfl⟩
    rcases List.mem_filter.mp chosen with ⟨otherMember, counted⟩
    rcases of_decide_eq_true counted with ⟨owns, same⟩
    exact absurd same (unsettled other otherMember owns)
  have clientsHold : tables.holdingsOf false account.currency = 0 := by
    have total := balances account.currency
    rw [holdings_eq_add, bankHolds, Int.zero_add] at total
    exact total
  refine List.all_zero_of_le_zero_le_of_sum_eq_zero ?_ clientsHold ?_
  · intro balance present
    rcases List.mem_map.mp present with ⟨other, chosen, rfl⟩
    rcases List.mem_filter.mp chosen with ⟨otherMember, counted⟩
    exact solvent other otherMember (of_decide_eq_true counted).1
  · apply List.mem_map_of_mem
    exact List.mem_filter.mpr ⟨member, by simp [serves]⟩

end Tables

namespace Opening

/--
After every run of ordinary steps no client's account is overdrawn, the bank's own
accounts hold nothing above zero in any currency, and a client's account in a currency
of none of them holds nothing.
-/
theorem no_overdraft
    (settings : Settings)
    (isMigrated : Bool)
    {steps : List Step}
    (ordinary : ∀ step ∈ steps, step.isOrdinary = true) :
    let tables := (after settings isMigrated steps).bank.tables
    (∀ account ∈ tables.accounts, account.isSystem = false → 0 ≤ account.balance) ∧
      (∀ currency, tables.holdingsOf true currency ≤ 0) ∧
      ∀ account ∈ tables.accounts,
        account.isSystem = false →
          (∀ other ∈ tables.accounts,
            other.isSystem = true → other.currency ≠ account.currency) →
          account.balance = 0 := by
  have kept : Bank.IsKept fun bank => bank.tables.Balances ∧ bank.tables.Solvent := by
    intro before after writes sound holds deed progress
    exact
      ⟨deed.balances sound progress.written holds.1, deed.solvent sound progress.written holds.2⟩
  rcases after_keeps kept settings isMigrated
      ⟨bank_balances settings isMigrated, bank_solvent settings isMigrated⟩ ordinary with
    ⟨balances, solvent⟩
  refine ⟨solvent, balances.holdingsOf_nonpos solvent, ?_⟩
  intro account member serves unsettled
  exact balances.balance_eq_zero solvent member serves unsettled

/-- The rule at work: the account in dollars is a client's, and holds nothing. -/
theorem no_overdraft_of_sample :
    ∃ account ∈ (after Sample.settings true Sample.steps).bank.tables.accounts,
      account.currency = "USD" ∧ account.isSystem = false ∧ account.balance = 0 := by
  have unsettled :
      ∃ account ∈ (after Sample.settings true Sample.steps).bank.tables.accounts,
        account.currency = "USD" ∧ account.isSystem = false ∧
          ∀ other ∈ (after Sample.settings true Sample.steps).bank.tables.accounts,
            other.isSystem = true → other.currency ≠ account.currency := by
    decide +kernel
  rcases unsettled with ⟨account, member, inDollars, serves, alone⟩
  have laws := no_overdraft Sample.settings true Sample.steps_ordinary
  exact ⟨account, member, inDollars, serves, laws.2.2 account member serves alone⟩

end Opening

end Bookkeeping
