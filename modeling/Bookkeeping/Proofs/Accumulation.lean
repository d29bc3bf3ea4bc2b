import Bookkeeping.Proofs.Exchanges

/-!
# How balances accumulate

An amount is taken only if it is below a limit, which is the least that the ledger does not hold
any more.  A balance is what the entries of its account add up to, and nobody checks that the
sum is below the limit as well.  So a balance is bounded by its number of entries times the
greatest amount, and by nothing else: an account into which an amount can be paid takes the same
amount again, as often as identifiers and times can be drawn for it.
-/

namespace Bookkeeping

/-! ## Bounds by the number of entries -/

/-- Of a proper movement every entry moves less than the limit. -/
theorem Movement.Proper.abs_effect_lt
    {movement : Movement}
    {tables : Tables}
    (proper : movement.Proper tables)
    {entry : Entry}
    (member : entry ∈ movement.entries) :
    |entry.effect| < Money.limit := by
  have amount : |movement.amount| < Money.limit := by
    rw [abs_of_pos proper.positive]
    exact proper.bounded
  have sides : entry = movement.debited ∨ entry = movement.credited := by
    rw [Movement.entries] at member
    split at member
    · exact (List.mem_pair.mp member).symm
    · exact List.mem_pair.mp member
  rcases sides with rfl | rfl
  · rw [proper.debited_effect, abs_neg]
    exact amount
  · rw [proper.credited_effect]
    exact amount

/-- Entries that move less than the limit add up to less than the limit for each of them. -/
theorem Entry.abs_effectOf_le
    {entries : List Entry}
    (small : ∀ entry ∈ entries, |entry.effect| < Money.limit)
    (account : Identifier) :
    |effectOf entries account| ≤
      (entries.filter fun entry => entry.account = account).length * (Money.limit - 1) := by
  induction entries with
  | nil => simp
  | cons first rest hypothesis =>
      have others := hypothesis fun entry member => small entry (List.mem_cons_of_mem _ member)
      have least := Int.le_sub_one_of_lt (small first List.mem_cons_self)
      rw [effectOf_cons]
      by_cases own : first.account = account
      · simp only [own, if_true, decide_true, List.filter_cons_of_pos, List.length_cons,
          Nat.cast_add, Nat.cast_one]
        calc
          |first.effect + effectOf rest account|
              ≤ |first.effect| + |effectOf rest account| := abs_add_le _ _
          _ ≤ (Money.limit - 1) +
                (rest.filter fun entry => entry.account = account).length * (Money.limit - 1) :=
              add_le_add least others
          _ = ((rest.filter fun entry => entry.account = account).length + 1) *
                (Money.limit - 1) := by rw [Int.add_mul, Int.one_mul, Int.add_comm]
      · simpa [own] using others

/-! ## Paying in again and again -/

/-- An account that two legs have settled differs by its balance at most. -/
theorem Leg.settle_continues (first second : Leg) (account : Account) :
    (second.settle (first.settle account)).Continues account :=
  (Tables.movedAccount_continues _ _ _).trans (Tables.movedAccount_continues _ _ _)

namespace Bank

variable {bank : Bank} {operation : Operation} {first second : Leg}

theorem account?_afterMovement (id : Identifier) :
    (bank.afterMovement operation first second).tables.account? id =
      (bank.tables.account? id).map fun account => second.settle (first.settle account) := by
  rw [afterMovement, Tables.account?, Tables.account?, List.find?_map]
  congr 1
  refine congrArg (fun test => bank.tables.accounts.find? test) (funext fun account => ?_)
  simp only [Function.comp, (first.settle_continues second account).id]

/-- What is drawn for a movement leaves no more groups to be drawn than there were. -/
theorem WellFormed.afterMovement (wellFormed : bank.WellFormed) :
    (bank.afterMovement operation first second).WellFormed := by
  constructor
  · have sameIds :
        (bank.afterMovement operation first second).tables.accounts.map Account.id =
          bank.tables.accounts.map Account.id := by
      simp only [Bank.afterMovement, List.map_map, Function.comp_def,
        (first.settle_continues second _).id]
    rw [sameIds]
    exact wellFormed.distinct
  · intro account member
    rcases List.mem_map.mp member with ⟨earlier, there, rfl⟩
    rw [(first.settle_continues second earlier).id]
    exact wellFormed.given earlier there
  · intro entry posted count beyond same
    have later : bank.sources.groups + 1 < count := beyond
    rcases List.mem_append.mp posted with old | new
    · exact wellFormed.unused entry old count (by omega) same
    · rw [Sources.group_of_pair new] at same
      have sameCount : bank.sources.groups + 1 = count := Identifier.drawn_injective .group same
      omega

/-- The bank's own accounts keep their names. -/
theorem names_afterMovement :
    (((bank.afterMovement operation first second).tables.accounts.filter Account.isSystem).map
        Account.name) =
      ((bank.tables.accounts.filter Account.isSystem).map Account.name) := by
  simp only [afterMovement, List.filter_map, List.map_map, Function.comp_def,
    (first.settle_continues second _).isSystem, (first.settle_continues second _).name]

theorem AllowsExchange.afterMovement
    {client : Identifier}
    {amount : Value}
    {units : Money}
    {settlement : Account}
    (allows : bank.AllowsExchange .deposit client amount units settlement) :
    (bank.afterMovement operation first second).AllowsExchange .deposit client amount units
      (second.settle (first.settle settlement)) := by
  rcases allows.serves with ⟨account, serves, sameCurrency, -⟩
  have later := first.settle_continues second settlement
  constructor
  · exact ⟨allows.named, allows.opens⟩
  · constructor
    · exact List.mem_map.mpr ⟨settlement, allows.settles.member, rfl⟩
    · rw [later.isSystem, allows.settles.settles]
    · rw [later.name]
      exact allows.settles.named
  · have opens := first.settle_continues second account
    refine ⟨second.settle (first.settle account), ⟨?_, ?_⟩, ?_, nofun⟩
    · rw [account?_afterMovement, serves.present, Option.map_some]
    · rw [opens.isSystem, serves.serves]
    · rw [opens.currency, later.currency, sameCurrency]

end Bank

theorem stateOf_map
    {State Answer Next : Type}
    (form : Answer → Next)
    (work : EStateM Failure State Answer)
    (before : State) :
    stateOf ((form <$> work) before) = stateOf (work before) := by
  change stateOf (EStateM.map form work before) = _
  rw [EStateM.map]
  cases work before with
  | ok answer after => rfl
  | error failure after => rfl

/-- The leg of each side of a deposit settles the account of that side. -/
theorem Exchange.settle_deposit
    {client : Identifier}
    {account settlement : Account}
    (sameId : account.id = client)
    (different : client ≠ settlement.id)
    (units : Money)
    (description : Value) :
    (deposit.bankLeg client settlement.id units).settle
          ((deposit.clientLeg client units description).settle account) =
        { account with balance := account.balance + units } ∧
      (deposit.bankLeg client settlement.id units).settle
          ((deposit.clientLeg client units description).settle settlement) =
        { settlement with balance := settlement.balance - units } := by
  subst sameId
  constructor
  · simp [Leg.settle, bankLeg, clientLeg, Tables.movedAccount, different]
  · simp [Leg.settle, bankLeg, clientLeg, Tables.movedAccount, different.symm, Int.sub_eq_add_neg]

/-- An amount can be paid into an account, and both accounts that it concerns can be found. -/
structure Bank.Accepts
    (bank : Bank)
    (client : Identifier)
    (amount : Value)
    (units : Money)
    (settlement account : Account) : Prop where
  wellFormed : bank.WellFormed
  distinct : ((bank.tables.accounts.filter Account.isSystem).map Account.name).Nodup
  allows : bank.AllowsExchange .deposit client amount units settlement
  present : bank.tables.account? client = some account

section Deposits

variable
  {client : Identifier} {amount description : Value} {units : Money}
  {settlement account : Account}

namespace Bank.Accepts

variable {bank : Bank}

theorem settles (accepts : bank.Accepts client amount units settlement account) :
    bank.tables.account? settlement.id = some settlement :=
  Tables.account?_of_distinct accepts.wellFormed.distinct accepts.allows.settles.member

/-- The settlement account is the bank's own, and money is paid into a client's. -/
theorem different (accepts : bank.Accepts client amount units settlement account) :
    client ≠ settlement.id := by
  rintro rfl
  rcases accepts.allows.serves with ⟨other, serves, -⟩
  have present := accepts.settles
  rw [serves.present] at present
  cases present
  exact absurd (serves.serves.symm.trans accepts.allows.settles.settles) (by decide)

/-- After a deposit the same amount can be paid in once more. -/
theorem afterDeposit
    (accepts : bank.Accepts client amount units settlement account)
    (description : Value) :
    (bank.afterMovement .deposit (Exchange.deposit.clientLeg client units description)
          (Exchange.deposit.bankLeg client settlement.id units)).Accepts
      client amount units { settlement with balance := settlement.balance - units }
      { account with balance := account.balance + units } := by
  have sameId := (Tables.account?_eq_some accepts.present).2
  rcases Exchange.settle_deposit sameId accepts.different units description with ⟨pays, draws⟩
  constructor
  · exact accepts.wellFormed.afterMovement
  · rw [names_afterMovement]
    exact accepts.distinct
  · rw [← draws]
    exact accepts.allows.afterMovement
  · rw [account?_afterMovement, accepts.present, Option.map_some, pays]

end Bank.Accepts

variable {desk : Desk}

/-- A deposit takes the bank to the one after the movement. -/
theorem Step.take_deposit
    (accepts : desk.bank.Accepts client amount units settlement account)
    (suffice : desk.bank.sources.Suffice)
    (kept : ∀ failure, ¬ description.IsUnkept failure) :
    ((Step.call (.deposit client amount description)).take .calm desk).2.bank =
      desk.bank.afterMovement .deposit (Exchange.deposit.clientLeg client units description)
        (Exchange.deposit.bankLeg client settlement.id units) := by
  have ends :=
    Service.exchange_ends accepts.wellFormed suffice accepts.distinct
      (.completed accepts.allows kept fun _ posted => accepts.wellFormed.upcoming_unused posted)
  rw [take, outcomeOf_desk, Call.perform, stateOf_map]
  exact ends.leaves

/-- An account that takes an amount takes it as often as it is paid in. -/
theorem Desk.after_deposits
    (accepts : desk.bank.Accepts client amount units settlement account)
    (kept : ∀ failure, ¬ description.IsUnkept failure)
    {count : Nat}
    (suffice : ∀ passed < count, (Sources.afterMovement^[passed] desk.bank.sources).Suffice) :
    let later := desk.after (List.replicate count (.call (.deposit client amount description)))
    later.bank.tables.account? client =
        some { account with balance := account.balance + count * units } ∧
      later.bank.tables.account? settlement.id =
        some { settlement with balance := settlement.balance - count * units } := by
  induction count generalizing desk account settlement with
  | zero => simp [accepts.present, accepts.settles]
  | succ count hypothesis =>
      have taken :
          ((Step.call (.deposit client amount description)).take .calm
                { desk with log := [] }).2.bank =
            desk.bank.afterMovement .deposit (Exchange.deposit.clientLeg client units description)
              (Exchange.deposit.bankLeg client settlement.id units) :=
        Step.take_deposit accepts (suffice 0 (Nat.succ_pos count)) kept
      have acceptsThen := accepts.afterDeposit description
      rw [← taken] at acceptsThen
      have gained (balance : Int) :
          balance + (count + 1 : Nat) * units = balance + units + count * units := by
        rw [Nat.cast_succ, Int.add_mul, Int.one_mul, Int.add_assoc, Int.add_comm units]
      have spent (balance : Int) :
          balance - (count + 1 : Nat) * units = balance - units - count * units := by
        rw [Nat.cast_succ, Int.add_mul, Int.one_mul, Int.sub_sub, Int.add_comm units]
      simp only [List.replicate_succ, after_cons, gained, spent]
      refine hypothesis acceptsThen ?_
      intro passed fewer
      rw [taken]
      exact suffice (passed + 1) (Nat.succ_lt_succ fewer)

end Deposits

/-! ## Every run -/

namespace Opening

variable (settings : Settings) (isMigrated : Bool) {steps : List Step}

/-- After every run of ordinary steps the balances are bounded by the numbers of entries. -/
theorem abs_balance_le
    (ordinary : ∀ step ∈ steps, step.isOrdinary = true)
    {account : Account}
    (member : account ∈ (after settings isMigrated steps).bank.tables.accounts) :
    |account.balance| ≤
      ((after settings isMigrated steps).bank.tables.entriesOfAccount account.id).length *
        (Money.limit - 1) := by
  have sound := (after_sound settings isMigrated steps).1
  rcases after_journaled settings isMigrated ordinary with ⟨movements, journaled⟩
  have small :
      ∀ entry ∈ (after settings isMigrated steps).bank.tables.entries,
        |entry.effect| < Money.limit := by
    intro entry posted
    rw [journaled.entries] at posted
    rcases List.mem_flatMap.mp posted with ⟨movement, moved, written⟩
    exact (journaled.proper movement moved).abs_effect_lt written
  have gentle :
      ∀ operation ∈ (desk (bank settings isMigrated)).operated steps,
        operation.isRaw = false := by
    simp [Desk.operated_of_ordinary ordinary]
  have matched :=
    isMatched_after settings isMigrated gentle (sound.account?_of_mem member)
  have sum :
      account.balance =
        Entry.effectOf (after settings isMigrated steps).bank.tables.entries account.id := by
    rw [Entry.effectOf_eq]
    exact beq_iff_eq.mp matched
  rw [sum]
  exact Entry.abs_effectOf_le small account.id

/--
No balance is greater than what its entries can add up to, but nothing keeps it below the limit
of a single amount.  After every run of ordinary steps an account that takes an amount takes it
as often as it is paid in, and the settlement account gives as much.
-/
theorem balances_accumulate (ordinary : ∀ step ∈ steps, step.isOrdinary = true) :
    let now := after settings isMigrated steps
    (∀ account ∈ now.bank.tables.accounts,
        |account.balance| ≤
          (now.bank.tables.entriesOfAccount account.id).length * (Money.limit - 1)) ∧
      ∀ client amount description units settlement account count,
        now.bank.AllowsExchange .deposit client amount units settlement →
          (∀ failure, ¬ description.IsUnkept failure) →
            now.bank.tables.account? client = some account →
              (∀ passed < count, (Sources.afterMovement^[passed] now.bank.sources).Suffice) →
                let later :=
                  (now.after
                    (List.replicate count (.call (.deposit client amount description)))).bank.tables
                later.account? client =
                    some { account with balance := account.balance + count * units } ∧
                  later.account? settlement.id =
                    some { settlement with balance := settlement.balance - count * units } := by
  intro now
  constructor
  · intro account member
    exact abs_balance_le settings isMigrated ordinary member
  · intro client amount description units settlement account count allows kept present suffice
    have owned : now.bank.tables.Owned := after_owned settings isMigrated ordinary
    have sound := (after_sound settings isMigrated steps).1
    cases count with
    | zero =>
        have settles := sound.account?_of_mem allows.settles.member
        simp [now, present, settles]
    | succ count =>
        have wellFormed :=
          after_wellFormed settings isMigrated ordinary (suffice 0 (Nat.succ_pos count))
        exact Desk.after_deposits ⟨wellFormed, owned.distinct, allows, present⟩ kept suffice

end Opening

namespace Sample

/-- The rule at work: twice the greatest amount is more than the ledger holds of one. -/
theorem rent_beyond_limit :
    ∃ account,
      (funded.after
              (List.replicate 2
                (.call
                  (.deposit rent (.text "999999999999999.9999") .null)))).bank.tables.account? rent =
          some account ∧
        Money.limit ≤ account.balance := by
  rcases funded_settles with ⟨settlement, account, settles, -, serves, sameCurrency, balance⟩
  have allows :
      funded.bank.AllowsExchange .deposit rent (.text "999999999999999.9999") (Money.limit - 1)
        settlement :=
    ⟨⟨by decide +kernel, funded_opens⟩, settles, account, serves, sameCurrency, nofun⟩
  have suffice : ∀ passed < 2, (Sources.afterMovement^[passed] funded.bank.sources).Suffice := by
    intro passed fewer
    match passed, fewer with
    | 0, _ => exact funded_suffice
    | 1, _ => exact ⟨by decide +kernel, by decide +kernel, by decide +kernel⟩
  have paid :=
    ((Opening.balances_accumulate settings true funding_ordinary).2 rent _ .null _ settlement
        account 2 allows Value.not_isUnkept_null serves.present suffice).1
  refine ⟨_, paid, ?_⟩
  rw [balance]
  change Money.limit ≤ (205000 : Int) + (2 : Nat) * (Money.limit - 1)
  decide +kernel

/-- A second deposit takes a client's balance to the limit, and the bank's own to its opposite. -/
theorem balances_at_limit :
    let later :=
      Opening.after settings true
        [.call (.createUser (.text "ada@example.com")),
          .call (.openAccount (.drawn .user 1) (.text "Savings") .null),
          .call (.deposit savings (.text "999999999999999") .null),
          .call (.deposit savings (.text "1") .null)]
    later.bank.tables.accounts.map Account.balance = [-Money.limit, Money.limit] := by
  decide +kernel

end Sample

end Bookkeeping
