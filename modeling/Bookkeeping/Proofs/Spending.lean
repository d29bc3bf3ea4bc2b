import Bookkeeping.Proofs.Accumulation
import Bookkeeping.Proofs.Conservation
import Bookkeeping.Proofs.Renderings
import Bookkeeping.Proofs.Transfers

/-!
# Balances can be spent as they are shown

The text of a balance is an amount, and it is the whole of the balance.  Drawing it out or
sending it to another client leaves nothing, and a ten-thousandth more than it is refused, with
both texts in the notice as they would be shown.

This needs a bank at which units of work can be opened.  A bank whose level of isolation is
unknown opens none, and so no client ever comes to have an account there.
-/

namespace Bookkeeping

open Session

/-! ## Banks that open no units of work -/

/-- Where no units of work can be opened, the tables are kept, and it stays like that. -/
def Desk.StaysShut (before after : Desk) : Prop :=
  Isolation.isUsable before.bank.isolation = false →
    after.bank.isolation = before.bank.isolation ∧ after.bank.tables = before.bank.tables

instance : IsPreorder Desk Desk.StaysShut where
  refl _ _ := ⟨rfl, rfl⟩
  trans before middle after early late shut := by
    rcases early shut with ⟨sameLevel, sameTables⟩
    rcases late (by rw [sameLevel, shut]) with ⟨sameLevelThen, sameTablesThen⟩
    exact ⟨sameLevelThen.trans sameLevel, sameTablesThen.trans sameTables⟩

theorem Desk.StaysShut.of_sameBank
    {before after : Desk}
    (same : Desk.SameBank before after) :
    Desk.StaysShut before after := by
  rw [Desk.SameBank] at same
  rw [Desk.StaysShut, same]
  exact fun _ => ⟨rfl, rfl⟩

theorem Work.inUnit_staysShut
    {Answer : Type}
    {surroundings : Surroundings}
    (body : Work Answer) :
    Keeps Desk.StaysShut (body.inUnit surroundings .null) := by
  intro before shut
  rcases Isolation.isUsable_or_refused before.bank.isolation with usable | ⟨failure, refused⟩
  · rw [usable] at shut
    cases shut
  · rw [inUnit, opened_refused refused]
    exact ⟨rfl, rfl⟩

namespace Step

theorem take_staysShut
    (surroundings : Surroundings)
    (step : Step)
    (ordinary : step.isOrdinary = true)
    (desk : Desk) :
    Desk.StaysShut desk (step.take surroundings desk).2 := by
  have performs (surroundings : Surroundings) (call : Call) :
      Keeps Desk.StaysShut (call.perform surroundings) :=
    call.perform_keeps Desk.StaysShut.of_sameBank fun body _ => Work.inUnit_staysShut body
  cases step with
  | call made =>
      rw [take, outcomeOf_desk]
      exact performs surroundings made desk
  | request asked =>
      rw [take, outcomeOf_desk]
      exact Http.serve_keeps Desk.StaysShut.of_sameBank (performs surroundings) asked desk
  | setClock time zone =>
      rw [take]
      exact fun _ => ⟨rfl, rfl⟩
  | configure changes =>
      rw [take]
      exact fun _ => ⟨rfl, rfl⟩
  | store operation isGuarded => cases ordinary
  | unit level raised body => cases ordinary
  | fail met tellsState =>
      rw [take]
      exact fun _ => ⟨rfl, rfl⟩
  | faulty fault step =>
      rw [take]
      exact take_staysShut { surroundings with fault := fault } step ordinary desk

end Step

theorem Desk.after_staysShut
    {steps : List Step}
    (ordinary : ∀ step ∈ steps, step.isOrdinary = true)
    (desk : Desk) :
    Desk.StaysShut desk (desk.after steps) := by
  induction steps generalizing desk with
  | nil => exact fun _ => ⟨rfl, rfl⟩
  | cons step rest hypothesis =>
      rw [after_cons]
      have first :=
        step.take_staysShut .calm (ordinary step List.mem_cons_self) { desk with log := [] }
      have others := hypothesis fun other member => ordinary other (List.mem_cons_of_mem _ member)
      exact IsTrans.trans desk _ _ first (others _)

/-- Where clients have accounts, units of work can be opened. -/
theorem Opening.isUsable_of_serves
    (settings : Settings)
    (isMigrated : Bool)
    {steps : List Step}
    (ordinary : ∀ step ∈ steps, step.isOrdinary = true)
    {id : Identifier}
    {account : Account}
    (serves : (after settings isMigrated steps).bank.tables.Serves id account) :
    Isolation.isUsable (after settings isMigrated steps).bank.isolation = true := by
  rw [(after_sound settings isMigrated steps).2]
  by_contra unusable
  have stays := Desk.after_staysShut ordinary (desk (bank settings isMigrated))
  have sameTables := (stays (Bool.eq_false_of_not_eq_true unusable)).2
  have member := (Tables.account?_eq_some serves.present).1
  rw [after, sameTables] at member
  have own := (bank_accounts settings isMigrated member).1
  rw [serves.serves] at own
  cases own

/-! ## What spending leaves -/

/-- Money is named by its text, and so is a ten-thousandth more than it, and can be compared. -/
theorem Money.named_with_next
    {amount : Money}
    (positive : 0 < amount)
    (below : amount + 1 < limit) :
    ofValue? (.text amount.text) = some amount ∧
      ofValue? (.text (text (amount + 1))) = some (amount + 1) ∧
      amount < amount + 1 ∧ amount.IsComparable := by
  have more : amount < amount + 1 := Int.lt_succ amount
  rw [limit_eq] at below
  rw [ofValue?, ofValue?, Amount.ofValue_text positive (more.trans below),
    Amount.ofValue_text (positive.trans more) below]
  exact ⟨rfl, rfl, more, natAbs_lt_of_lt_limit positive (more.trans below)⟩

namespace Bank

variable {bank : Bank} {operation : Operation} {id other : Identifier} {account : Account}

/-- The account that pays in a movement keeps all but its balance, which becomes less. -/
theorem account?_afterPaying
    (present : bank.tables.account? id = some account)
    (different : other ≠ id)
    (units : Money)
    (words otherWords : Option String) :
    Tables.account?
        (bank.afterMovement operation ⟨id, units, 0, words⟩
          ⟨other, 0, units, otherWords⟩).tables
        id =
      some { account with balance := account.balance - units } := by
  rcases Tables.account?_eq_some present with ⟨-, rfl⟩
  rw [account?_afterMovement, present, Option.map_some]
  simp [Leg.settle, Tables.movedAccount, different.symm, Int.sub_eq_add_neg]

end Bank

/--
An account can be spent to the last digit that is shown, which leaves it empty, and not beyond:
that leaves everything as it is, and the notice tells what was asked for and what is there.
-/
structure Desk.CanSpend
    (desk : Desk)
    (id : Identifier)
    (account : Account)
    (spend : Value → Activity Identifier)
    (shown beyond : String) : Prop where
  empties :
    ∃ group after,
      (spend (.text shown)).EndsIn desk (.ok group) after ∧
        after.tables.account? id = some { account with balance := 0 }
  stops :
    ∃ failure notice,
      (spend (.text beyond)).EndsIn desk (.error failure) desk.bank ∧
        failure.report = .ofLedger notice ∧ notice.kind = .insufficientFunds ∧
        notice.details =
          [("account_id", .text id.text), ("requested", .text beyond), ("available", .text shown)]

/-- A balance can be spent if the whole of it is paid, and more than it is refused. -/
theorem Desk.CanSpend.intro
    {desk : Desk}
    {id : Identifier}
    {account : Account}
    {spend : Value → Activity Identifier}
    {group : Identifier}
    {after : Bank}
    (spent : (spend (.text account.balance.text)).EndsIn desk (.ok group) after)
    (left :
      after.tables.account? id =
        some { account with balance := account.balance - account.balance })
    (refused :
      (spend (.text (Money.text (account.balance + 1)))).EndsIn desk
        (.error (.insufficientFunds id (account.balance + 1) account.balance)) desk.bank) :
    desk.CanSpend id account spend account.balance.text (Money.text (account.balance + 1)) where
  empties := ⟨group, after, spent, by rw [left, Int.sub_self]⟩
  stops := ⟨_, _, refused, rfl, rfl, rfl⟩

namespace Service

variable
  {desk : Desk} {id other : Identifier} {account payee settlement : Account} {description : Value}

theorem withdraw_canSpend
    (wellFormed : desk.bank.WellFormed)
    (suffice : desk.bank.sources.Suffice)
    (distinct : ((desk.bank.tables.accounts.filter Account.isSystem).map Account.name).Nodup)
    (opens : Isolation.isUsable desk.bank.isolation = true)
    (settles : desk.bank.SettlesBy settlement)
    (serves : desk.bank.tables.Serves id account)
    (sameCurrency : account.currency = settlement.currency)
    (kept : ∀ failure, ¬ description.IsUnkept failure)
    (positive : 0 < account.balance)
    (below : account.balance + 1 < Money.limit) :
    desk.CanSpend id account (fun amount => withdraw .calm id amount description)
      account.balance.text (Money.text (account.balance + 1)) := by
  rcases Money.named_with_next positive below with ⟨named, namedBeyond, more, comparable⟩
  have allows :
      desk.bank.AllowsExchange .withdrawal id (.text account.balance.text) account.balance
        settlement :=
    ⟨⟨named, opens⟩, settles, account, serves, sameCurrency,
      fun _ => ⟨comparable, Int.le_refl _⟩⟩
  have refuses :
      desk.bank.RefusesExchange .withdrawal id (.text (Money.text (account.balance + 1)))
        (.insufficientFunds id (account.balance + 1) account.balance) :=
    .funds ⟨namedBeyond, opens⟩ settles serves sameCurrency rfl comparable more
  have different : settlement.id ≠ id := by
    rintro rfl
    have present := Tables.account?_of_distinct wellFormed.distinct settles.member
    rw [serves.present] at present
    cases present
    exact absurd (serves.serves.symm.trans settles.settles) (by decide)
  have withdraws
      {amount : Value}
      {outcome : Except Failure Identifier}
      {after : Bank}
      (exchanges : desk.bank.Exchanges .withdrawal id amount description outcome after) :
      (withdraw .calm id amount description).EndsIn desk outcome after :=
    exchange_ends wellFormed suffice distinct exchanges
  have spent :=
    withdraws (.completed allows kept fun _ posted => wellFormed.upcoming_unused posted)
  have refused := withdraws (.refused refuses)
  exact .intro spent (Bank.account?_afterPaying serves.present different _ _ _) refused

theorem transfer_canSpend
    (wellFormed : desk.bank.WellFormed)
    (suffice : desk.bank.sources.Suffice)
    (opens : Isolation.isUsable desk.bank.isolation = true)
    (serves : desk.bank.tables.Serves id account)
    (receives : desk.bank.tables.Serves other payee)
    (different : other ≠ id)
    (sameCurrency : payee.currency = account.currency)
    (kept : ∀ failure, ¬ description.IsUnkept failure)
    (positive : 0 < account.balance)
    (below : account.balance + 1 < Money.limit) :
    desk.CanSpend id account (fun amount => transfer .calm id other amount description)
      account.balance.text (Money.text (account.balance + 1)) := by
  rcases Money.named_with_next positive below with ⟨named, namedBeyond, more, comparable⟩
  have allows :
      desk.bank.AllowsTransfer id other (.text account.balance.text) account.balance :=
    ⟨⟨⟨named, opens⟩, different.symm⟩, account, payee, serves, receives, sameCurrency,
      comparable, Int.le_refl _⟩
  have refuses :
      desk.bank.RefusesTransfer id other (.text (Money.text (account.balance + 1)))
        (.insufficientFunds id (account.balance + 1) account.balance) :=
    .funds ⟨⟨namedBeyond, opens⟩, different.symm⟩ serves receives sameCurrency comparable more
  exact
    .intro
      (transfer_ends wellFormed suffice
        (.completed allows kept fun _ posted => wellFormed.upcoming_unused posted))
      (Bank.account?_afterPaying serves.present different _ _ _)
      (transfer_ends wellFormed suffice (.refused refuses))

end Service

/-! ## Every run -/

/--
After every run of ordinary steps a client's balance above zero, and so far below the limit that
a ten-thousandth more can still be named, is shown by a text that can be spent: by withdrawing
it, where the settlement account has the same currency, and by sending it to any other client
whose account has the same currency.  The text of a ten-thousandth more cannot be spent.
-/
theorem Opening.balance_can_be_spent
    (settings : Settings)
    (isMigrated : Bool)
    {steps : List Step}
    (ordinary : ∀ step ∈ steps, step.isOrdinary = true)
    (suffice : (after settings isMigrated steps).bank.sources.Suffice) :
    let now := after settings isMigrated steps
    ∀ id account description,
      now.bank.tables.Serves id account → 0 < account.balance →
        account.balance < 10 ^ 19 - 1 → (∀ failure, ¬ description.IsUnkept failure) →
          ∃ fields shown beyond,
            account.record = .record fields ∧
              Value.field? fields "balance" = some (.text shown) ∧
              (Value.decimal account.balance.decimal).fixedText = .ok shown ∧
              (Value.decimal (Money.decimal (account.balance + 1))).fixedText = .ok beyond ∧
              (∀ settlement,
                now.bank.settlement? = some settlement →
                  account.currency = settlement.currency →
                    now.CanSpend id account
                      (fun amount => Service.withdraw .calm id amount description) shown beyond) ∧
              ∀ other payee,
                now.bank.tables.Serves other payee → other ≠ id →
                  payee.currency = account.currency →
                    now.CanSpend id account
                      (fun amount => Service.transfer .calm id other amount description)
                      shown beyond := by
  intro now id account description serves positive most kept
  have below : account.balance + 1 < Money.limit := Int.add_lt_of_lt_sub_right most
  have more : account.balance < account.balance + 1 := Int.lt_succ account.balance
  have wellFormed := after_wellFormed settings isMigrated ordinary suffice
  have opens := isUsable_of_serves settings isMigrated ordinary serves
  have owned : now.bank.tables.Owned := after_owned settings isMigrated ordinary
  refine ⟨_, account.balance.text, Money.text (account.balance + 1), rfl, rfl, ?_, ?_, ?_, ?_⟩
  · exact Money.fixedText_decimal positive (more.trans below)
  · exact Money.fixedText_decimal (positive.trans more) below
  · intro settlement settled sameCurrency
    rcases Option.bind_eq_some_iff.mp settled with ⟨name, named, found⟩
    rcases Tables.settlement?_eq_some found with ⟨member, own, rfl⟩
    exact
      Service.withdraw_canSpend wellFormed suffice owned.distinct opens ⟨member, own, named⟩
        serves sameCurrency kept positive below
  · intro other payee receives different sameCurrency
    exact
      Service.transfer_canSpend wellFormed suffice opens serves receives different sameCurrency
        kept positive below

namespace Sample

/-- The rule at work: what was paid in for the rent is withdrawn, or goes to the savings. -/
theorem rent_can_be_spent :
    (∀ step ∈ funding, step.isOrdinary = true) ∧ funded.bank.sources.Suffice ∧
      ∃ account,
        funded.bank.tables.account? rent = some account ∧ account.balance = 205000 ∧
          funded.CanSpend rent account (fun amount => Service.withdraw .calm rent amount .null)
            "20.5000" "20.5001" ∧
          funded.CanSpend rent account
            (fun amount => Service.transfer .calm rent savings amount .null)
            "20.5000" "20.5001" := by
  rcases funded_settles with ⟨settlement, account, settles, -, serves, sameCurrency, balance⟩
  rcases funded_serves with ⟨payer, payee, pays, receives, paid, received, -⟩
  cases serves.present.symm.trans pays.present
  have positive : 0 < account.balance := by rw [balance]; decide
  have most : account.balance < 10 ^ 19 - 1 := by rw [balance]; decide
  rcases
      Opening.balance_can_be_spent settings true funding_ordinary funded_suffice rent account .null
        serves positive most Value.not_isUnkept_null with
    ⟨fields, shown, beyond, -, -, written, writtenBeyond, withdraws, transfers⟩
  have texts : Money.text 205000 = "20.5000" ∧ Money.text 205001 = "20.5001" := by
    decide +kernel
  have more : 0 < account.balance + 1 := positive.trans (Int.lt_succ _)
  rw [Money.fixedText_decimal positive (most.trans (by decide)), balance, texts.1] at written
  rw [Money.fixedText_decimal more (Int.add_lt_of_lt_sub_right most), balance] at writtenBeyond
  cases written
  cases writtenBeyond.symm.trans (congrArg Except.ok texts.2)
  refine ⟨funding_ordinary, funded_suffice, account, serves.present, balance, ?_, ?_⟩
  · exact withdraws settlement (settles.settlement?_eq funded_distinct) sameCurrency
  · exact transfers savings payee receives (by decide) (received.trans paid.symm)

end Sample

end Bookkeeping
