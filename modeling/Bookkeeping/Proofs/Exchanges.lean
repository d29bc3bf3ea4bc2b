import Bookkeeping.Proofs.Outcomes

/-!
# What a deposit or a withdrawal ends in

A deposit and a withdrawal are the two ways in which a client exchanges money with the world
outside of the ledger.  Both have the settlement account on their other side, and both are
refused for the same reasons and in the same order; a withdrawal is refused for one more reason
in the end.  So they are one relation with a parameter, and what is said of it holds of both.

The settlement account is the one of the bank's own accounts whose name is the text that is kept
of the setting.  A setting of which no text can be kept, such as one with half of a character,
makes every deposit and every withdrawal fail by what the database says of it, and so does such
a description.
-/

namespace Bookkeeping

/-! ## The two exchanges -/

/-- Whether a client pays in or draws out. -/
inductive Exchange where
  | deposit
  | withdrawal
deriving DecidableEq

namespace Exchange

def operation : Exchange → Operation
  | .deposit => .deposit
  | .withdrawal => .withdrawal

/-- What the client asks the bank for. -/
def perform : Exchange → Identifier → Value → Value → Activity Identifier
  | .deposit => Service.deposit .calm
  | .withdrawal => Service.withdraw .calm

/-- The body of the unit of work that is opened for an amount. -/
def body : Exchange → Identifier → Money → Value → Work Identifier
  | .deposit => Service.depositing
  | .withdrawal => Service.withdrawing

/-- What the exchange of an amount adds to the client's account. -/
def effect : Exchange → Money → Money
  | .deposit, units => units
  | .withdrawal, units => -units

/-- The description of the client's entry, where none is given. -/
def usual : Exchange → String
  | .deposit => "External deposit"
  | .withdrawal => "External withdrawal"

/-- The words before the client's account in the description of the bank's entry. -/
def words : Exchange → String
  | .deposit => "Deposit to account "
  | .withdrawal => "Withdrawal from "

/-- What is entered for the client. -/
def clientLeg (exchange : Exchange) (client : Identifier) (units : Money) (description : Value) :
    Leg :=
  match exchange with
  | .deposit => ⟨client, 0, units, description.keptOr exchange.usual⟩
  | .withdrawal => ⟨client, units, 0, description.keptOr exchange.usual⟩

/-- What is entered for the bank, by whose account the money comes and goes. -/
def bankLeg (exchange : Exchange) (client settlement : Identifier) (units : Money) : Leg :=
  match exchange with
  | .deposit => ⟨settlement, units, 0, some (exchange.words ++ client.text)⟩
  | .withdrawal => ⟨settlement, 0, units, some (exchange.words ++ client.text)⟩

/-- What is entered for both sides has the effect of the exchange, and the opposite one. -/
theorem legs_eq
    {units : Money}
    (positive : 0 < units)
    (exchange : Exchange)
    (client settlement : Identifier)
    (description : Value) :
    Leg.ofEffect client (exchange.effect units) (description.keptOr exchange.usual) =
        exchange.clientLeg client units description ∧
      Leg.ofEffect settlement (-exchange.effect units) (some (exchange.words ++ client.text)) =
        exchange.bankLeg client settlement units := by
  rcases Leg.ofEffect_of_pos positive client (description.keptOr exchange.usual) with
    ⟨gains, pays⟩
  rcases Leg.ofEffect_of_pos positive settlement (some (exchange.words ++ client.text)) with
    ⟨takes, gives⟩
  cases exchange with
  | deposit => exact ⟨gains, gives⟩
  | withdrawal =>
      rw [effect, Int.neg_neg]
      exact ⟨pays, takes⟩

theorem effect_ne_zero
    {units : Money}
    (positive : 0 < units)
    (exchange : Exchange) :
    exchange.effect units ≠ 0 := by
  cases exchange with
  | deposit => exact Int.ne_of_gt positive
  | withdrawal => exact Int.neg_ne_zero.mpr (Int.ne_of_gt positive)

/-- The words before an identifier are plain characters. -/
theorem words_ascii (exchange : Exchange) :
    ∀ character ∈ exchange.words.toList, character.toNat < 128 := by
  cases exchange with
  | deposit => simp [words]
  | withdrawal => simp [words]

theorem usual_kept (exchange : Exchange) :
    storedText 7 (.text exchange.usual) = .ok (some exchange.usual) := by
  cases exchange with
  | deposit => rfl
  | withdrawal => rfl

end Exchange

/-! ## The outcomes -/

namespace Bank

/-- An account of the bank's own has the name that the settings ask for. -/
structure SettlesBy (bank : Bank) (settlement : Account) : Prop where
  member : settlement ∈ bank.tables.accounts
  settles : settlement.isSystem = true
  named : bank.policy.settlementName.kept? = some settlement.name

/-- What is wrong with an exchange: the first of these that applies. -/
inductive RefusesExchange
    (bank : Bank)
    (exchange : Exchange)
    (client : Identifier)
    (amount : Value) :
    Failure → Prop
  | unnamed
      (unnamed : Money.ofValue? amount = none)
      (writable : amount.isWritable = true) :
      RefusesExchange bank exchange client amount (.invalidAmount amount)
  | unwritable
      (unnamed : Money.ofValue? amount = none)
      (unwritable : amount.isWritable = false) :
      RefusesExchange bank exchange client amount (.mismatched .integerUnwritable)
  | unopened
      {units : Money}
      {failure : Failure}
      (named : Money.ofValue? amount = some units)
      (refused : Isolation.Refused bank.isolation failure) :
      RefusesExchange bank exchange client amount failure
  | unkeptName
      {units : Money}
      {failure : Failure}
      (takesUp : bank.TakesUp amount units)
      (unkept : storedText 1 bank.policy.settlementName = .error failure) :
      RefusesExchange bank exchange client amount failure
  | unsettled
      {units : Money}
      {name? : Option String}
      (takesUp : bank.TakesUp amount units)
      (kept : storedText 1 bank.policy.settlementName = .ok name?)
      (absent : ∀ settlement, ¬ bank.SettlesBy settlement) :
      RefusesExchange bank exchange client amount
        (.settlementNotFound bank.policy.settlementName)
  | client
      {units : Money}
      {settlement : Account}
      {failure : Failure}
      (takesUp : bank.TakesUp amount units)
      (settles : bank.SettlesBy settlement)
      (bars : bank.tables.Bars client failure) :
      RefusesExchange bank exchange client amount failure
  | currency
      {units : Money}
      {settlement account : Account}
      (takesUp : bank.TakesUp amount units)
      (settles : bank.SettlesBy settlement)
      (serves : bank.tables.Serves client account)
      (differ : account.currency ≠ settlement.currency) :
      RefusesExchange bank exchange client amount
        (.currencyMismatch settlement.currency account.currency)
  | incomparable
      {units : Money}
      {settlement account : Account}
      (takesUp : bank.TakesUp amount units)
      (settles : bank.SettlesBy settlement)
      (serves : bank.tables.Serves client account)
      (sameCurrency : account.currency = settlement.currency)
      (draws : exchange = .withdrawal)
      (large : ¬account.balance.IsComparable) :
      RefusesExchange bank exchange client amount (.mismatched .decimalOutOfRange)
  | funds
      {units : Money}
      {settlement account : Account}
      (takesUp : bank.TakesUp amount units)
      (settles : bank.SettlesBy settlement)
      (serves : bank.tables.Serves client account)
      (sameCurrency : account.currency = settlement.currency)
      (draws : exchange = .withdrawal)
      (comparable : account.balance.IsComparable)
      (short : account.balance < units) :
      RefusesExchange bank exchange client amount
        (.insufficientFunds client units account.balance)

/-- Nothing is wrong with an exchange. -/
structure AllowsExchange
    (bank : Bank)
    (exchange : Exchange)
    (client : Identifier)
    (amount : Value)
    (units : Money)
    (settlement : Account) : Prop
    extends TakesUp bank amount units where
  settles : bank.SettlesBy settlement
  serves :
    ∃ account,
      bank.tables.Serves client account ∧ account.currency = settlement.currency ∧
        (exchange = .withdrawal → account.balance.IsComparable ∧ units ≤ account.balance)

/--
What an exchange answers or fails with, and the bank that it leaves.  One that is refused leaves
the bank as it is.  One that succeeds enters the client's side and then the bank's under a group
that no entry has borne before, and moves the two balances by the amount.
-/
inductive Exchanges
    (bank : Bank)
    (exchange : Exchange)
    (client : Identifier)
    (amount description : Value) :
    Except Failure Identifier → Bank → Prop
  | refused
      {failure : Failure}
      (refuses : bank.RefusesExchange exchange client amount failure) :
      Exchanges bank exchange client amount description (.error failure) bank
  | unkept
      {units : Money}
      {settlement : Account}
      {failure : Failure}
      (allows : bank.AllowsExchange exchange client amount units settlement)
      (unkept : description.IsUnkept failure) :
      Exchanges bank exchange client amount description (.error failure)
        { bank with sources := (bank.sources.advance .group).afterMaking .entry }
  | completed
      {units : Money}
      {settlement : Account}
      (allows : bank.AllowsExchange exchange client amount units settlement)
      (kept : ∀ failure, ¬ description.IsUnkept failure)
      (isNew : ∀ entry ∈ bank.tables.entries, entry.group ≠ bank.sources.upcoming .group) :
      Exchanges bank exchange client amount description
        (.ok (bank.sources.upcoming .group))
        (bank.afterMovement exchange.operation
          (exchange.clientLeg client units description)
          (exchange.bankLeg client settlement.id units))

/-- Every exchange has an outcome. -/
theorem exchanges_total
    {bank : Bank}
    (wellFormed : bank.WellFormed)
    (exchange : Exchange)
    (client : Identifier)
    (amount description : Value) :
    ∃ outcome after, bank.Exchanges exchange client amount description outcome after := by
  cases named : Money.ofValue? amount with
  | none =>
      cases writable : amount.isWritable with
      | true => exact ⟨_, _, .refused (.unnamed named writable)⟩
      | false => exact ⟨_, _, .refused (.unwritable named writable)⟩
  | some units =>
      rcases Isolation.isUsable_or_refused bank.isolation with opens | ⟨failure, refused⟩
      swap
      · exact ⟨_, _, .refused (.unopened named refused)⟩
      have takesUp : bank.TakesUp amount units := ⟨named, opens⟩
      cases kept : storedText 1 bank.policy.settlementName with
      | error failure => exact ⟨_, _, .refused (.unkeptName takesUp kept)⟩
      | ok name? =>
          by_cases found : ∃ settlement, bank.SettlesBy settlement
          swap
          · exact ⟨_, _, .refused (.unsettled takesUp kept (not_exists.mp found))⟩
          rcases found with ⟨settlement, settles⟩
          rcases bank.tables.serves_or_bars client with ⟨account, serves⟩ | ⟨failure, bars⟩
          swap
          · exact ⟨_, _, .refused (.client takesUp settles bars)⟩
          by_cases sameCurrency : account.currency = settlement.currency
          swap
          · exact ⟨_, _, .refused (.currency takesUp settles serves sameCurrency)⟩
          by_cases large : exchange = .withdrawal ∧ ¬account.balance.IsComparable
          · exact
              ⟨_, _,
                .refused (.incomparable takesUp settles serves sameCurrency large.1 large.2)⟩
          have comparable (draws : exchange = .withdrawal) : account.balance.IsComparable :=
            not_not.mp fun beyond => large ⟨draws, beyond⟩
          by_cases short : exchange = .withdrawal ∧ account.balance < units
          · exact
              ⟨_, _,
                .refused
                  (.funds takesUp settles serves sameCurrency short.1 (comparable short.1)
                    short.2)⟩
          have covered (draws : exchange = .withdrawal) :
              account.balance.IsComparable ∧ units ≤ account.balance :=
            ⟨comparable draws, Int.not_lt.mp fun less => short ⟨draws, less⟩⟩
          have allows : bank.AllowsExchange exchange client amount units settlement :=
            ⟨takesUp, settles, account, serves, sameCurrency, covered⟩
          by_cases unkept : ∃ failure, description.IsUnkept failure
          · rcases unkept with ⟨failure, unkept⟩
            exact ⟨_, _, .unkept allows unkept⟩
          · exact
              ⟨_, _,
                .completed allows (not_exists.mp unkept) fun _ posted =>
                  wellFormed.upcoming_unused posted⟩

variable {bank : Bank} {settlement : Account}

/-- Where the bank's own accounts have names of their own, the settlement account is found. -/
theorem SettlesBy.settlement?_eq
    (settles : bank.SettlesBy settlement)
    (distinct : ((bank.tables.accounts.filter Account.isSystem).map Account.name).Nodup) :
    bank.settlement? = some settlement := by
  rw [settlement?, settles.named, Option.bind_some]
  cases found : bank.tables.settlement? settlement.name with
  | none =>
      have absent := List.find?_eq_none.mp found settlement settles.member
      simp [settles.settles] at absent
  | some other =>
      rcases Tables.settlement?_eq_some found with ⟨member, own, sameName⟩
      have here := List.mem_filter.mpr ⟨settles.member, settles.settles⟩
      rw [List.inj_on_of_nodup_map distinct (List.mem_filter.mpr ⟨member, own⟩) here sameName]

theorem settlement?_eq_none (absent : ∀ settlement, ¬ bank.SettlesBy settlement) :
    bank.settlement? = none := by
  cases found : bank.settlement? with
  | none => rfl
  | some settlement =>
      rcases Option.bind_eq_some_iff.mp found with ⟨name, kept, named⟩
      rcases Tables.settlement?_eq_some named with ⟨member, own, rfl⟩
      exact absurd ⟨member, own, kept⟩ (absent settlement)

end Bank

/-! ## What the checks come to -/

namespace Service

open Work

variable
  {bank : Bank} {exchange : Exchange} {client : Identifier} {amount description : Value}
  {units : Money} {settlement account : Account} {failure : Failure}

/-- Where the settlement account is not found, nobody looks for the client's account. -/
theorem counterparties_unsettled
    (fails :
      ComesTo bank (Work.settlement bank.policy.settlementName true) (throw failure)) :
    ComesTo bank (counterparties client) (throw failure) :=
  ComesTo.after policy_comes (ComesTo.fails fails _)

theorem counterparties_settled
    (settled : bank.settlement? = some settlement)
    (present : bank.tables.account? settlement.id = some settlement)
    {target : Work (Account × Account)}
    (goes :
      ComesTo bank
        (do
          let account ← Work.account client true
          refuseSystem account
          requireCurrency settlement.currency account.currency
          return (settlement, account))
        target) :
    ComesTo bank (counterparties client) target :=
  ComesTo.after policy_comes (ComesTo.after (settlement_present settled present) goes)

/-- Whichever the exchange, its body first asks for the counterparties. -/
theorem body_fails
    (fails : ComesTo bank (counterparties client) (throw failure)) :
    ComesTo bank (exchange.body client units description) (throw failure) := by
  cases exchange with
  | deposit => exact ComesTo.fails fails _
  | withdrawal => exact ComesTo.fails fails _

/-- Where nothing is wrong with an exchange, nothing is left of it but the movement. -/
theorem body_allows
    (found : ComesTo bank (counterparties client) (pure (settlement, account)))
    (sameId : account.id = client)
    (covered : exchange = .withdrawal → account.balance.IsComparable ∧ units ≤ account.balance) :
    ComesTo bank (exchange.body client units description)
      (move exchange.operation client settlement.id (exchange.effect units)
        (describe description exchange.usual) (.text (exchange.words ++ client.text))) := by
  subst sameId
  cases exchange with
  | deposit => exact ComesTo.after found (.refl _)
  | withdrawal =>
      have funds : ComesTo bank (requireFunds account units) (pure ()) :=
        requireFunds_passes (covered rfl).1 (covered rfl).2
      exact ComesTo.after found (ComesTo.after funds (.refl _))

theorem counterparties_allow
    (wellFormed : bank.WellFormed)
    (distinct : ((bank.tables.accounts.filter Account.isSystem).map Account.name).Nodup)
    (settles : bank.SettlesBy settlement)
    (serves : bank.tables.Serves client account)
    (sameCurrency : account.currency = settlement.currency) :
    ComesTo bank (counterparties client) (pure (settlement, account)) := by
  have present := Tables.account?_of_distinct wellFormed.distinct settles.member
  refine counterparties_settled (settles.settlement?_eq distinct) present ?_
  exact client_serves serves true (ComesTo.after (requireCurrency_passes sameCurrency) (.refl _))

variable {desk : Desk} {outcome : Except Failure Identifier} {after : Bank}

/-- An exchange of an amount ends as its unit of work does. -/
theorem exchange_ends_as
    (named : Money.ofValue? amount = some units)
    (ends :
      ((exchange.body client units description).inUnit .calm .null).EndsIn desk outcome after) :
    (exchange.perform client amount description).EndsIn desk outcome after := by
  cases exchange with
  | deposit => exact .named named (ends.told _)
  | withdrawal => exact .named named (ends.told _)

theorem exchange_unnamed (unnamed : Money.ofValue? amount = none) :
    (exchange.perform client amount description).EndsIn desk (.error (Amount.refusal amount))
      desk.bank := by
  cases exchange with
  | deposit => exact .unnamed unnamed _
  | withdrawal => exact .unnamed unnamed _

/-- An exchange fails where its counterparties are not fit to exchange money. -/
theorem exchange_fails
    (takesUp : desk.bank.TakesUp amount units)
    (fails : ComesTo desk.bank (counterparties client) (throw failure)) :
    (exchange.perform client amount description).EndsIn desk (.error failure) desk.bank :=
  exchange_ends_as takesUp.named (inUnit_refused takesUp.opens (body_fails fails))

theorem exchange_refused
    (wellFormed : desk.bank.WellFormed)
    (distinct : ((desk.bank.tables.accounts.filter Account.isSystem).map Account.name).Nodup)
    (refuses : desk.bank.RefusesExchange exchange client amount failure) :
    (exchange.perform client amount description).EndsIn desk (.error failure) desk.bank := by
  have present {settlement : Account} (settles : desk.bank.SettlesBy settlement) :=
    Tables.account?_of_distinct wellFormed.distinct settles.member
  cases refuses with
  | unnamed unnamed writable =>
      rw [← Amount.refusal_of_writable writable]
      exact exchange_unnamed unnamed
  | unwritable unnamed unwritable =>
      rw [← Amount.refusal_of_unwritable unwritable]
      exact exchange_unnamed unnamed
  | unopened named refused => exact exchange_ends_as named (inUnit_unopened refused _)
  | unkeptName takesUp unkept =>
      exact exchange_fails takesUp (counterparties_unsettled (settlement_unkept unkept))
  | unsettled takesUp kept absent =>
      refine exchange_fails takesUp (counterparties_unsettled ?_)
      exact settlement_absent kept (Bank.settlement?_eq_none absent)
  | client takesUp settles bars =>
      refine exchange_fails takesUp ?_
      refine counterparties_settled (settles.settlement?_eq distinct) (present settles) ?_
      exact client_barred bars true _
  | currency takesUp settles serves differ =>
      refine exchange_fails takesUp ?_
      refine counterparties_settled (settles.settlement?_eq distinct) (present settles) ?_
      exact client_serves serves true (ComesTo.fails (requireCurrency_fails differ) _)
  | incomparable takesUp settles serves sameCurrency draws large =>
      subst draws
      have found := counterparties_allow wellFormed distinct settles serves sameCurrency
      refine exchange_ends_as takesUp.named (inUnit_refused takesUp.opens ?_)
      exact ComesTo.after found (ComesTo.fails (requireFunds_incomparable large _) _)
  | funds takesUp settles serves sameCurrency draws comparable short =>
      subst draws
      rcases Tables.account?_eq_some serves.present with ⟨-, rfl⟩
      have found := counterparties_allow wellFormed distinct settles serves sameCurrency
      refine exchange_ends_as takesUp.named (inUnit_refused takesUp.opens ?_)
      exact ComesTo.after found (ComesTo.fails (requireFunds_fails comparable short) _)

/-- Whatever is said to be the outcome of an exchange is its outcome. -/
theorem exchange_ends
    (wellFormed : desk.bank.WellFormed)
    (suffice : desk.bank.sources.Suffice)
    (distinct : ((desk.bank.tables.accounts.filter Account.isSystem).map Account.name).Nodup)
    (exchanges : desk.bank.Exchanges exchange client amount description outcome after) :
    (exchange.perform client amount description).EndsIn desk outcome after := by
  have comes {units : Money} {settlement : Account}
      (allows : desk.bank.AllowsExchange exchange client amount units settlement) :
      ComesTo desk.bank (exchange.body client units description)
        (move exchange.operation client settlement.id (exchange.effect units)
          (describe description exchange.usual) (.text (exchange.words ++ client.text))) := by
    rcases allows.serves with ⟨account, serves, sameCurrency, covered⟩
    have found := counterparties_allow wellFormed distinct allows.settles serves sameCurrency
    exact body_allows found (Tables.account?_eq_some serves.present).2 covered
  cases exchanges with
  | refused refuses => exact exchange_refused wellFormed distinct refuses
  | unkept allows unkept =>
      refine exchange_ends_as allows.named ?_
      exact inUnit_unkept suffice allows.opens (describe_unkept unkept _) (comes allows)
  | @completed units settlement allows kept isNew =>
      rcases allows.serves with ⟨account, serves, -⟩
      have positive := (Amount.ofValue_ok (Amount.ofValue_eq_of_named allows.named)).1
      have present := Tables.account?_of_distinct wellFormed.distinct allows.settles.member
      have ends :=
        inUnit_moves wellFormed suffice allows.opens (exchange.effect_ne_zero positive)
          serves.present present (describe_answers kept exchange.usual_kept)
          (storedText_words 7 exchange.words exchange.words_ascii client) (comes allows)
      rcases exchange.legs_eq positive client settlement.id description with ⟨client, bank⟩
      rw [client, bank] at ends
      exact exchange_ends_as allows.named ends

/--
A deposit and a withdrawal have exactly the outcomes that are said of them: each fails for the
first thing that is wrong with it, and otherwise moves the amount and changes nothing else.
-/
theorem exchange_iff
    (wellFormed : desk.bank.WellFormed)
    (suffice : desk.bank.sources.Suffice)
    (distinct : ((desk.bank.tables.accounts.filter Account.isSystem).map Account.name).Nodup)
    (exchange : Exchange)
    (client : Identifier)
    (amount description : Value)
    (outcome : Except Failure Identifier)
    (after : Bank) :
    (exchange.perform client amount description).EndsIn desk outcome after ↔
      desk.bank.Exchanges exchange client amount description outcome after := by
  constructor
  · intro ends
    rcases Bank.exchanges_total wellFormed exchange client amount description with
      ⟨other, left, exchanges⟩
    rcases ends.unique (exchange_ends wellFormed suffice distinct exchanges) with ⟨rfl, rfl⟩
    exact exchanges
  · exact exchange_ends wellFormed suffice distinct

end Service

namespace Sample

theorem funded_distinct :
    ((funded.bank.tables.accounts.filter Account.isSystem).map Account.name).Nodup := by
  decide +kernel

/-- The settlement account of the migration is there, in the currency of the client's accounts. -/
theorem funded_settles :
    ∃ settlement account : Account,
      funded.bank.SettlesBy settlement ∧ settlement.id = .drawn .account 1 ∧
        funded.bank.tables.Serves rent account ∧ account.currency = settlement.currency ∧
        account.balance = 205000 := by
  have named : funded.bank.policy.settlementName.kept? = some "Settlement" := by decide +kernel
  have row :
      (funded.bank.tables.accounts.any fun row =>
          row.isSystem && row.name == "Settlement" && row.id == .drawn .account 1 &&
            row.currency == "NGN") = true := by
    decide +kernel
  rcases List.any_eq_true.mp row with ⟨settlement, member, settles⟩
  simp only [Bool.and_eq_true, beq_iff_eq] at settles
  rcases settles with ⟨⟨⟨own, sameName⟩, sameId⟩, currency⟩
  rcases funded_serves with ⟨account, -, serves, -, paid, -, balance⟩
  refine ⟨settlement, account, ⟨member, own, ?_⟩, sameId, serves, ?_, balance⟩
  · rw [named, sameName]
  · rw [paid, currency]

theorem funded_exchange (exchange : Exchange) :
    ∃ settlement,
      funded.bank.AllowsExchange exchange rent (.text "20.5") 205000 settlement ∧
        settlement.id = .drawn .account 1 := by
  rcases funded_settles with ⟨settlement, account, settles, sameId, serves, sameCurrency, balance⟩
  refine ⟨settlement, ⟨⟨by decide +kernel, funded_opens⟩, settles, account, serves, ?_⟩, sameId⟩
  have comparable : account.balance.IsComparable := by
    rw [balance]
    decide
  exact ⟨sameCurrency, fun _ => ⟨comparable, Int.le_of_eq balance.symm⟩⟩

/-- The rule at work: an account is emptied. -/
theorem withdrawal_of_rent :
    (Service.withdraw .calm rent (.text "20.5") .null).EndsIn funded (.ok (.drawn .group 2))
      (funded.bank.afterMovement .withdrawal
        ⟨rent, 205000, 0, some "External withdrawal"⟩
        ⟨.drawn .account 1, 0, 205000, some ("Withdrawal from " ++ rent.text)⟩) := by
  rcases funded_exchange .withdrawal with ⟨settlement, allows, sameId⟩
  rw [← funded_group, ← sameId]
  exact
    (Service.exchange_iff funded_wellFormed funded_suffice funded_distinct .withdrawal rent
          (.text "20.5") .null _ _).mpr
      (.completed allows Value.not_isUnkept_null fun _ posted =>
        funded_wellFormed.upcoming_unused posted)

/--
Nothing that concerns the accounts or the amount is wrong, and no deposit succeeds or fails as one
should think: with a description or a name of the settlement account that cannot be kept, or at
a level of isolation that nobody knows.  And where the amount is none, but an integer of too many
digits to be quoted, that is not what is told.
-/
theorem deposit_with_half :
    funded.bank.WellFormed ∧ funded.bank.sources.Suffice ∧
      ((funded.bank.tables.accounts.filter Account.isSystem).map Account.name).Nodup ∧
      (∃ settlement, funded.bank.AllowsExchange .deposit rent (.text "20.5") 205000 settlement) ∧
      answerOf (Service.deposit .calm rent (.text "20.5") half funded) =
        .error (.unwritable ⟨0, 0xD800, 1⟩) ∧
      answerOf (Service.deposit .calm rent (.text "20.5") .null (reconfigured half .null)) =
        .error (.unwritable ⟨0, 0xD800, 1⟩) ∧
      answerOf
          (Service.deposit .calm rent (.text "20.5") .null
            (reconfigured (.text "Settlement") (.text "SNAPSHOT"))) =
        .error (.unknownIsolation "SNAPSHOT") ∧
      answerOf (Service.deposit .calm rent longInteger .null funded) =
        .error (.mismatched .integerUnwritable) := by
  have named : Money.ofValue? (.text "20.5") = some 205000 := by decide +kernel
  rcases funded_exchange .deposit with ⟨settlement, allows, -⟩
  refine
    ⟨funded_wellFormed, funded_suffice, funded_distinct, ⟨settlement, allows⟩, ?_, ?_, ?_, ?_⟩
  · exact
      (Service.exchange_ends funded_wellFormed funded_suffice funded_distinct
          (.unkept allows half_unkept)).answers
  · have refuses :
        (reconfigured half .null).bank.RefusesExchange .deposit rent (.text "20.5")
          (.unwritable ⟨0, 0xD800, 1⟩) :=
      .unkeptName ⟨named, rfl⟩ rfl
    have wellFormed := reconfigured_wellFormed half .null
    exact (Service.exchange_refused wellFormed funded_distinct refuses).answers
  · have refuses :
        (reconfigured (.text "Settlement") (.text "SNAPSHOT")).bank.RefusesExchange .deposit rent
          (.text "20.5") (.unknownIsolation "SNAPSHOT") :=
      .unopened named snapshot_refused
    have wellFormed := reconfigured_wellFormed (.text "Settlement") (.text "SNAPSHOT")
    exact (Service.exchange_refused wellFormed funded_distinct refuses).answers
  · have refuses :
        funded.bank.RefusesExchange .deposit rent longInteger (.mismatched .integerUnwritable) :=
      .unwritable ofValue?_longInteger isWritable_longInteger
    exact (Service.exchange_refused funded_wellFormed funded_distinct refuses).answers

end Sample

end Bookkeeping
