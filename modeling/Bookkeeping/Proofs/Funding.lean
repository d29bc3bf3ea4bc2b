import Bookkeeping.Proofs.Settlement

/-!
# Paying in to a new account

A client who names no currency gets an account in the currency of the settings, in capitals.
The settlement account has that currency too, but as the settings write it: neither a migration
nor the bank itself puts it in capitals.  So it is a matter of how the setting is written
whether such an account can be paid in to.  In capitals it always can be, at any later time and
with any amount; otherwise every payment is refused, since the two currencies are not the same.
-/

namespace Bookkeeping

open Session

theorem Session.Fresh.able
    {desk : Desk}
    {session : Session}
    (fresh : Fresh false desk session) :
    Able session :=
  ⟨fresh.undoneBy, fresh.locked, fresh.staged, fresh.revised⟩

namespace Service

open Work

/-! ## Paying in -/

section Depositing

variable {before : Session} {id : Identifier} {settlement account : Account}

theorem depositing_answers
    {amount : Money}
    {description : Value}
    {kept? : Option String}
    (able : Able before)
    (sound : before.Sound)
    (suffice : before.sources.Suffice)
    (settled :
      before.desk.bank.policy.settlementName.kept?.bind before.tables.settlement? =
        some settlement)
    (present : before.tables.account? id = some account)
    (serves : account.isSystem = false)
    (sameCurrency : account.currency = settlement.currency)
    (positive : 0 < amount)
    (kept : storedText 7 (describe description "External deposit") = .ok kept?) :
    ∃ group after, depositing id amount description before = .ok group after ∧ Able after := by
  rcases counterparties_seen able settled present with ⟨middle, looking, seen⟩
  have found : counterparties id before = .ok (settlement, account) middle := by
    rw [seen, refuseSystem, requireCurrency]
    simp only [serves, sameCurrency, ne_eq, not_true_eq_false, Bool.false_eq_true, if_false]
    rfl
  rcases counterparties_ok sound found with ⟨-, -, -, -, presentFirst, presentSecond⟩
  have sameSources : middle.sources = before.sources := by
    rw [Session.sources, Session.sources, looking.desk]
  have givenFirst := Tables.Sound.given?_of_account sound suffice presentFirst
  have givenSecond := Tables.Sound.given?_of_account sound suffice presentSecond
  rw [← sameSources] at suffice
  rw [← looking.tables] at presentFirst presentSecond
  rcases move_answers (looking.able able) suffice (Int.ne_of_gt positive) givenSecond givenFirst
      (by rw [presentSecond]; rfl) (by rw [presentFirst]; rfl) kept
      (storedText_words 7 "Deposit to account " (by simp) account.id) with
    ⟨after, moved, ableThen, -⟩
  exact ⟨_, after, (sequence_after found).trans moved, ableThen⟩

/-- A payment into an account of another currency is refused before anything is written. -/
theorem depositing_mismatched
    {amount : Money}
    {description : Value}
    (able : Able before)
    (settled :
      before.desk.bank.policy.settlementName.kept?.bind before.tables.settlement? =
        some settlement)
    (present : before.tables.account? id = some account)
    (serves : account.isSystem = false)
    (other : account.currency ≠ settlement.currency) :
    ∃ after,
      depositing id amount description before =
          .error (.currencyMismatch settlement.currency account.currency) after ∧
        Untouched before after := by
  rcases counterparties_seen able settled present with ⟨middle, looking, seen⟩
  refine ⟨middle, sequence_error_iff.mpr (Or.inl ?_), looking⟩
  rw [seen, refuseSystem, requireCurrency]
  simp only [serves, other, ne_eq, not_false_eq_true, Bool.false_eq_true, if_true, if_false]
  rfl

end Depositing

theorem amountOf_answers
    {value : Value}
    {amount : Money}
    (named : Amount.ofValue value = .ok amount)
    (desk : Desk) :
    amountOf value desk = .ok amount desk := by
  rw [amountOf, named]
  rfl

section Deposit

variable
  {desk : Desk} {id : Identifier} {settlement account : Account} {amount : Value} {units : Money}

theorem deposit_answers
    {description : Value}
    {kept? : Option String}
    (sound : desk.bank.Sound)
    (known : Isolation.isUsable desk.bank.isolation = true)
    (suffice : desk.bank.sources.Suffice)
    (settled : desk.bank.settlement? = some settlement)
    (present : desk.bank.tables.account? id = some account)
    (serves : account.isSystem = false)
    (sameCurrency : account.currency = settlement.currency)
    (named : Amount.ofValue amount = .ok units)
    (kept : storedText 7 (describe description "External deposit") = .ok kept?) :
    ∃ group later, deposit .calm id amount description desk = .ok group later := by
  have free : Surroundings.calm.locked = false := rfl
  rcases inUnit_runs (depositing id units description) free known with ⟨session, fresh, ends⟩
  rw [← fresh.settlement?] at settled
  rw [← fresh.tables] at present
  rw [← fresh.sources] at suffice
  rcases depositing_answers fresh.able (fresh.sound sound) suffice settled present serves
      sameCurrency (Amount.ofValue_ok named).1 kept with
    ⟨group, final, deposited, ableThen⟩
  rw [deposited,
    conclude_answers group rfl ableThen.usable ableThen.nothing ableThen.unrevised] at ends
  exact ⟨group, _, sequence_ok (amountOf_answers named desk) (sequence_ok ends rfl)⟩

theorem deposit_mismatched
    (known : Isolation.isUsable desk.bank.isolation = true)
    (settled : desk.bank.settlement? = some settlement)
    (present : desk.bank.tables.account? id = some account)
    (serves : account.isSystem = false)
    (other : account.currency ≠ settlement.currency)
    (named : Amount.ofValue amount = .ok units)
    (description : Value) :
    ∃ later,
      deposit .calm id amount description desk =
          .error (.currencyMismatch settlement.currency account.currency) later ∧
        later.bank = desk.bank := by
  have free : Surroundings.calm.locked = false := rfl
  rcases inUnit_runs (depositing id units description) free known with ⟨session, fresh, ends⟩
  rw [← fresh.settlement?] at settled
  rw [← fresh.tables] at present
  rcases depositing_mismatched fresh.able settled present serves other with
    ⟨final, refused, looking⟩
  rw [refused] at ends
  refine ⟨final.desk, (sequence_after (amountOf_answers named desk)).trans ?_, ?_⟩
  · exact sequence_error_iff.mpr (Or.inl ends)
  · rw [looking.desk, fresh.desk]

end Deposit

/-! ## Opening an account without a currency -/

/-- The body that opens an account inserts one in the currency that was asked for. -/
theorem openingAccount_opens
    {barred : Bool}
    {desk : Desk}
    {session final : Session}
    {owner : Identifier}
    {title given : Value}
    {seen : Seen Account}
    (fresh : Fresh barred desk session)
    (opening : openingAccount owner title given session = .ok seen final) :
    currencyOf desk.bank.policy given = .ok seen.row.currency ∧ seen.row.isSystem = false ∧
      seen.row.id = desk.bank.sources.upcoming .account ∧ final.staged = [] ∧
      final.tables = (Write.account seen.row).apply desk.bank.tables := by
  rcases sequence_ok_iff.mp opening with ⟨user, first, found, rest⟩
  rcases sequence_ok_iff.mp rest with ⟨policy, second, ⟨⟩, rest⟩
  rcases sequence_ok_iff.mp rest with ⟨currency, third, converting, rest⟩
  rcases sequence_ok_iff.mp rest with ⟨account, fourth, opened, ⟨⟩⟩
  rcases ofExcept_ok_iff.mp converting with ⟨converted, rfl⟩
  have looking := (user_untouched owner).of_ok found
  rcases openAccount_ok opened with
    ⟨row, keptName, keptCurrency, -, currencyKept, sameRow, evolved, -, staged, shownRow⟩
  cases shownRow ((user_shown found).trans fresh.shown)
  rw [joining_eq_nil (looking.staged.trans fresh.staged), List.map_nil,
    List.nil_append] at evolved
  have inserted := evolved.applied (openAccount_usable opened).1
  rw [looking.tables, fresh.tables] at inserted
  rw [looking.desk, fresh.desk] at converted
  cases storedText_text currencyKept
  refine ⟨?_, ?_, ?_, staged, inserted⟩
  · rw [converted, sameRow]
    rfl
  · rw [sameRow]
    rfl
  · rw [sameRow, Session.sources, looking.desk, fresh.desk]
    rfl

/-- Opening an account that is answered appends it to the accounts, and changes nothing else. -/
theorem openAccount_appends
    {surroundings : Surroundings}
    {desk later : Desk}
    {owner : Identifier}
    {title given : Value}
    {seen : Seen Account}
    (answered : openAccount surroundings owner title given desk = .ok seen later) :
    later.bank.tables = (Write.account seen.row).apply desk.bank.tables ∧
      ∃ session final,
        Fresh surroundings.locked desk session ∧
          openingAccount owner title given session = .ok seen final := by
  rcases sequence_ok_iff.mp answered with ⟨told, first, ended, rest⟩
  rcases sequence_ok_iff.mp rest with ⟨⟨⟩, second, ⟨⟩, answer⟩
  rcases pure_ok_iff.mp answer with ⟨rfl, rfl⟩
  rcases inUnit_ok ended with ⟨session, final, last, fresh, opening, completed, rfl⟩
  rcases openingAccount_opens fresh opening with ⟨-, -, -, staged, inserted⟩
  rcases complete_ok completed with ⟨-, -, same, -⟩
  cases same staged
  refine ⟨?_, session, final, fresh, opening⟩
  change final.committed.bank.tables = _
  rw [committed_tables, inserted]

/-- An account that was opened is there, serves its owner, and has the currency asked for. -/
theorem openAccount_opens
    {surroundings : Surroundings}
    {desk later : Desk}
    {owner : Identifier}
    {title given : Value}
    {seen : Seen Account}
    (sound : desk.bank.Sound)
    (answered : openAccount surroundings owner title given desk = .ok seen later) :
    currencyOf desk.bank.policy given = .ok seen.row.currency ∧ seen.row.isSystem = false ∧
      later.bank.tables.account? seen.row.id = some seen.row := by
  rcases openAccount_appends answered with ⟨inserted, session, final, fresh, opening⟩
  rcases openingAccount_opens fresh opening with ⟨currency, serves, sameId, -, -⟩
  refine ⟨currency, serves, ?_⟩
  rw [inserted, Write.account?_account, sameId, sound.account?_upcoming, Option.none_or,
    if_pos rfl]

end Service

/-! ## Every run -/

/-- Deeds keep an account that is there. -/
theorem Bank.account?_isKept (id : Identifier) (account : Account) :
    Bank.IsKept fun bank =>
      ∃ row, bank.tables.account? id = some row ∧ row.Continues account := by
  rintro before after writes - ⟨row, found, continues⟩ - progress
  rcases progress.written.account?_continues found with ⟨later, foundThen, late⟩
  exact ⟨later, foundThen, late.trans continues⟩

namespace Opening

variable {settings : Settings} {begun : Desk}

/-- A bank begins with its settlement account: a migration has seeded it, or it is provided. -/
inductive Begins (settings : Settings) : Desk → Prop
  | migrated
      (named :
        (settings.value .settlementAccountName).kept? =
          some (settings.value .settlementAccountName).shown)
      (known : Isolation.isUsable (settings.value .isolationLevel) = true) :
      Begins settings (desk (bank settings true))
  | provided
      {seen : Seen Account}
      {later : Desk}
      (answered :
        Service.ensureSettlement .calm (desk (bank settings false)) = .ok seen later) :
      Begins settings later

/-- The settlement account with which a bank begins has the currency of the settings. -/
theorem Begins.settlement
    {currency : String}
    (denominated : settings.value .defaultCurrency = .text currency)
    (begins : Begins settings begun) :
    begun.bank.policy = .ofSettings settings ∧
      ∃ isMigrated settlement,
        Provides settings isMigrated begun settlement ∧ settlement.currency = currency := by
  cases begins with
  | migrated named known =>
      refine ⟨rfl, true, _, .seeded named known, ?_⟩
      rw [Migration.settlement, denominated]
      rfl
  | @provided seen later answered =>
      have ordinary : ∀ step ∈ ([] : List Step), step.isOrdinary = true := by simp
      have policy : begun.bank.policy = .ofSettings settings := by
        have grown : Keeps Grown Service.seedingSettlement :=
          Call.intention_grown (.ofSettings settings) .ensureSettlement
        exact (Work.inUnit_samePolicy grown).of_ok answered
      refine ⟨policy, false, seen.row, .answered ordinary rfl answered, ?_⟩
      -- No account is there before, so the setting has become the currency of this one.
      have absent : (bank settings false).settlement? = none := by
        rw [Bank.settlement?]
        exact Option.bind_eq_none_iff.mpr fun _ _ => rfl
      have kept := (Service.ensureSettlement_settles answered).2 absent
      have asked : (bank settings false).policy.defaultCurrency = .text currency := denominated
      rw [desk, asked] at kept
      exact Option.some.inj (storedText_text (Value.storedText_of_kept? kept 1))

/--
A client's account was opened without a currency, some time after a bank has begun.  The
settings name the currency then, and the settlement account now, as they did at the beginning;
they may have named others in between.
-/
inductive OpenedUnnamed (settings : Settings) : Desk → Account → Prop
  | intro
      {begun here opened now : Desk}
      {early late : List Step}
      {surroundings : Surroundings}
      {owner : Identifier}
      {title given : Value}
      {seen : Seen Account}
      (begins : Begins settings begun)
      (ordinaryEarly : ∀ step ∈ early, step.isOrdinary = true)
      (reached : here.bank = (begun.after early).bank)
      (sameCurrency : here.bank.policy.defaultCurrency = settings.value .defaultCurrency)
      (unnamed : given.isTruthy = false)
      (answered : Service.openAccount surroundings owner title given here = .ok seen opened)
      (ordinaryLate : ∀ step ∈ late, step.isOrdinary = true)
      (arrived : now.bank = (opened.after late).bank)
      (sameName : now.bank.policy.settlementName = settings.value .settlementAccountName) :
      OpenedUnnamed settings now seen.row

/-- The account and the settlement account are there, each in its writing of the currency. -/
theorem OpenedUnnamed.found
    {currency : String}
    (denominated : settings.value .defaultCurrency = .text currency)
    {now : Desk}
    {row : Account}
    (before : OpenedUnnamed settings now row) :
    now.bank.Sound ∧ Isolation.isUsable now.bank.isolation = true ∧
      ∃ settlement account : Account,
        now.bank.settlement? = some settlement ∧ settlement.currency = currency ∧
          now.bank.tables.account? row.id = some account ∧ account.isSystem = false ∧
          account.currency = Text.upper currency := by
  rcases before with
    ⟨begins, ordinaryEarly, reached, sameCurrency, unnamed, answered, ordinaryLate, arrived,
      sameName⟩
  rcases begins.settlement denominated with ⟨policy, isMigrated, first, provides, settles⟩
  rcases provides.settled with ⟨sound, settled, -⟩
  rcases Option.bind_eq_some_iff.mp settled with ⟨name, keptName, found⟩
  -- Up to where the account is opened, the settlement account stays.
  rcases Desk.after_keeps (Bank.settlement?_isKept name first) sound ⟨first, found, .refl first⟩
      ordinaryEarly with
    ⟨soundHere, foundHere⟩
  have knownHere := provides.known ordinaryEarly
  rw [← reached] at soundHere foundHere knownHere
  -- Where it is opened, the settlement account stays as well, and the account is there.
  rcases Service.openAccount_opens soundHere answered with ⟨asked, serves, present⟩
  rcases (Service.openAccount_does _ _ _ _).of_ok answered soundHere with
    ⟨writes, deed, progress, -⟩
  have soundOpened := progress.sound soundHere
  have foundOpened := Bank.settlement?_isKept name first soundHere foundHere deed progress
  have knownOpened := Bank.isolation_isKept soundHere knownHere deed progress
  -- From then on both of them stay.
  rcases Desk.after_keeps (Bank.settlement?_isKept name first) soundOpened foundOpened
      ordinaryLate with
    ⟨soundNow, settlement, foundNow, continues⟩
  rcases Desk.after_keeps (Bank.account?_isKept _ _) soundOpened ⟨_, present, .refl _⟩
      ordinaryLate with
    ⟨-, account, presentNow, opens⟩
  have knownNow := (Desk.after_keeps Bank.isolation_isKept soundOpened knownOpened ordinaryLate).2
  rw [← arrived] at soundNow foundNow presentNow knownNow
  rw [policy] at keptName
  simp only [Service.currencyOf, unnamed, Bool.false_eq_true, if_false, sameCurrency, denominated,
    Except.ok.injEq] at asked
  refine
    ⟨soundNow, knownNow, settlement, account, ?_, continues.currency.trans settles, presentNow,
      opens.isSystem.trans serves, opens.currency.trans asked.symm⟩
  rw [Bank.settlement?, sameName]
  exact Option.bind_eq_some_iff.mpr ⟨name, keptName, foundNow⟩

/--
An account that was opened without a currency can be paid in to at any later time and with any
amount, if the settings write the currency in capitals.  If they do not, no amount can be paid
in, and nothing but the two writings of the currency is the reason.
-/
theorem deposit_to_account_without_currency
    {currency : String}
    (denominated : settings.value .defaultCurrency = .text currency)
    {now : Desk}
    {row : Account}
    (before : OpenedUnnamed settings now row)
    (suffice : now.bank.sources.Suffice)
    {amount description : Value}
    {units : Money}
    {kept? : Option String}
    (named : Amount.ofValue amount = .ok units)
    (kept : storedText 7 (Service.describe description "External deposit") = .ok kept?) :
    (Text.upper currency = currency →
        ∃ group later, Service.deposit .calm row.id amount description now = .ok group later) ∧
      (Text.upper currency ≠ currency →
        ∃ later,
          Service.deposit .calm row.id amount description now =
              .error (.currencyMismatch currency (Text.upper currency)) later ∧
            later.bank = now.bank) := by
  rcases before.found denominated with
    ⟨sound, known, settlement, account, settled, written, present, serves, capitals⟩
  constructor
  · intro same
    have sameCurrency : account.currency = settlement.currency := by
      rw [capitals, written, same]
    exact
      Service.deposit_answers sound known suffice settled present serves sameCurrency named kept
  · intro other
    have different : account.currency ≠ settlement.currency := by
      rwa [capitals, written]
    have refused :=
      Service.deposit_mismatched known settled present serves different named description
    rwa [capitals, written] at refused

end Opening

namespace Sample

/-- The bank with a user who has just opened an account, and has named no currency. -/
def begun : Desk :=
  opened.after
    [.call (.createUser (.text "ada@example.com")),
      .call (.openAccount (.drawn .user 1) (.text "Savings") .null)]

/-- The rule at work: the account, into which something was paid before, takes a payment. -/
theorem deposit_to_savings :
    let later := begun.after [.call (.deposit savings (.text "5") .null)]
    ∃ group last, Service.deposit .calm savings (.text "10") .null later = .ok group last := by
  intro later
  have begins : Opening.Begins settings opened :=
    .migrated (by decide +kernel) (by decide +kernel)
  have registering :
      ∀ step ∈ [Step.call (.createUser (.text "ada@example.com"))], step.isOrdinary = true := by
    decide
  have paying :
      ∀ step ∈ [Step.call (.deposit savings (.text "5") .null)], step.isOrdinary = true := by
    decide
  have answered :
      ∃ seen,
        Service.openAccount .calm (.drawn .user 1) (.text "Savings") .null
              { opened.after [.call (.createUser (.text "ada@example.com"))] with log := [] } =
            .ok seen begun ∧
          seen.row.id = savings := ⟨_, rfl, rfl⟩
  rcases answered with ⟨seen, answered, sameId⟩
  have before : Opening.OpenedUnnamed settings later seen.row :=
    .intro begins registering rfl rfl rfl answered paying rfl rfl
  have denominated : settings.value .defaultCurrency = .text "NGN" := rfl
  have capitals : Text.upper "NGN" = "NGN" := by decide +kernel
  have suffice : later.bank.sources.Suffice :=
    ⟨by decide +kernel, by decide +kernel, by decide +kernel⟩
  have named : Amount.ofValue (.text "10") = .ok 100000 :=
    Amount.ofValue_eq_of_named (by decide +kernel)
  rw [← sameId]
  exact
    (Opening.deposit_to_account_without_currency denominated before suffice named rfl).1 capitals

/-- Where the settings write the currency in small letters, the account takes none at all. -/
theorem deposit_in_small_letters :
    let now :=
      Opening.after (settings.set .defaultCurrency (.text "ngn")) false
        [.call .ensureSettlement, .call (.createUser (.text "ada@example.com")),
          .call (.openAccount (.drawn .user 1) (.text "Savings") .null)]
    now.bank.tables.accounts.map Account.currency = ["ngn", "NGN"] ∧
      ∃ later,
        Service.deposit .calm savings (.text "10") .null now =
          .error (.currencyMismatch "ngn" "NGN") later := by
  intro now
  constructor
  · decide +kernel
  · exact ⟨_, rfl⟩

end Sample

end Bookkeeping
