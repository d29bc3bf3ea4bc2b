import Bookkeeping.Proofs.Queries
import Bookkeeping.Service.Movements

/-!
# Movements of money

A movement is what a deposit, a withdrawal or a transfer writes: an entry that
debits one account, an entry that credits another one with the same amount, and
the same two effects on the stored balances.  The bodies of the three operations
are taken apart here.  Each of them, if it answers, has made one movement that is
proper, which is to say that its entries fit together and its accounts fit the
operation, and that is covered by what the client's account holds.
-/

namespace Bookkeeping

open Session

/-! ## Entries that fit together -/

/-- The movement of a balance that an entry explains. -/
def Entry.settling (entry : Entry) : Write :=
  .balance entry.account entry.effect

/-- An entry records that an operation has an effect on an account. -/
structure Entry.Records
    (operation : Operation)
    (group account : Identifier)
    (effect : Money)
    (entry : Entry) : Prop where
  operation : entry.operation = operation
  group : entry.group = group
  account : entry.account = account
  debit : entry.debit = max 0 (-effect)
  credit : entry.credit = max 0 effect

/-- What an entry adds to the balance is the effect that it records. -/
theorem Entry.Records.effect
    {operation : Operation}
    {group account : Identifier}
    {effect : Money}
    {entry : Entry}
    (records : entry.Records operation group account effect) :
    entry.effect = effect := by
  have cancelling (units : Int) : max 0 units - max 0 (-units) = units := by omega
  rw [Entry.effect, records.debit, records.credit]
  exact cancelling effect

/-- Whether an operation may move money from one account to another. -/
def Operation.joins (operation : Operation) (payer payee : Account) : Bool :=
  match operation with
  | .deposit => payer.isSystem && !payee.isSystem
  | .withdrawal => !payer.isSystem && payee.isSystem
  | .transfer => !payer.isSystem && !payee.isSystem

/-- What one operation writes: an entry that debits an account, and one that credits another. -/
structure Movement where
  debited : Entry
  credited : Entry

namespace Movement

/-- The identifier that the entries share. -/
def group (movement : Movement) : Identifier :=
  movement.debited.group

/-- The amount that is moved. -/
def amount (movement : Movement) : Money :=
  movement.debited.debit

/-- The entries in the order in which they are written: the client's side comes first. -/
def entries (movement : Movement) : List Entry :=
  if movement.debited.operation = .deposit then [movement.credited, movement.debited]
  else [movement.debited, movement.credited]

/-- The writes of a movement: the entries, and then the balances that they explain. -/
def writes (movement : Movement) : List Write :=
  movement.entries.map .entry ++ movement.entries.map Entry.settling

/-- Two accounts between which money may be moved by an operation. -/
structure Parties (operation : Operation) (payer payee : Account) : Prop where
  distinct : payer.id ≠ payee.id
  currency : payee.currency = payer.currency
  joined : operation.joins payer payee = true

/-- The entries of a movement fit together, and its accounts fit its operation. -/
structure Proper (movement : Movement) (tables : Tables) : Prop where
  group : movement.credited.group = movement.debited.group
  operation : movement.credited.operation = movement.debited.operation
  debit : movement.credited.debit = 0
  credit : movement.debited.credit = 0
  same : movement.credited.credit = movement.amount
  positive : 0 < movement.amount
  bounded : movement.amount < Money.limit
  parties :
    ∃ payer payee,
      tables.account? movement.debited.account = some payer ∧
        tables.account? movement.credited.account = some payee ∧
        Parties movement.debited.operation payer payee

/-- The account that is debited holds the amount, unless it is the bank's own. -/
def Covered (movement : Movement) (tables : Tables) : Prop :=
  ∀ payer,
    tables.account? movement.debited.account = some payer →
      payer.isSystem = false → movement.amount ≤ payer.balance

variable {movement : Movement} {tables : Tables}

/-- Accounts stay what they are, so a movement that is proper stays proper. -/
theorem Proper.written
    {writes : List Write}
    {after : Tables}
    (proper : movement.Proper tables)
    (written : Written writes tables after) :
    movement.Proper after := by
  rcases proper.parties with ⟨payer, payee, foundPayer, foundPayee, parties⟩
  rcases written.account?_continues foundPayer with ⟨laterPayer, foundLaterPayer, samePayer⟩
  rcases written.account?_continues foundPayee with ⟨laterPayee, foundLaterPayee, samePayee⟩
  refine
    { proper with
      parties := ⟨laterPayer, laterPayee, foundLaterPayer, foundLaterPayee, ?_⟩ }
  constructor
  · rw [samePayer.id, samePayee.id]
    exact parties.distinct
  · rw [samePayer.currency, samePayee.currency]
    exact parties.currency
  · simp only [Operation.joins, samePayer.isSystem, samePayee.isSystem]
    exact parties.joined

/-- Of an amount nothing is on the side that it leaves, and all of it on the other one. -/
theorem sides_of_pos
    {amount : Money}
    (positive : 0 < amount) :
    max 0 (-amount) = 0 ∧ max 0 amount = amount :=
  ⟨Int.max_eq_left (Int.neg_nonpos_of_nonneg (Int.le_of_lt positive)),
    Int.max_eq_right (Int.le_of_lt positive)⟩

/-- Entries that record opposite effects on two parties are a proper movement. -/
theorem proper_of_records
    {operation : Operation}
    {group : Identifier}
    {amount : Money}
    {payer payee : Account}
    (positive : 0 < amount)
    (bounded : amount < Money.limit)
    (debits : movement.debited.Records operation group payer.id (-amount))
    (credits : movement.credited.Records operation group payee.id amount)
    (foundPayer : tables.account? payer.id = some payer)
    (foundPayee : tables.account? payee.id = some payee)
    (parties : Parties operation payer payee) :
    movement.Proper tables := by
  rcases sides_of_pos positive with ⟨spent, gained⟩
  have sameAmount : movement.amount = amount := by
    rw [Movement.amount, debits.debit, Int.neg_neg, gained]
  constructor
  · rw [credits.group, debits.group]
  · rw [credits.operation, debits.operation]
  · rw [credits.debit, spent]
  · rw [debits.credit, spent]
  · rw [credits.credit, sameAmount, gained]
  · rwa [sameAmount]
  · rwa [sameAmount]
  · rw [debits.account, credits.account, debits.operation]
    exact ⟨payer, payee, foundPayer, foundPayee, parties⟩

/-! ## What a movement leaves -/

/-- An account after a movement. -/
def settled (movement : Movement) (account : Account) : Account :=
  Tables.movedAccount movement.credited.account movement.amount
    (Tables.movedAccount movement.debited.account (-movement.amount) account)

theorem settled_continues (movement : Movement) (account : Account) :
    (movement.settled account).Continues account :=
  (Tables.movedAccount_continues _ _ _).trans (Tables.movedAccount_continues _ _ _)

theorem Proper.debited_effect (proper : movement.Proper tables) :
    movement.debited.effect = -movement.amount := by
  rw [Entry.effect, proper.credit, Int.zero_sub, amount]

theorem Proper.credited_effect (proper : movement.Proper tables) :
    movement.credited.effect = movement.amount := by
  rw [Entry.effect, proper.debit, proper.same, Int.sub_zero]

/-- A movement continues the entries by its own, and moves the balances of its accounts. -/
theorem Proper.after_eq
    {after : Tables}
    (proper : movement.Proper tables)
    (written : Written movement.writes tables after) :
    after =
      { tables with
        accounts := tables.accounts.map movement.settled
        entries := tables.entries ++ movement.entries } := by
  rw [written.eq_foldl, writes, entries]
  split
  · simp [Write.apply, Entry.settling, proper.debited_effect, proper.credited_effect,
      Function.comp_def, settled, Tables.movedAccount_comm movement.debited.account]
  · simp [Write.apply, Entry.settling, proper.debited_effect, proper.credited_effect,
      Function.comp_def, settled]

end Movement

/-! ## The steps of an operation -/

namespace Service

open Work

variable {before after : Session}

theorem refuseSystem_ok
    {account : Account}
    (allowed : refuseSystem account before = .ok () after) :
    account.isSystem = false ∧ after = before := by
  rw [refuseSystem] at allowed
  split at allowed
  · simp at allowed
  · rename_i own
    exact ⟨by simpa using own, (pure_ok_iff.mp allowed).2.symm⟩

theorem requireCurrency_ok
    {expected actual : String}
    (allowed : requireCurrency expected actual before = .ok () after) :
    actual = expected ∧ after = before := by
  rw [requireCurrency] at allowed
  split at allowed
  · simp at allowed
  · rename_i same
    exact ⟨by simpa using same, (pure_ok_iff.mp allowed).2.symm⟩

theorem requireFunds_ok
    {account : Account}
    {amount : Money}
    (allowed : requireFunds account amount before = .ok () after) :
    account.balance.IsComparable ∧ amount ≤ account.balance ∧ after = before := by
  rcases sequence_ok_iff.mp allowed with ⟨available, middle, compared, rest⟩
  rcases comparedBalance_ok compared with ⟨comparable, rfl, rfl⟩
  split at rest
  · simp at rest
  · rename_i enough
    exact ⟨comparable, Int.not_lt.mp enough, (pure_ok_iff.mp rest).2.symm⟩

theorem refuseSystem_untouched (account : Account) : Keeps Untouched (refuseSystem account) := by
  rw [refuseSystem]
  split
  · exact Keeps.throw _
  · exact Keeps.pure ()

theorem requireCurrency_untouched (expected actual : String) :
    Keeps Untouched (requireCurrency expected actual) := by
  rw [requireCurrency]
  split
  · exact Keeps.throw _
  · exact Keeps.pure ()

theorem requireFunds_untouched (account : Account) (amount : Money) :
    Keeps Untouched (requireFunds account amount) := by
  refine (comparedBalance_untouched account).bind fun available => ?_
  split
  · exact Keeps.throw _
  · exact Keeps.pure ()

theorem counterparties_untouched (id : Identifier) : Keeps Untouched (counterparties id) :=
  policy_untouched.bind fun policy =>
    (settlement_untouched policy.settlementName true).bind fun settlement =>
      (account_untouched id true).bind fun account =>
        (refuseSystem_untouched account).bind fun _ =>
          (requireCurrency_untouched settlement.currency account.currency).bind fun _ =>
            Keeps.pure (settlement, account)

theorem lockedPair_untouched (first second : Identifier) :
    Keeps Untouched (lockedPair first second) := by
  rw [lockedPair]
  split
  · exact
      (account_untouched first true).bind fun _ =>
        (account_untouched second true).bind fun _ => Keeps.pure _
  · exact
      (account_untouched second true).bind fun _ =>
        (account_untouched first true).bind fun _ => Keeps.pure _

/-- Whichever account is locked first, each of the two is answered in its own place. -/
theorem lockedPair_ok
    {first second : Identifier}
    {firstAccount secondAccount : Account}
    (answered : lockedPair first second before = .ok (firstAccount, secondAccount) after) :
    before.tables.account? first = some firstAccount ∧
      before.tables.account? second = some secondAccount := by
  rw [lockedPair] at answered
  split at answered
  · rcases sequence_ok_iff.mp answered with ⟨one, middle, found, rest⟩
    rcases sequence_ok_iff.mp rest with ⟨two, last, foundThen, answer⟩
    rcases pure_ok_iff.mp answer with ⟨⟨⟩, -⟩
    rcases account_locking_ok found with ⟨-, present⟩
    rcases account_locking_ok foundThen with ⟨-, presentThen⟩
    rw [((account_untouched first true).of_ok found).tables] at presentThen
    exact ⟨present, presentThen⟩
  · rcases sequence_ok_iff.mp answered with ⟨two, middle, found, rest⟩
    rcases sequence_ok_iff.mp rest with ⟨one, last, foundThen, answer⟩
    rcases pure_ok_iff.mp answer with ⟨⟨⟩, -⟩
    rcases account_locking_ok found with ⟨-, present⟩
    rcases account_locking_ok foundThen with ⟨-, presentThen⟩
    rw [((account_untouched second true).of_ok found).tables] at presentThen
    exact ⟨presentThen, present⟩

/-- The counterparties are the settlement account of the policy and the account that was named. -/
theorem counterparties_found
    {id : Identifier}
    {settlement account : Account}
    (answered : counterparties id before = .ok (settlement, account) after) :
    before.desk.bank.policy.settlementName.kept?.bind before.tables.settlement? =
        some settlement ∧
      before.tables.account? id = some account ∧
      account.isSystem = false ∧ account.currency = settlement.currency := by
  rcases sequence_ok_iff.mp answered with ⟨policy, first, looked, rest⟩
  rcases sequence_ok_iff.mp rest with ⟨foundSettlement, second, settled, rest⟩
  rcases sequence_ok_iff.mp rest with ⟨foundAccount, third, found, rest⟩
  rcases sequence_ok_iff.mp rest with ⟨_, fourth, allowed, rest⟩
  rcases sequence_ok_iff.mp rest with ⟨_, fifth, sameCurrency, answer⟩
  rcases pure_ok_iff.mp answer with ⟨same, -⟩
  cases same
  cases looked
  have sameSecond := ((settlement_untouched _ true).of_ok settled).tables
  rcases settlement_locking_ok settled with ⟨-, name, kept, named⟩
  rcases account_locking_ok found with ⟨-, present⟩
  rw [sameSecond] at present
  refine ⟨?_, present, (refuseSystem_ok allowed).1, (requireCurrency_ok sameCurrency).1⟩
  rw [Value.kept?_eq kept]
  exact named

/-- The counterparties are a settlement account and a client's account of one currency. -/
theorem counterparties_ok
    {id : Identifier}
    {settlement account : Account}
    (sound : before.Sound)
    (answered : counterparties id before = .ok (settlement, account) after) :
    settlement.isSystem = true ∧ account.isSystem = false ∧
      account.currency = settlement.currency ∧ settlement.id ≠ account.id ∧
      before.tables.account? settlement.id = some settlement ∧
      before.tables.account? account.id = some account := by
  rcases counterparties_found answered with ⟨settled, present, serves, sameCurrency⟩
  rcases Option.bind_eq_some_iff.mp settled with ⟨name, -, named⟩
  rcases Tables.settlement?_eq_some named with ⟨member, settles, -⟩
  have foundFirst := sound.account?_of_mem member
  rw [← (Tables.account?_eq_some present).2] at present
  refine ⟨settles, serves, sameCurrency, ?_, foundFirst, present⟩
  intro sameId
  rw [sameId, present] at foundFirst
  cases foundFirst
  rw [serves] at settles
  cases settles

/-- The entry of one side records the effect on its account. -/
theorem side_records
    (operation : Operation)
    (group account : Identifier)
    (effect : Money)
    (description : Value)
    (sources : Sources) :
    ((side operation group account effect description).entry sources).Records operation group
      account effect :=
  ⟨rfl, rfl, rfl, rfl, rfl⟩

/--
Moving money writes the entries of its two sides, one after the other, and moves the two
balances by their effects.  The texts that the entries were given were kept.
-/
theorem move_ok
    {operation : Operation}
    {firstId secondId group : Identifier}
    {effect : Money}
    {firstDescription secondDescription : Value}
    (nothingStaged : before.staged = [])
    (moved :
      move operation firstId secondId effect firstDescription secondDescription before =
        .ok group after) :
    group = before.sources.upcoming .group ∧
      ∃ early late : Entry,
        early =
            (side operation group firstId effect firstDescription).entry
              (before.sources.advance .group) ∧
          late =
            (side operation group secondId (-effect) secondDescription).entry
              ((before.sources.advance .group).afterMaking .entry) ∧
          Evolved [.entry early, .entry late, early.settling, late.settling] before after ∧
          (before.sources.advance .group).Precedes after.sources ∧ after.staged = [] ∧
          storedText 7 firstDescription = .ok firstDescription.kept? ∧
          storedText 7 secondDescription = .ok secondDescription.kept? := by
  rcases sequence_ok_iff.mp moved with ⟨drawn, first, drawing, rest⟩
  rcases sequence_ok_iff.mp rest with ⟨early, second, postedEarly, rest⟩
  rcases sequence_ok_iff.mp rest with ⟨late, third, postedLate, rest⟩
  rcases sequence_ok_iff.mp rest with ⟨⟨⟩, fourth, movedEarly, rest⟩
  rcases sequence_ok_iff.mp rest with ⟨⟨⟩, fifth, movedLate, answer⟩
  rcases pure_ok_iff.mp answer with ⟨rfl, rfl⟩
  rcases drawGroup_ok drawing with ⟨rfl, advanced, keptStaged⟩
  rcases post_ok postedEarly with ⟨rowEarly, evolvedEarly, -, emptyEarly, made, keptEarly⟩
  rcases post_ok postedLate with ⟨rowLate, evolvedLate, -, emptyLate, -, keptLate⟩
  rcases moveBalance_ok movedEarly with ⟨settledEarly, -, sameEarly⟩
  rcases moveBalance_ok movedLate with ⟨settledLate, -, sameLate⟩
  rw [joining_eq_nil (keptStaged.trans nothingStaged), List.map_nil] at evolvedEarly
  rw [joining_eq_nil emptyEarly, List.map_nil] at evolvedLate
  rw [advanced] at rowEarly made
  rw [made] at rowLate
  have recordsEarly :
      early.Records operation (before.sources.upcoming .group) firstId effect := by
    rw [rowEarly]
    exact side_records operation _ firstId effect firstDescription _
  have recordsLate :
      late.Records operation (before.sources.upcoming .group) secondId (-effect) := by
    rw [rowLate]
    exact side_records operation _ secondId (-effect) secondDescription _
  have written := ((evolvedEarly.trans evolvedLate).trans settledEarly).trans settledLate
  refine ⟨rfl, early, late, rowEarly, rowLate, ?_, ?_, ?_, keptEarly, keptLate⟩
  · rw [Entry.settling, Entry.settling, recordsEarly.account, recordsLate.account,
      recordsEarly.effect, recordsLate.effect]
    exact (drawGroup_evolved.of_ok drawing).trans written
  · rw [← advanced]
    exact written.sources
  · rw [sameLate, sameEarly, emptyLate]

/-- A session has evolved by a movement under a group that was drawn for it. -/
structure Moved (group : Identifier) (before after : Session) (movement : Movement) : Prop where
  proper : movement.Proper before.tables
  covered : movement.Covered before.tables
  sameGroup : movement.group = group
  drawn : group = before.sources.upcoming .group
  advanced : (before.sources.advance .group).Precedes after.sources
  evolved : Evolved movement.writes before after
  staged : after.staged = []

/-- A movement that was made in a session that was only looked at before was made in the whole. -/
theorem Moved.of_untouched
    {first : Session}
    {group : Identifier}
    {movement : Movement}
    (untouched : Untouched before first)
    (moved : Moved group first after movement) :
    Moved group before after movement := by
  have sameSources : first.sources = before.sources := by
    rw [Session.sources, Session.sources, untouched.desk]
  rcases moved with ⟨proper, covered, sameGroup, drawn, advanced, evolved, staged⟩
  rw [untouched.tables] at proper covered
  rw [sameSources] at drawn advanced
  exact ⟨proper, covered, sameGroup, drawn, advanced, untouched.evolved.trans evolved, staged⟩

/-- What is paid out of one account is credited to the other one. -/
theorem paying_moved
    {operation : Operation}
    {payer payee : Account}
    {amount : Money}
    {firstDescription secondDescription : Value}
    {group : Identifier}
    (positive : 0 < amount)
    (bounded : amount < Money.limit)
    (nothingStaged : before.staged = [])
    (foundPayer : before.tables.account? payer.id = some payer)
    (foundPayee : before.tables.account? payee.id = some payee)
    (parties : Movement.Parties operation payer payee)
    (covered : payer.isSystem = false → amount ≤ payer.balance)
    (outgoing : operation ≠ .deposit)
    (moved :
      move operation payer.id payee.id (-amount) firstDescription secondDescription before =
        .ok group after) :
    ∃ movement, Moved group before after movement := by
  rcases move_ok nothingStaged moved with
    ⟨drawn, early, late, rowEarly, rowLate, evolved, advanced, staged, -⟩
  have debits : early.Records operation group payer.id (-amount) := by
    rw [rowEarly]
    exact side_records operation group payer.id (-amount) firstDescription _
  have credits : late.Records operation group payee.id amount := by
    rw [rowLate, Int.neg_neg]
    exact side_records operation group payee.id amount secondDescription _
  refine ⟨⟨early, late⟩, ?_, ?_, debits.group, drawn, advanced, ?_, staged⟩
  · exact Movement.proper_of_records positive bounded debits credits foundPayer foundPayee parties
  · intro found foundDebited own
    change before.tables.account? early.account = some found at foundDebited
    rw [debits.account, foundPayer] at foundDebited
    cases foundDebited
    have sameAmount : (⟨early, late⟩ : Movement).amount = amount := by
      rw [Movement.amount, debits.debit, Int.neg_neg, (Movement.sides_of_pos positive).2]
    rw [sameAmount]
    exact covered own
  · rw [← debits.operation] at outgoing
    simpa [Movement.writes, Movement.entries, outgoing] using evolved

/-- A deposit credits the client's account first. -/
theorem depositing_moved
    {id group : Identifier}
    {amount : Money}
    {description : Value}
    (positive : 0 < amount)
    (bounded : amount < Money.limit)
    (sound : before.Sound)
    (nothingStaged : before.staged = [])
    (deposited : depositing id amount description before = .ok group after) :
    ∃ movement, Moved group before after movement := by
  rcases sequence_ok_iff.mp deposited with ⟨⟨settlement, account⟩, first, found, moved⟩
  have looking := (counterparties_untouched id).of_ok found
  rcases counterparties_ok sound found with
    ⟨settles, serves, sameCurrency, distinct, foundSettlement, foundAccount⟩
  rcases move_ok (looking.staged.trans nothingStaged) moved with
    ⟨drawn, early, late, rowEarly, rowLate, evolved, advanced, staged, -⟩
  have credits : early.Records .deposit group account.id amount := by
    rw [rowEarly]
    exact side_records .deposit group account.id amount _ _
  have debits : late.Records .deposit group settlement.id (-amount) := by
    rw [rowLate]
    exact side_records .deposit group settlement.id (-amount) _ _
  refine ⟨⟨late, early⟩, Moved.of_untouched looking ?_⟩
  rw [← looking.tables] at foundSettlement foundAccount
  have parties : Movement.Parties .deposit settlement account :=
    ⟨distinct, sameCurrency, by simp [Operation.joins, settles, serves]⟩
  refine ⟨?_, ?_, debits.group, drawn, advanced, ?_, staged⟩
  · exact
      Movement.proper_of_records positive bounded debits credits foundSettlement foundAccount
        parties
  · intro payer foundDebited own
    change first.tables.account? late.account = some payer at foundDebited
    rw [debits.account, foundSettlement] at foundDebited
    cases foundDebited
    rw [settles] at own
    cases own
  · simpa [Movement.writes, Movement.entries, debits.operation] using evolved

/-- A withdrawal pays the bank out of the client's account. -/
theorem withdrawing_moved
    {id group : Identifier}
    {amount : Money}
    {description : Value}
    (positive : 0 < amount)
    (bounded : amount < Money.limit)
    (sound : before.Sound)
    (nothingStaged : before.staged = [])
    (withdrawn : withdrawing id amount description before = .ok group after) :
    ∃ movement, Moved group before after movement := by
  rcases sequence_ok_iff.mp withdrawn with ⟨⟨settlement, account⟩, first, found, rest⟩
  rcases sequence_ok_iff.mp rest with ⟨⟨⟩, second, funded, moved⟩
  have looking := (counterparties_untouched id).of_ok found
  rcases counterparties_ok sound found with
    ⟨settles, serves, sameCurrency, distinct, foundSettlement, foundAccount⟩
  rcases requireFunds_ok funded with ⟨-, enough, rfl⟩
  rw [← looking.tables] at foundSettlement foundAccount
  have parties : Movement.Parties .withdrawal account settlement :=
    ⟨distinct.symm, sameCurrency.symm, by simp [Operation.joins, settles, serves]⟩
  rcases paying_moved positive bounded (looking.staged.trans nothingStaged) foundAccount
      foundSettlement parties (fun _ => enough) (by decide) moved with
    ⟨movement, made⟩
  exact ⟨movement, made.of_untouched looking⟩

/--
A transfer that answers has found two clients' accounts of one currency, of which the
first one holds the amount, and has moved it after no more than looking at them.
-/
theorem transferring_ok
    {sourceId destinationId group : Identifier}
    {amount : Money}
    {description : Value}
    (nothingShown : before.shown = [])
    (transferred :
      transferring sourceId destinationId amount description before = .ok group after) :
    ∃ source destination last,
      before.tables.account? sourceId = some source ∧
        before.tables.account? destinationId = some destination ∧
        source.isSystem = false ∧ destination.isSystem = false ∧
        destination.currency = source.currency ∧ amount ≤ source.balance ∧
        Untouched before last ∧
        move .transfer source.id destination.id (-amount)
            (describe description ("Transfer to " ++ destination.id.text))
            (describe description ("Transfer from " ++ source.id.text)) last =
          .ok group after := by
  rcases sequence_ok_iff.mp transferred with ⟨shownSource, first, seenSource, rest⟩
  rcases sequence_ok_iff.mp rest with ⟨⟨⟩, second, servesSource, rest⟩
  rcases sequence_ok_iff.mp rest with ⟨shownDestination, third, seenDestination, rest⟩
  rcases sequence_ok_iff.mp rest with ⟨⟨⟩, fourth, servesDestination, rest⟩
  rcases sequence_ok_iff.mp rest with ⟨⟨source, destination⟩, fifth, locked, rest⟩
  rcases sequence_ok_iff.mp rest with ⟨⟨⟩, sixth, currency, rest⟩
  rcases sequence_ok_iff.mp rest with ⟨⟨⟩, seventh, funded, moved⟩
  rcases refuseSystem_ok servesSource with ⟨ownSource, rfl⟩
  rcases refuseSystem_ok servesDestination with ⟨ownDestination, rfl⟩
  rcases requireCurrency_ok currency with ⟨sameCurrency, rfl⟩
  rcases requireFunds_ok funded with ⟨-, enough, rfl⟩
  have toFirst := (account_untouched sourceId false).of_ok seenSource
  have toThird := toFirst.trans ((account_untouched destinationId false).of_ok seenDestination)
  have toFifth := toThird.trans ((lockedPair_untouched sourceId destinationId).of_ok locked)
  have showsRows : ShowsRows before := by simp [ShowsRows, nothingShown]
  rcases account_plain_ok showsRows seenSource with ⟨-, presentSource, showsThen⟩
  rcases account_plain_ok showsThen seenDestination with ⟨-, presentDestination, -⟩
  rcases lockedPair_ok locked with ⟨rowSource, rowDestination⟩
  -- All reads see the same tables, so the locking reads answer what was checked before.
  rw [toFirst.tables] at presentDestination
  rw [toThird.tables, presentSource] at rowSource
  rw [toThird.tables, presentDestination] at rowDestination
  cases rowSource
  cases rowDestination
  exact
    ⟨shownSource, shownDestination, _, presentSource, presentDestination, ownSource,
      ownDestination, sameCurrency, enough, toFifth, moved⟩

/-- A transfer pays one client out of the account of another one. -/
theorem transferring_moved
    {sourceId destinationId group : Identifier}
    {amount : Money}
    {description : Value}
    (positive : 0 < amount)
    (bounded : amount < Money.limit)
    (distinct : sourceId ≠ destinationId)
    (nothingShown : before.shown = [])
    (nothingStaged : before.staged = [])
    (transferred :
      transferring sourceId destinationId amount description before = .ok group after) :
    ∃ movement, Moved group before after movement := by
  rcases transferring_ok nothingShown transferred with
    ⟨source, destination, last, foundSource, foundDestination, ownSource, ownDestination,
      sameCurrency, enough, looking, moved⟩
  have sourceSame := (Tables.account?_eq_some foundSource).2
  have destinationSame := (Tables.account?_eq_some foundDestination).2
  have parties : Movement.Parties .transfer source destination := by
    refine ⟨?_, sameCurrency, by simp [Operation.joins, ownSource, ownDestination]⟩
    rw [sourceSame, destinationSame]
    exact distinct
  rw [← looking.tables] at foundSource foundDestination
  rcases paying_moved positive bounded (looking.staged.trans nothingStaged)
      (by rw [sourceSame]; exact foundSource)
      (by rw [destinationSame]; exact foundDestination)
      parties (fun _ => enough) (by decide) moved with
    ⟨movement, made⟩
  exact ⟨movement, made.of_untouched looking⟩

end Service

end Bookkeeping
