import Bookkeeping.Proofs.Outcomes

/-!
# What a transfer ends in

The outcomes of a transfer, and for each of them the condition under which it is the outcome.
The conditions are those of the accounts as the bank has them and of the values that are handed
in; in which order the two accounts are locked is none of them.  Each condition of a failure
says that none of the former ones holds, so a transfer has one outcome and leaves one bank.

A description that counts as given may still be nothing that the database can keep, such as a
text with half of a character, or a list.  Then the transfer fails by what the database says of
it, however well everything else fits.
-/

namespace Bookkeeping

/-! ## The outcomes -/

namespace Bank

/-- An amount was named, a unit of work can be opened for it, and the accounts differ. -/
structure Considers
    (bank : Bank)
    (source destination : Identifier)
    (amount : Value)
    (units : Money) : Prop
    extends TakesUp bank amount units where
  distinct : source ≠ destination

/-- What is wrong with a transfer: the first of these that applies. -/
inductive RefusesTransfer (bank : Bank) (source destination : Identifier) (amount : Value) :
    Failure → Prop
  | unnamed
      (unnamed : Money.ofValue? amount = none)
      (writable : amount.isWritable = true) :
      RefusesTransfer bank source destination amount (.invalidAmount amount)
  | unwritable
      (unnamed : Money.ofValue? amount = none)
      (unwritable : amount.isWritable = false) :
      RefusesTransfer bank source destination amount (.mismatched .integerUnwritable)
  | sameAccount
      {units : Money}
      (named : Money.ofValue? amount = some units)
      (same : source = destination) :
      RefusesTransfer bank source destination amount (.sameAccountTransfer source)
  | unopened
      {units : Money}
      {failure : Failure}
      (named : Money.ofValue? amount = some units)
      (distinct : source ≠ destination)
      (refused : Isolation.Refused bank.isolation failure) :
      RefusesTransfer bank source destination amount failure
  | source
      {units : Money}
      {failure : Failure}
      (considers : bank.Considers source destination amount units)
      (bars : bank.tables.Bars source failure) :
      RefusesTransfer bank source destination amount failure
  | destination
      {units : Money}
      {payer : Account}
      {failure : Failure}
      (considers : bank.Considers source destination amount units)
      (pays : bank.tables.Serves source payer)
      (bars : bank.tables.Bars destination failure) :
      RefusesTransfer bank source destination amount failure
  | currency
      {units : Money}
      {payer payee : Account}
      (considers : bank.Considers source destination amount units)
      (pays : bank.tables.Serves source payer)
      (receives : bank.tables.Serves destination payee)
      (differ : payee.currency ≠ payer.currency) :
      RefusesTransfer bank source destination amount
        (.currencyMismatch payer.currency payee.currency)
  | incomparable
      {units : Money}
      {payer payee : Account}
      (considers : bank.Considers source destination amount units)
      (pays : bank.tables.Serves source payer)
      (receives : bank.tables.Serves destination payee)
      (sameCurrency : payee.currency = payer.currency)
      (large : ¬payer.balance.IsComparable) :
      RefusesTransfer bank source destination amount (.mismatched .decimalOutOfRange)
  | funds
      {units : Money}
      {payer payee : Account}
      (considers : bank.Considers source destination amount units)
      (pays : bank.tables.Serves source payer)
      (receives : bank.tables.Serves destination payee)
      (sameCurrency : payee.currency = payer.currency)
      (comparable : payer.balance.IsComparable)
      (short : payer.balance < units) :
      RefusesTransfer bank source destination amount
        (.insufficientFunds source units payer.balance)

/-- Nothing is wrong with a transfer. -/
structure AllowsTransfer
    (bank : Bank)
    (source destination : Identifier)
    (amount : Value)
    (units : Money) : Prop
    extends Considers bank source destination amount units where
  parties :
    ∃ payer payee,
      bank.tables.Serves source payer ∧ bank.tables.Serves destination payee ∧
        payee.currency = payer.currency ∧ payer.balance.IsComparable ∧ units ≤ payer.balance

/--
What a transfer answers or fails with, and the bank that it leaves.  One that is refused leaves
the bank as it is.  One that succeeds debits the source and credits the destination under a
group that no entry has borne before, and moves the two balances by the amount.
-/
inductive Transfers
    (bank : Bank)
    (source destination : Identifier)
    (amount description : Value) :
    Except Failure Identifier → Bank → Prop
  | refused
      {failure : Failure}
      (refuses : bank.RefusesTransfer source destination amount failure) :
      Transfers bank source destination amount description (.error failure) bank
  | unkept
      {units : Money}
      {failure : Failure}
      (allows : bank.AllowsTransfer source destination amount units)
      (unkept : description.IsUnkept failure) :
      Transfers bank source destination amount description (.error failure)
        { bank with sources := (bank.sources.advance .group).afterMaking .entry }
  | completed
      {units : Money}
      (allows : bank.AllowsTransfer source destination amount units)
      (kept : ∀ failure, ¬ description.IsUnkept failure)
      (isNew : ∀ entry ∈ bank.tables.entries, entry.group ≠ bank.sources.upcoming .group) :
      Transfers bank source destination amount description
        (.ok (bank.sources.upcoming .group))
        (bank.afterMovement .transfer
          ⟨source, units, 0, description.keptOr ("Transfer to " ++ destination.text)⟩
          ⟨destination, 0, units, description.keptOr ("Transfer from " ++ source.text)⟩)

/-- Every transfer has an outcome. -/
theorem transfers_total
    {bank : Bank}
    (wellFormed : bank.WellFormed)
    (source destination : Identifier)
    (amount description : Value) :
    ∃ outcome after, bank.Transfers source destination amount description outcome after := by
  cases named : Money.ofValue? amount with
  | none =>
      cases writable : amount.isWritable with
      | true => exact ⟨_, _, .refused (.unnamed named writable)⟩
      | false => exact ⟨_, _, .refused (.unwritable named writable)⟩
  | some units =>
      by_cases distinct : source = destination
      · exact ⟨_, _, .refused (.sameAccount named distinct)⟩
      rcases Isolation.isUsable_or_refused bank.isolation with opens | ⟨failure, refused⟩
      swap
      · exact ⟨_, _, .refused (.unopened named distinct refused)⟩
      have considers : bank.Considers source destination amount units := ⟨⟨named, opens⟩, distinct⟩
      rcases bank.tables.serves_or_bars source with ⟨payer, pays⟩ | ⟨failure, bars⟩
      swap
      · exact ⟨_, _, .refused (.source considers bars)⟩
      rcases bank.tables.serves_or_bars destination with ⟨payee, receives⟩ | ⟨failure, bars⟩
      swap
      · exact ⟨_, _, .refused (.destination considers pays bars)⟩
      by_cases sameCurrency : payee.currency = payer.currency
      swap
      · exact ⟨_, _, .refused (.currency considers pays receives sameCurrency)⟩
      by_cases comparable : payer.balance.IsComparable
      swap
      · exact ⟨_, _, .refused (.incomparable considers pays receives sameCurrency comparable)⟩
      rcases lt_or_ge payer.balance units with short | covered
      · exact ⟨_, _, .refused (.funds considers pays receives sameCurrency comparable short)⟩
      have allows : bank.AllowsTransfer source destination amount units :=
        ⟨considers, payer, payee, pays, receives, sameCurrency, comparable, covered⟩
      by_cases unkept : ∃ failure, description.IsUnkept failure
      · rcases unkept with ⟨failure, unkept⟩
        exact ⟨_, _, .unkept allows unkept⟩
      · exact
          ⟨_, _,
            .completed allows (not_exists.mp unkept) fun _ posted =>
              wellFormed.upcoming_unused posted⟩

end Bank

/-! ## What the checks come to -/

namespace Service

open Work

variable
  {bank : Bank} {source destination : Identifier} {amount description : Value} {units : Money}
  {payer payee : Account}

/-- Where both accounts are clients', what is left to be checked is whether they fit. -/
theorem transferring_serves
    (pays : bank.tables.Serves source payer)
    (receives : bank.tables.Serves destination payee)
    {target : Work Identifier}
    (goes :
      ComesTo bank
        (do
          requireCurrency payer.currency payee.currency
          requireFunds payer units
          move .transfer payer.id payee.id (-units)
            (describe description ("Transfer to " ++ payee.id.text))
            (describe description ("Transfer from " ++ payer.id.text)))
        target) :
    ComesTo bank (transferring source destination units description) target :=
  client_serves pays false <| client_serves receives false <|
    ComesTo.after (lockedPair_present pays.present receives.present) goes

/-- Where nothing is wrong with a transfer, nothing is left of it but the movement. -/
theorem transferring_allows
    (allows : bank.AllowsTransfer source destination amount units) :
    ∃ payer payee,
      bank.tables.Serves source payer ∧ bank.tables.Serves destination payee ∧
        ComesTo bank (transferring source destination units description)
          (move .transfer source destination (-units)
            (describe description ("Transfer to " ++ destination.text))
            (describe description ("Transfer from " ++ source.text))) := by
  rcases allows.parties with ⟨payer, payee, pays, receives, sameCurrency, comparable, covered⟩
  rcases Tables.account?_eq_some pays.present with ⟨-, rfl⟩
  rcases Tables.account?_eq_some receives.present with ⟨-, rfl⟩
  refine ⟨payer, payee, pays, receives, transferring_serves pays receives ?_⟩
  exact ComesTo.after (requireCurrency_passes sameCurrency) <|
    ComesTo.after (requireFunds_passes comparable covered) (.refl _)

variable {desk : Desk} {outcome : Except Failure Identifier} {after : Bank}

/-- A transfer of an amount between different accounts ends as its unit of work does. -/
theorem transfer_ends_as
    (named : Money.ofValue? amount = some units)
    (distinct : source ≠ destination)
    (ends :
      ((transferring source destination units description).inUnit .calm .null).EndsIn desk
        outcome after) :
    (transfer .calm source destination amount description).EndsIn desk outcome after := by
  refine .named named ?_
  rw [if_neg distinct]
  exact ends.told _

/-- A transfer whose checks come to a failure fails with it. -/
theorem transfer_fails
    {failure : Failure}
    (considers : desk.bank.Considers source destination amount units)
    (fails :
      ComesTo desk.bank (transferring source destination units description) (throw failure)) :
    (transfer .calm source destination amount description).EndsIn desk (.error failure)
      desk.bank :=
  transfer_ends_as considers.named considers.distinct (inUnit_refused considers.opens fails)

theorem transfer_refused
    {failure : Failure}
    (refuses : desk.bank.RefusesTransfer source destination amount failure) :
    (transfer .calm source destination amount description).EndsIn desk (.error failure)
      desk.bank := by
  cases refuses with
  | unnamed unnamed writable =>
      rw [← Amount.refusal_of_writable writable]
      exact .unnamed unnamed _
  | unwritable unnamed unwritable =>
      rw [← Amount.refusal_of_unwritable unwritable]
      exact .unnamed unnamed _
  | sameAccount named same =>
      refine .named named ?_
      rw [if_pos same]
      exact .of_error rfl
  | unopened named distinct refused =>
      exact transfer_ends_as named distinct (inUnit_unopened refused _)
  | source considers bars => exact transfer_fails considers (client_barred bars false _)
  | destination considers pays bars =>
      exact transfer_fails considers (client_serves pays false (client_barred bars false _))
  | currency considers pays receives differ =>
      refine transfer_fails considers (transferring_serves pays receives ?_)
      exact ComesTo.fails (requireCurrency_fails differ) _
  | incomparable considers pays receives sameCurrency large =>
      refine transfer_fails considers (transferring_serves pays receives ?_)
      exact ComesTo.after (requireCurrency_passes sameCurrency) <|
        ComesTo.fails (requireFunds_incomparable large _) _
  | funds considers pays receives sameCurrency comparable short =>
      rcases Tables.account?_eq_some pays.present with ⟨-, rfl⟩
      refine transfer_fails considers (transferring_serves pays receives ?_)
      exact ComesTo.after (requireCurrency_passes sameCurrency) <|
        ComesTo.fails (requireFunds_fails comparable short) _

/-- Whatever is said to be the outcome of a transfer is its outcome. -/
theorem transfer_ends
    (wellFormed : desk.bank.WellFormed)
    (suffice : desk.bank.sources.Suffice)
    (transfers : desk.bank.Transfers source destination amount description outcome after) :
    (transfer .calm source destination amount description).EndsIn desk outcome after := by
  cases transfers with
  | refused refuses => exact transfer_refused refuses
  | unkept allows unkept =>
      rcases transferring_allows allows with ⟨payer, payee, -, -, comes⟩
      refine transfer_ends_as allows.named allows.distinct ?_
      exact inUnit_unkept suffice allows.opens (describe_unkept unkept _) comes
  | @completed units allows kept isNew =>
      rcases transferring_allows allows with ⟨payer, payee, pays, receives, comes⟩
      refine transfer_ends_as allows.named allows.distinct ?_
      have positive := (Amount.ofValue_ok (Amount.ofValue_eq_of_named allows.named)).1
      have moves : -units ≠ 0 := Int.neg_ne_zero.mpr (Int.ne_of_gt positive)
      have keptTo := describe_answers kept (storedText_words 7 "Transfer to " (by simp) destination)
      have keptFrom := describe_answers kept (storedText_words 7 "Transfer from " (by simp) source)
      have ends :=
        inUnit_moves wellFormed suffice allows.opens moves pays.present receives.present keptTo
          keptFrom comes
      rwa [(Leg.ofEffect_of_pos positive source _).2, Int.neg_neg,
        (Leg.ofEffect_of_pos positive destination _).1] at ends

/--
A transfer has exactly the outcomes that are said of it: it fails for the first thing that is
wrong with it, and otherwise moves the amount and changes nothing else.
-/
theorem transfer_iff
    (wellFormed : desk.bank.WellFormed)
    (suffice : desk.bank.sources.Suffice)
    (source destination : Identifier)
    (amount description : Value)
    (outcome : Except Failure Identifier)
    (after : Bank) :
    (transfer .calm source destination amount description).EndsIn desk outcome after ↔
      desk.bank.Transfers source destination amount description outcome after := by
  constructor
  · intro ends
    rcases Bank.transfers_total wellFormed source destination amount description with
      ⟨other, left, transfers⟩
    rcases ends.unique (transfer_ends wellFormed suffice transfers) with ⟨rfl, rfl⟩
    exact transfers
  · exact transfer_ends wellFormed suffice

end Service

namespace Sample

theorem funded_allows : funded.bank.AllowsTransfer rent savings (.text "20.5") 205000 := by
  rcases funded_serves with ⟨payer, payee, pays, receives, paid, received, balance⟩
  refine ⟨⟨⟨by decide +kernel, funded_opens⟩, by decide⟩, payer, payee, pays, receives, ?_⟩
  have comparable : payer.balance.IsComparable := by
    rw [balance]
    decide
  exact ⟨received.trans paid.symm, comparable, Int.le_of_eq balance.symm⟩

/-- The rule at work: an account is emptied into one that has a smaller identifier. -/
theorem transfer_of_rent :
    (Service.transfer .calm rent savings (.text "20.5") .null).EndsIn funded
      (.ok (.drawn .group 2))
      (funded.bank.afterMovement .transfer
        ⟨rent, 205000, 0, some ("Transfer to " ++ savings.text)⟩
        ⟨savings, 0, 205000, some ("Transfer from " ++ rent.text)⟩) := by
  rw [← funded_group]
  exact
    (Service.transfer_iff funded_wellFormed funded_suffice rent savings (.text "20.5") .null _
          _).mpr
      (.completed funded_allows Value.not_isUnkept_null fun _ posted =>
        funded_wellFormed.upcoming_unused posted)

/--
Nothing that concerns the accounts or the amount is wrong, and the transfer still fails: with a
description that cannot be kept, or at a level of isolation that nobody knows.  And where the
amount is none, but an integer of too many digits to be quoted, that is not what is told.
-/
theorem transfer_with_half :
    funded.bank.WellFormed ∧ funded.bank.sources.Suffice ∧
      funded.bank.AllowsTransfer rent savings (.text "20.5") 205000 ∧
      answerOf (Service.transfer .calm rent savings (.text "20.5") half funded) =
        .error (.unwritable ⟨0, 0xD800, 1⟩) ∧
      answerOf
          (Service.transfer .calm rent savings (.text "20.5") .null
            (reconfigured (.text "Settlement") (.text "SNAPSHOT"))) =
        .error (.unknownIsolation "SNAPSHOT") ∧
      answerOf (Service.transfer .calm rent savings longInteger .null funded) =
        .error (.mismatched .integerUnwritable) := by
  refine ⟨funded_wellFormed, funded_suffice, funded_allows, ?_, ?_, ?_⟩
  · exact
      (Service.transfer_ends funded_wellFormed funded_suffice
          (.unkept funded_allows half_unkept)).answers
  · have refuses :
        (reconfigured (.text "Settlement") (.text "SNAPSHOT")).bank.RefusesTransfer rent savings
          (.text "20.5") (.unknownIsolation "SNAPSHOT") :=
      .unopened funded_allows.named funded_allows.distinct snapshot_refused
    exact (Service.transfer_refused refuses).answers
  · have refuses :
        funded.bank.RefusesTransfer rent savings longInteger (.mismatched .integerUnwritable) :=
      .unwritable ofValue?_longInteger isWritable_longInteger
    exact (Service.transfer_refused refuses).answers

end Sample

end Bookkeeping
