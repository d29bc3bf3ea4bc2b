import Bookkeeping.Proofs.Acknowledgements
import Bookkeeping.Proofs.Intentions

/-!
# Interleavings

Two runs may go on from the same bank, and each of them moves money in an order of its
own.  In between they look things up, open accounts, are refused, and meet faults and
locks.  All that counts in the end is what was acknowledged: the balance of an account is
what it was at the start, plus what was paid to it and less what it has paid.  So nothing
that was acknowledged is lost, nothing else is ever added, and two runs that have
acknowledged the same payments leave the same balances.

What a payment adds is determined by its kind, its accounts and its amount, but for the
account by which money comes in and goes out.  That is a matter of the settings and the
accounts, and it stays the same account as long as the settings stay, even where others
are opened.  An amount counts by what it comes to, however it is written.
-/

namespace Bookkeeping

open Session

/-! ## Payments -/

/-- What a call that moves money comes to, apart from the words that describe it. -/
inductive Payment where
  | deposit (account : Identifier) (units : Money)
  | withdrawal (account : Identifier) (units : Money)
  | transfer (source destination : Identifier) (units : Money)
deriving DecidableEq

/-- The payment for which a call asks, if it asks for one and names an amount. -/
def Call.payment? : Call → Option Payment
  | .deposit account amount _ => (Money.ofValue? amount).map (.deposit account)
  | .withdraw account amount _ => (Money.ofValue? amount).map (.withdrawal account)
  | .transfer source destination amount _ =>
    (Money.ofValue? amount).map (.transfer source destination)
  | _ => none

namespace Payment

def units : Payment → Money
  | .deposit _ units | .withdrawal _ units | .transfer _ _ units => units

/-- The account that pays, where the settlement account is given. -/
def payer? (settlement? : Option Identifier) : Payment → Option Identifier
  | .deposit _ _ => settlement?
  | .withdrawal account _ => some account
  | .transfer source _ _ => some source

/-- The account that is paid, where the settlement account is given. -/
def payee? (settlement? : Option Identifier) : Payment → Option Identifier
  | .deposit account _ => some account
  | .withdrawal _ _ => settlement?
  | .transfer _ destination _ => some destination

/-- What a payment adds to the balance of an account. -/
def share (settlement? : Option Identifier) (account : Identifier) (payment : Payment) : Money :=
  (if payment.payee? settlement? = some account then payment.units else 0) -
    if payment.payer? settlement? = some account then payment.units else 0

/-- Of the settlement account it only matters whether it is the account in question. -/
theorem share_congr
    {first? second? : Option Identifier}
    {account : Identifier}
    (same : first? = some account ↔ second? = some account)
    (payment : Payment) :
    payment.share first? account = payment.share second? account := by
  have payees : payment.payee? first? = some account ↔ payment.payee? second? = some account := by
    cases payment with
    | withdrawal client units => exact same
    | _ => exact Iff.rfl
  have payers : payment.payer? first? = some account ↔ payment.payer? second? = some account := by
    cases payment with
    | deposit client units => exact same
    | _ => exact Iff.rfl
  rw [share, share, if_congr payees rfl rfl, if_congr payers rfl rfl]

end Payment

namespace Acknowledgement

def payments (acknowledgements : List Acknowledgement) : List Payment :=
  acknowledgements.filterMap fun acknowledgement => acknowledgement.call.payment?

/-- What acknowledged payments add together to the balance of an account. -/
def shares
    (settlement? : Option Identifier)
    (account : Identifier)
    (acknowledgements : List Acknowledgement) :
    Money :=
  ((payments acknowledgements).map (Payment.share settlement? account)).sum

variable {settlement? : Option Identifier} {account : Identifier}

@[simp]
theorem shares_append (early late : List Acknowledgement) :
    shares settlement? account (early ++ late) =
      shares settlement? account early + shares settlement? account late := by
  simp [shares, payments]

theorem shares_congr
    {first? second? : Option Identifier}
    (same : first? = some account ↔ second? = some account)
    (acknowledgements : List Acknowledgement) :
    shares first? account acknowledgements = shares second? account acknowledgements := by
  have shares : Payment.share first? account = Payment.share second? account :=
    funext (Payment.share_congr same)
  rw [Acknowledgement.shares, Acknowledgement.shares, shares]

/-- The order of payments does not matter to what they add. -/
theorem shares_of_perm
    {first second : List Acknowledgement}
    (same : (payments first).Perm (payments second)) :
    shares settlement? account first = shares settlement? account second :=
  (same.map _).sum_eq

end Acknowledgement

/-! ## What entries add to balances -/

/-- The account by which money comes in and goes out. -/
def Bank.settlementId? (bank : Bank) : Option Identifier :=
  bank.settlement?.map Account.id

theorem Sources.effects_of_pair
    (sources : Sources)
    (operation : Operation)
    (first second : Leg)
    (account : Identifier) :
    Entry.effectOf (sources.pair operation first second) account =
      (if first.account = account then first.credit - first.debit else 0) +
        if second.account = account then second.credit - second.debit else 0 := by
  simp [pair, Leg.entry, Entry.effect]

/-- The entries that a call makes add to balances what its payment is to add. -/
theorem Call.effects_of_entries
    {bank : Bank}
    {call : Call}
    {operation : Operation}
    {first second : Leg}
    (paired : call.entries bank = bank.sources.pair operation first second) :
    ∃ payment,
      call.payment? = some payment ∧
        ∀ account,
          Entry.effectOf (call.entries bank) account =
            payment.share bank.settlementId? account := by
  cases call with
  | deposit client amount description =>
      cases named : Money.ofValue? amount with
      | none => simp [entries, named, Sources.pair] at paired
      | some units =>
          cases settles : bank.settlement? with
          | none => simp [entries, named, settles, Sources.pair] at paired
          | some settlement =>
              refine ⟨.deposit client units, by rw [payment?, named]; rfl, fun account => ?_⟩
              simp only [entries, named, settles, Sources.effects_of_pair, Payment.share,
                Payment.payee?, Payment.payer?, Payment.units, Bank.settlementId?,
                Option.map_some, Option.some.injEq]
              grind
  | withdraw client amount description =>
      cases named : Money.ofValue? amount with
      | none => simp [entries, named, Sources.pair] at paired
      | some units =>
          cases settles : bank.settlement? with
          | none => simp [entries, named, settles, Sources.pair] at paired
          | some settlement =>
              refine ⟨.withdrawal client units, by rw [payment?, named]; rfl, fun account => ?_⟩
              simp only [entries, named, settles, Sources.effects_of_pair, Payment.share,
                Payment.payee?, Payment.payer?, Payment.units, Bank.settlementId?,
                Option.map_some, Option.some.injEq]
              grind
  | transfer source destination amount description =>
      cases named : Money.ofValue? amount with
      | none => simp [entries, named, Sources.pair] at paired
      | some units =>
          refine
            ⟨.transfer source destination units, by rw [payment?, named]; rfl, fun account => ?_⟩
          simp only [entries, named, Sources.effects_of_pair, Payment.share, Payment.payee?,
            Payment.payer?, Payment.units, Option.some.injEq]
          grind
  | _ => cases paired

/-! ## Steps that leave the settings as they are -/

/-- Whether a step is ordinary and leaves the settings as they are. -/
def Step.isSteady : Step → Bool
  | .configure _ => false
  | .faulty _ step => step.isSteady
  | step => step.isOrdinary

theorem Step.isOrdinary_of_isSteady
    (step : Step)
    (steady : step.isSteady = true) :
    step.isOrdinary = true := by
  cases step with
  | configure changes => cases steady
  | faulty fault step => exact isOrdinary_of_isSteady step steady
  | _ => exact steady

def Desk.SamePolicy (before after : Desk) : Prop :=
  after.bank.policy = before.bank.policy

instance : IsPreorder Desk Desk.SamePolicy where
  refl _ := rfl
  trans _ _ _ early late := late.trans early

theorem Desk.SamePolicy.of_sameBank {before after : Desk} (same : Desk.SameBank before after) :
    Desk.SamePolicy before after :=
  congrArg Bank.policy same

theorem Work.inUnit_samePolicy
    {Answer : Type}
    {surroundings : Surroundings}
    {level : Value}
    {body : Work Answer}
    (grown : Keeps Grown body) :
    Keeps Desk.SamePolicy (body.inUnit surroundings level) := by
  intro desk
  rcases inUnit_cases surroundings level body desk with ⟨failure, ends⟩ | ⟨session, fresh, ends⟩
  · rw [ends]
    rfl
  · rw [ends]
    have continued : Continued session (stateOf (body session)) := (grown session).continued
    cases concluded : conclude surroundings.fault (body session) with
    | error failure later =>
        rcases conclude_error concluded with ⟨last, ended, same⟩
        change later.bank.policy = desk.bank.policy
        rw [same, (continued.trans ended).bank, fresh.desk]
    | ok answer later =>
        rcases conclude_ok concluded with ⟨final, last, answered, completed, rfl⟩
        rw [answered] at continued
        have ended := complete_continued.of_ok completed
        change last.committed.bank.policy = desk.bank.policy
        rw [committed_policy, (continued.trans ended).bank, fresh.desk]

namespace Step

/-- Steady steps leave the policy alone, whatever becomes of them. -/
theorem take_samePolicy
    (surroundings : Surroundings)
    (step : Step)
    (steady : step.isSteady = true)
    (desk : Desk) :
    Desk.SamePolicy desk (step.take surroundings desk).2 := by
  have performs (surroundings : Surroundings) (call : Call) :
      Keeps Desk.SamePolicy (call.perform surroundings) :=
    call.perform_keeps Desk.SamePolicy.of_sameBank fun _ => Work.inUnit_samePolicy
  cases step with
  | call made =>
      rw [take, outcomeOf_desk]
      exact performs surroundings made desk
  | request asked =>
      rw [take, outcomeOf_desk]
      exact Http.serve_keeps Desk.SamePolicy.of_sameBank (performs surroundings) asked desk
  | setClock time zone =>
      rw [take]
      rfl
  | configure changes => cases steady
  | store operation isGuarded => cases steady
  | unit level raised body => cases steady
  | fail met tellsState =>
      rw [take]
      rfl
  | faulty fault step =>
      rw [take]
      exact take_samePolicy { surroundings with fault := fault } step steady desk

end Step

/-! ## The settlement account stays -/

namespace Write

theorem settlement?_account (tables : Tables) (row : Account) (name : String) :
    ((Write.account row).apply tables).settlement? name =
      (tables.settlement? name).or
        (if row.isSystem && row.name = name then some row else none) := by
  simp only [Write.apply, Tables.settlement?, List.find?_append]
  congr 1
  rw [List.find?_singleton]

theorem settlement?_balance
    (tables : Tables)
    (moved : Identifier)
    (delta : Money)
    (name : String) :
    ((Write.balance moved delta).apply tables).settlement? name =
      (tables.settlement? name).map (Tables.movedAccount moved delta) := by
  simp only [Write.apply, Tables.settlement?, List.find?_map]
  congr 2
  funext account
  have continues := Tables.movedAccount_continues moved delta account
  rw [Function.comp_apply, continues.isSystem, continues.name]

/-- No account that can be looked up comes to be the settlement account, or ceases to be it. -/
theorem settles_iff
    {write : Write}
    {tables : Tables}
    (fits : write.Fits tables)
    {id : Identifier}
    {account : Account}
    (present : tables.account? id = some account)
    (name : String) :
    ((write.apply tables).settlement? name).map Account.id = some id ↔
      (tables.settlement? name).map Account.id = some id := by
  cases write with
  | user row => exact Iff.rfl
  | entry row => exact Iff.rfl
  | account row =>
      -- A new account may settle where none did, but it is not the one in question.
      have different : row.id ≠ id := by
        rintro rfl
        rw [fits.1] at present
        cases present
      rw [settlement?_account]
      cases tables.settlement? name with
      | some settlement => exact Iff.rfl
      | none => simp [different]
  | balance moved delta =>
      rw [settlement?_balance, Option.map_map]
      simp [Function.comp_def]

end Write

theorem Written.settles_iff
    {writes : List Write}
    {before after : Tables}
    (written : Written writes before after)
    {id : Identifier}
    {account : Account}
    (present : before.account? id = some account)
    (name : String) :
    (after.settlement? name).map Account.id = some id ↔
      (before.settlement? name).map Account.id = some id := by
  induction written generalizing account with
  | nil tables => exact Iff.rfl
  | @cons write rest before after fits others hypothesis =>
      rcases write.account?_continues present with ⟨middle, presentThen, -⟩
      exact (hypothesis presentThen).trans (Write.settles_iff fits present name)

/-- While the policy stays, an account that is there settles if and only if it did before. -/
theorem Bank.settlementId?_iff
    {before after : Bank}
    {writes : List Write}
    (written : Written writes before.tables after.tables)
    (policy : after.policy = before.policy)
    {id : Identifier}
    {account : Account}
    (present : before.tables.account? id = some account) :
    after.settlementId? = some id ↔ before.settlementId? = some id := by
  rw [settlementId?, settlementId?, settlement?, settlement?, policy]
  cases before.policy.settlementName.kept? with
  | none => exact Iff.rfl
  | some name => exact written.settles_iff present name

/-! ## What runs add to balances -/

/--
Acknowledged payments have added their shares to the balance of an account, and it is the
settlement account if and only if it was that before.
-/
structure Bank.Adds
    (acknowledgements : List Acknowledgement)
    (id : Identifier)
    (before after : Bank) : Prop where
  balance :
    ∀ {account : Account},
      before.tables.account? id = some account →
        ∃ now,
          after.tables.account? id = some now ∧
            now.balance =
              account.balance + Acknowledgement.shares before.settlementId? id acknowledgements
  settles :
    ∀ {account : Account},
      before.tables.account? id = some account →
        (after.settlementId? = some id ↔ before.settlementId? = some id)

namespace Bank.Adds

variable {id : Identifier}

theorem refl (bank : Bank) : Bank.Adds [] id bank bank where
  balance {account} present := ⟨account, present, (Int.add_zero _).symm⟩
  settles _ := Iff.rfl

theorem trans
    {early late : List Acknowledgement}
    {first second third : Bank}
    (before : Bank.Adds early id first second)
    (after : Bank.Adds late id second third) :
    Bank.Adds (early ++ late) id first third where
  balance := by
    intro account present
    rcases before.balance present with ⟨middle, presentThen, balanceThen⟩
    rcases after.balance presentThen with ⟨now, presentNow, balanceNow⟩
    refine ⟨now, presentNow, ?_⟩
    rw [balanceNow, balanceThen, Acknowledgement.shares_congr (before.settles present),
      Acknowledgement.shares_append, Int.add_assoc]
  settles := by
    intro account present
    rcases before.balance present with ⟨middle, presentThen, -⟩
    exact (after.settles presentThen).trans (before.settles present)

end Bank.Adds

/-- What a bank notes adds to the calculated balances what it is to add. -/
theorem Bank.Notes.calculatedBalance
    {before after : Bank}
    {new : Option Acknowledgement}
    (notes : Bank.Notes before after new)
    (id : Identifier) :
    after.tables.calculatedBalance id =
      before.tables.calculatedBalance id +
        Acknowledgement.shares before.settlementId? id new.toList := by
  cases notes with
  | nothing same =>
      have appended : after.tables.entries = before.tables.entries ++ [] :=
        same.trans (List.append_nil _).symm
      exact Tables.calculatedBalance_append appended id
  | movement enters known =>
      rcases enters.paired with ⟨operation, first, second, paired⟩
      rcases Call.effects_of_entries paired with ⟨payment, asked, effects⟩
      rw [Tables.calculatedBalance_append enters.entries, effects]
      simp [Acknowledgement.shares, Acknowledgement.payments, asked]

/-- A steady step adds to balances what it acknowledges. -/
theorem Step.take_adds
    (surroundings : Surroundings)
    (step : Step)
    (steady : step.isSteady = true)
    {desk : Desk}
    (sound : desk.bank.Sound)
    (id : Identifier) :
    Bank.Adds (step.acknowledged surroundings desk).toList id desk.bank
      (step.take surroundings desk).2.bank := by
  have ordinary := step.isOrdinary_of_isSteady steady
  rcases step.take_does surroundings ordinary desk sound with ⟨writes, deed, progress, -⟩
  have noted := (step.take_notes surroundings ordinary sound).calculatedBalance id
  constructor
  · intro account present
    rcases progress.written.account?_continues present with ⟨now, presentNow, -⟩
    refine ⟨now, presentNow, ?_⟩
    -- No deed adds to a drift, so what is stored has moved as what is calculated has.
    have drifts := progress.written.drift id
    simp only [deed.driftOf_eq_zero, Tables.drift, Tables.storedBalance, present, presentNow,
      Option.map_some, Option.getD_some] at drifts
    linarith
  · intro account present
    have policy := step.take_samePolicy surroundings steady desk
    exact Bank.settlementId?_iff progress.written policy present

/-- One desk comes from another one by steady steps, each of them in surroundings of its own. -/
inductive Desk.Runs : Desk → List Acknowledgement → Desk → Prop
  | done (desk : Desk) : Runs desk [] desk
  | step
      {desk last : Desk}
      {acknowledgements : List Acknowledgement}
      (surroundings : Surroundings)
      {step : Step}
      (steady : step.isSteady = true)
      (rest : Runs (step.take surroundings { desk with log := [] }).2 acknowledgements last) :
      Runs desk
        ((step.acknowledged surroundings { desk with log := [] }).toList ++ acknowledgements) last

namespace Desk

/-- Steady steps, one after the other, are a run. -/
theorem runs_after
    (desk : Desk)
    {steps : List Step}
    (steady : ∀ step ∈ steps, step.isSteady = true) :
    desk.Runs (desk.acknowledged steps) (desk.after steps) := by
  induction steps generalizing desk with
  | nil => exact .done desk
  | cons step rest hypothesis =>
      refine .step .calm (steady step List.mem_cons_self) (hypothesis _ ?_)
      exact fun other member => steady other (List.mem_cons_of_mem _ member)

/-- A run adds to balances what it acknowledges. -/
theorem Runs.adds
    {desk last : Desk}
    {acknowledgements : List Acknowledgement}
    (runs : desk.Runs acknowledgements last)
    (sound : desk.bank.Sound)
    (id : Identifier) :
    Bank.Adds acknowledgements id desk.bank last.bank := by
  induction runs with
  | done desk => exact .refl desk.bank
  | @step desk last acknowledgements surroundings step steady rest hypothesis =>
      have soundHere : ({ desk with log := [] } : Desk).bank.Sound := sound
      rcases step.take_does surroundings (step.isOrdinary_of_isSteady steady)
          { desk with log := [] } soundHere with
        ⟨writes, -, progress, -⟩
      have first := step.take_adds surroundings steady soundHere id
      exact first.trans (hypothesis (progress.sound sound))

end Desk

/--
Two runs that go on from the same bank and acknowledge the same payments, in whatever order
and with whatever steps in between, leave the same balances.  The balance of an account is
then what it was, plus what the acknowledged payments have paid to it and less what it has
paid by them, and this holds of the settlement account as well.
-/
theorem Opening.balances_of_interleavings
    (settings : Settings)
    (isMigrated : Bool)
    (earlier : List Step)
    {first second : Desk}
    {firstAcknowledged secondAcknowledged : List Acknowledgement}
    (one : (after settings isMigrated earlier).Runs firstAcknowledged first)
    (other : (after settings isMigrated earlier).Runs secondAcknowledged second)
    (same :
      (Acknowledgement.payments firstAcknowledged).Perm
        (Acknowledgement.payments secondAcknowledged)) :
    let start := (after settings isMigrated earlier).bank
    ∀ account ∈ start.tables.accounts,
      ∃ left right,
        first.bank.tables.account? account.id = some left ∧
          second.bank.tables.account? account.id = some right ∧
          left.balance = right.balance ∧
          left.balance =
            account.balance +
              Acknowledgement.shares start.settlementId? account.id firstAcknowledged := by
  intro start account member
  have sound : start.Sound := (after_sound settings isMigrated earlier).1
  have present := sound.account?_of_mem member
  rcases (one.adds sound account.id).balance present with ⟨left, foundLeft, leftBalance⟩
  rcases (other.adds sound account.id).balance present with ⟨right, foundRight, rightBalance⟩
  refine ⟨left, right, foundLeft, foundRight, ?_, leftBalance⟩
  rw [leftBalance, rightBalance, Acknowledgement.shares_of_perm same]

namespace Sample

/-- A deposit, a transfer of some of it, and a withdrawal. -/
def inOrder : List Step :=
  [.call (.deposit rent (.text "20") .null),
    .call (.transfer rent savings (.text "15") .null),
    .call (.withdraw savings (.text "5") .null)]

/--
The same three in another order and with other words; before them the transfer is refused, and
between them a withdrawal fails to commit.
-/
def reordered : List Step :=
  [.call (.transfer rent savings (.text "15") .null),
    .call (.deposit rent (.text "20") (.text "Cash")),
    .faulty ⟨true, false⟩ (.call (.withdraw savings (.text "10") .null)),
    .call (.withdraw savings (.text "5") .null),
    .call .reconcileAll,
    .call (.transfer rent savings (.text "15") .null)]

/-- The rule at work: the balance is the same in the end, and nothing of what failed is in it. -/
theorem balances_of_reordered :
    let start := Opening.after settings true (steps.take 5)
    ∃ left right,
      (start.after inOrder).bank.tables.account? savings = some left ∧
        (start.after reordered).bank.tables.account? savings = some right ∧
        left.balance = right.balance ∧ left.balance = 1100000 := by
  intro start
  have one : start.Runs (start.acknowledged inOrder) (start.after inOrder) :=
    start.runs_after (by decide)
  have other : start.Runs (start.acknowledged reordered) (start.after reordered) :=
    start.runs_after (by decide)
  have same :
      (Acknowledgement.payments (start.acknowledged inOrder)).Perm
        (Acknowledgement.payments (start.acknowledged reordered)) := by
    decide +kernel
  have shares :
      Acknowledgement.shares start.bank.settlementId? savings (start.acknowledged inOrder) =
        100000 := by
    decide +kernel
  have present :
      ∃ account ∈ start.bank.tables.accounts,
        account.id = savings ∧ account.balance = 1000000 := by
    decide +kernel
  rcases present with ⟨account, member, sameId, balance⟩
  have balances :=
    Opening.balances_of_interleavings settings true (steps.take 5) one other same account member
  rw [sameId] at balances
  rcases balances with ⟨left, right, foundLeft, foundRight, equal, sum⟩
  exact ⟨left, right, foundLeft, foundRight, equal, by rw [sum, balance, shares]; rfl⟩

end Sample

end Bookkeeping
