import Bookkeeping.Proofs.Faults
import Bookkeeping.Proofs.Routes

/-!
# What is put on record, and what is committed

A bank puts on record that it has opened an account, seeded the settlement account, or
completed a movement of money.  The effects that a call has committed can be read off the
rows that are new: an account tells of its opening, and two entries of one movement tell
what was moved.  What a call puts on record are these effects, each of them once, with
their identifiers and amounts.

There is one exception.  The settlement account is announced inside of its unit of work,
before the commit, so it is on record even if the commit fails.  All other effects are
announced after the commit.
-/

namespace Bookkeeping

open Session

variable {Part : Type}

/-! ## Effects -/

/-- Something that a call does to the ledger and puts on record. -/
inductive Effect where
  | opening (account owner : Identifier)
  | seeding (account : Identifier)
  | deposit (group account : Identifier) (amount : Money)
  | withdrawal (group account : Identifier) (amount : Money)
  | transfer (group source destination : Identifier) (amount : Money)
deriving DecidableEq

/-- The effect that an announcement tells of, if it tells of one. -/
def Announcement.effect? : Announcement → Option Effect
  | .accountOpened account owner _ => some (.opening account owner)
  | .settlementSeeded account _ => some (.seeding account)
  | .depositCompleted group account amount => some (.deposit group account amount)
  | .withdrawalCompleted group account amount => some (.withdrawal group account amount)
  | .transferCompleted group source destination amount =>
    some (.transfer group source destination amount)
  | _ => none

/-- The effects of which announcements tell. -/
def Announcement.effects (announcements : List Announcement) : List Effect :=
  announcements.filterMap effect?

/-- An account that belongs to somebody was opened, and any other one was seeded. -/
def Account.effect (account : Account) : Effect :=
  match account.owner with
  | some owner => .opening account.id owner
  | none => .seeding account.id

/-- The effect of a movement, whose first entry is that of the client who asked for it. -/
def Effect.ofPair (first second : Entry) : Effect :=
  match first.operation with
  | .deposit => .deposit first.group first.account first.credit
  | .withdrawal => .withdrawal first.group first.account first.debit
  | .transfer => .transfer first.group first.account second.account first.debit

/-- The effects of entries, of which every two belong to one movement. -/
def Effect.ofEntries : List Entry → List Effect
  | first :: second :: rest => ofPair first second :: ofEntries rest
  | _ => []

/-- The effects of the rows that tables have beyond those of earlier tables. -/
def Tables.effectsSince (later earlier : Tables) : List Effect :=
  (later.accounts.drop earlier.accounts.length).map Account.effect ++
    Effect.ofEntries (later.entries.drop earlier.entries.length)

namespace Announcement

@[simp]
theorem effects_append (first second : List Announcement) :
    effects (first ++ second) = effects first ++ effects second := by
  simp [effects]

theorem severity_of_effect
    {announcement : Announcement}
    (tells : announcement.effect?.isSome) :
    announcement.severity = .info := by
  cases announcement <;> first | rfl | cases tells

end Announcement

/-- A reconciliation tells of no effect. -/
@[simp]
theorem Reconciliation.announcement_effect? (reconciliation : Reconciliation) :
    reconciliation.announcement.effect? = none := by
  rw [announcement]
  split
  · rfl
  · rfl

@[simp]
theorem Tables.effectsSince_self (tables : Tables) : tables.effectsSince tables = [] := by
  simp [effectsSince, Effect.ofEntries]

/-! ## Silent work -/

namespace Work

/-- What is on record stays the same. -/
def Silent (before after : Session) : Prop :=
  after.desk.log = before.desk.log

instance : IsPreorder Session Silent where
  refl _ := rfl
  trans _ _ _ early late := late.trans early

theorem make_silent (kind : Identifier.Kind) : Keeps Silent (make kind) := by
  intro before
  rw [make]
  split
  · rfl
  · rfl

theorem view_silent : Keeps Silent view :=
  view_untouched.mono fun _ _ untouched => congrArg Desk.log untouched.desk

theorem undone_silent (session : Session) (failure : Failure) :
    Silent session (session.undone failure) := by
  rw [Silent, Session.undone]
  split
  · rfl
  · rfl

theorem flush_silent
    (rows : List UserDraft → List Revision → Tables → Except Failure (Part × Tables)) :
    Keeps Silent (flush rows) := by
  apply Keeps.intro
  · intro before answer after flushed
    rcases flush_ok flushed with ⟨-, -, tables, -, rfl⟩
    rfl
  · intro before failure after flushed
    rw [flush_error flushed]
    exact undone_silent before failure

theorem reading_silent {work : Work Part} (keeps : Keeps Untouched work) : Keeps Silent work :=
  keeps.mono fun _ _ untouched => congrArg Desk.log untouched.desk

theorem rewording_silent
    (words : Failure → Failure)
    {work : Work Part}
    (keeps : Keeps Silent work) :
    Keeps Silent (rewording words work) := by
  apply Keeps.intro
  · intro before answer after answered
    exact keeps.of_ok (rewording_ok_iff.mp answered)
  · intro before failure after failed
    rcases rewording_error failed with ⟨met, failedFirst⟩
    exact keeps.of_error failedFirst

/-- No query puts anything on record. -/
theorem silent_keptByQueries : KeptByQueries Silent where
  looking untouched := congrArg Desk.log untouched.desk
  createUser email := by
    rw [createUser_eq]
    refine (reading_silent (isTaken_untouched email)).bind fun taken => ?_
    cases taken with
    | true => exact Keeps.throw _
    | false =>
        refine (make_silent .user).bind fun _ => ?_
        refine (rewording_silent _ (flush_silent _)).bind fun _ => ?_
        exact (reading_silent (keepGiven_untouched _ _)).bind fun _ => Keeps.pure _
  openAccount name currency owner isSystem := by
    refine (make_silent .account).bind fun _ => ?_
    refine (flush_silent _).bind fun row => ?_
    refine (reading_silent (keepGiven_untouched _ _)).bind fun _ => ?_
    exact reading_silent (remember_untouched row)
  drawGroup _ := rfl
  post posting := by
    refine (make_silent .entry).bind fun _ => ?_
    refine (flush_silent _).bind fun row => ?_
    exact (reading_silent (keepGiven_untouched _ _)).bind fun _ => Keeps.pure row
  moveBalance id delta := by
    refine view_silent.bind fun tables => ?_
    refine (reading_silent (orFail_untouched _ _)).bind fun moved => ?_
    exact fun _ => rfl

end Work

theorem Session.complete_silent : Keeps Work.Silent complete := by
  intro before
  rw [complete]
  split
  · rfl
  · rw [Work.flushWaiting]
    split
    · rfl
    · exact Work.flush_silent _ before

theorem Session.committed_log (session : Session) : session.committed.log = session.desk.log := by
  rw [committed]
  split
  · rfl
  · rfl

/-! ## Units of work on record -/

namespace Work

/-- What the end of a unit of work puts on record. -/
def ending (fault : Fault) : EStateM.Result Failure Session Part → List Announcement
  | .error failure _ => if fault.rollback then [.rollbackFailed failure .storageLost] else []
  | .ok _ _ => []

theorem ending_effects (fault : Fault) (result : EStateM.Result Failure Session Part) :
    Announcement.effects (ending fault result) = [] := by
  cases result with
  | ok part final => rfl
  | error failure left =>
      rw [ending]
      split
      · rfl
      · rfl

theorem conclude_log (fault : Fault) (result : EStateM.Result Failure Session Part) :
    (stateOf (conclude fault result)).log = (stateOf result).desk.log ++ ending fault result := by
  cases result with
  | error failure left =>
      rw [conclude_raised, ending]
      split
      · rfl
      · exact (List.append_nil _).symm
  | ok part final =>
      rw [ending, List.append_nil, conclude]
      split
      · rfl
      · have silent := complete_silent final
        cases completed : complete final with
        | error failure last =>
            rw [completed] at silent
            exact silent
        | ok done last =>
            rw [completed] at silent
            exact (committed_log last).trans silent

variable {surroundings : Surroundings} {level : Value} {body : Work Part}

/-- A unit of work with a silent body puts no effect on record. -/
theorem inUnit_silent (silent : Keeps Silent body) (desk : Desk) :
    ∃ told,
      (stateOf (body.inUnit surroundings level desk)).log = desk.log ++ told ∧
        Announcement.effects told = [] := by
  rcases inUnit_cases surroundings level body desk with ⟨failure, ends⟩ | ⟨session, fresh, ends⟩
  · rw [ends]
    exact ⟨[], (List.append_nil _).symm, rfl⟩
  · rw [ends]
    refine ⟨ending surroundings.fault (body session), ?_, ending_effects _ _⟩
    have same : (stateOf (body session)).desk.log = session.desk.log := silent session
    rw [conclude_log, same, fresh.desk]

end Work

/-! ## What units of work tell -/

namespace Tables

theorem effectsSince_user (row : User) (tables : Tables) :
    ((Write.user row).apply tables).effectsSince tables = [] := by
  simp [effectsSince, Write.apply, Effect.ofEntries]

theorem effectsSince_account (row : Account) (tables : Tables) :
    ((Write.account row).apply tables).effectsSince tables = [row.effect] := by
  simp [effectsSince, Write.apply, Effect.ofEntries]

theorem effectsSince_pair (early late : Entry) (tables : Tables) :
    ([.entry early, .entry late, early.settling, late.settling].foldl Write.apply
        tables).effectsSince tables =
      [.ofPair early late] := by
  simp [effectsSince, Write.apply, Entry.settling, Effect.ofEntries]

end Tables

namespace Work

/--
What is told of the answer of a body are the effects of the rows that the body has
written; the body itself tells of nothing.
-/
structure Reports (body : Work Part) (told : Part → List Announcement) : Prop where
  silent : Keeps Silent body
  effects :
    ∀ {barred : Bool} {desk : Desk} {session final : Session} {part : Part},
      Fresh barred desk session → final.undoneBy = none → body session = .ok part final →
        final.staged = [] ∧
          Announcement.effects (told part) = final.tables.effectsSince session.tables

/-- A body that only reads reports truly if nothing of it is told as an effect. -/
theorem Reports.of_reading
    {body : Work Part}
    {told : Part → List Announcement}
    (keeps : Keeps Untouched body)
    (quiet : ∀ part, Announcement.effects (told part) = []) :
    Reports body told where
  silent := reading_silent keeps
  effects := by
    intro barred desk session final part fresh usable answered
    have untouched := keeps.of_ok answered
    refine ⟨untouched.staged.trans fresh.staged, ?_⟩
    rw [quiet, untouched.tables, Tables.effectsSince_self]

/-- A query that only looks a row up shows no account. -/
theorem user_shown
    {id : Identifier}
    {before after : Session}
    {row : User}
    (found : user id before = .ok row after) :
    after.shown = before.shown := by
  rcases sequence_ok_iff.mp found with ⟨tables, first, viewed, looked⟩
  rcases view_ok viewed with ⟨-, -, rfl, -⟩
  rcases orFail_ok_iff.mp looked with ⟨-, rfl⟩
  rfl

theorem findSettlement_none_shown
    {name : Value}
    {before after : Session}
    (found : findSettlement name before = .ok none after) :
    after.shown = before.shown := by
  rcases sequence_ok_iff.mp found with ⟨found?, first, named, rest⟩
  rcases sequence_ok_iff.mp named with ⟨tables, second, viewed, converted⟩
  rcases view_ok viewed with ⟨-, -, rfl, -⟩
  rcases sequence_ok_iff.mp converted with ⟨text?, third, kept, looked⟩
  rcases ofExcept_ok_iff.mp kept with ⟨-, rfl⟩
  rcases pure_ok_iff.mp looked with ⟨-, rfl⟩
  cases found? with
  | none =>
      rcases pure_ok_iff.mp rest with ⟨-, rfl⟩
      rfl
  | some row =>
      rcases sequence_ok_iff.mp rest with ⟨shown, fourth, -, wrong⟩
      simp at wrong

/-- Opening an account that answers has not undone the session, and leaves nothing to write. -/
theorem openAccount_usable
    {name currency : Value}
    {owner : Option Identifier}
    {isSystem : Bool}
    {before after : Session}
    {answer : Account}
    (opened : openAccount name currency owner isSystem before = .ok answer after) :
    after.undoneBy = none ∧ after.revised = [] := by
  rcases sequence_ok_iff.mp opened with ⟨⟨id, time⟩, first, made, rest⟩
  rcases sequence_ok_iff.mp rest with ⟨row, second, inserted, rest⟩
  rcases sequence_ok_iff.mp rest with ⟨⟨⟩, third, kept, remembered⟩
  rcases insert_ok (insertBetween_ok inserted) with ⟨usable, -, -, middle, tables, -, -, rfl⟩
  have keeping := (keepGiven_untouched _ _).of_ok kept
  have showing := (remember_untouched row).of_ok remembered
  rw [showing.undoneBy, keeping.undoneBy, showing.revised, keeping.revised]
  exact ⟨usable, rfl⟩

end Work

namespace Service

open Work

theorem creatingUser_reports (email : Value) : Reports (creatingUser email) fun _ => [] where
  silent := silent_keptByQueries.creatingUser email
  effects := by
    intro barred desk session final seen fresh usable answered
    rcases sequence_ok_iff.mp answered with ⟨user, middle, created, seeing⟩
    rcases createUser_ok created with ⟨evolved, -, staged, -⟩
    rw [joining_eq_nil fresh.staged, List.map_nil, List.nil_append] at evolved
    have showing := (seen_untouched user.id user).of_ok seeing
    refine ⟨showing.staged.trans staged, ?_⟩
    rw [(evolved.trans showing.evolved).applied usable]
    exact (Tables.effectsSince_user user session.tables).symm

theorem openingAccount_reports (owner : Identifier) (name currency : Value) :
    Reports (openingAccount owner name currency) fun seen =>
      [.accountOpened seen.row.id owner seen.row.currency] where
  silent := silent_keptByQueries.openingAccount owner name currency
  effects := by
    intro barred desk session final seen fresh usable answered
    rcases sequence_ok_iff.mp answered with ⟨user, first, found, rest⟩
    rcases sequence_ok_iff.mp rest with ⟨policy, second, looked, rest⟩
    rcases sequence_ok_iff.mp rest with ⟨written, third, converted, rest⟩
    rcases sequence_ok_iff.mp rest with ⟨account, fourth, opened, seeing⟩
    cases looked
    rcases ofExcept_ok_iff.mp converted with ⟨-, rfl⟩
    cases seeing
    have looking := (user_untouched owner).of_ok found
    rcases openAccount_ok opened with
      ⟨row, keptName, keptCurrency, -, -, sameRow, evolved, -, staged, shownRow⟩
    cases shownRow ((user_shown found).trans fresh.shown)
    rw [joining_eq_nil (looking.staged.trans fresh.staged), List.map_nil,
      List.nil_append] at evolved
    refine ⟨staged, ?_⟩
    rw [(looking.evolved.trans evolved).applied usable]
    change _ = ((Write.account account).apply session.tables).effectsSince session.tables
    rw [Tables.effectsSince_account, Account.effect, sameRow]
    rfl

/-- Moving money writes the two entries that a movement tells of. -/
theorem move_effects
    {operation : Operation}
    {firstId secondId group : Identifier}
    {effect : Money}
    {firstDescription secondDescription : Value}
    {session first final : Session}
    (looking : Untouched session first)
    (nothingStaged : session.staged = [])
    (usable : final.undoneBy = none)
    (moved :
      move operation firstId secondId effect firstDescription secondDescription first =
        .ok group final) :
    final.staged = [] ∧
      ∃ early late : Entry,
        early.Records operation group firstId effect ∧
          late.Records operation group secondId (-effect) ∧
          final.tables.effectsSince session.tables = [.ofPair early late] := by
  rcases move_ok (looking.staged.trans nothingStaged) moved with
    ⟨-, early, late, rowEarly, rowLate, evolved, -, staged, -⟩
  refine ⟨staged, early, late, ?_, ?_, ?_⟩
  · rw [rowEarly]
    exact side_records operation group firstId effect firstDescription _
  · rw [rowLate]
    exact side_records operation group secondId (-effect) secondDescription _
  · rw [evolved.applied usable, looking.tables]
    exact Tables.effectsSince_pair early late session.tables

variable {units : Money}

theorem depositing_reports
    (positive : 0 < units)
    (account : Identifier)
    (description : Value) :
    Reports (depositing account units description) fun group =>
      [.depositCompleted group account units] where
  silent := silent_keptByQueries.depositing account units description
  effects := by
    intro barred desk session final group fresh usable deposited
    rcases sequence_ok_iff.mp deposited with ⟨⟨settlement, client⟩, first, found, moved⟩
    have looking := (counterparties_untouched account).of_ok found
    rcases counterparties_found found with ⟨-, present, -, -⟩
    rcases move_effects looking fresh.staged usable moved with
      ⟨staged, early, late, credits, -, made⟩
    have sameId : client.id = account := (Tables.account?_eq_some present).2
    refine ⟨staged, ?_⟩
    rw [made, Effect.ofPair, credits.operation, credits.group, credits.account, credits.credit,
      (Movement.sides_of_pos positive).2, sameId]
    rfl

theorem withdrawing_reports
    (positive : 0 < units)
    (account : Identifier)
    (description : Value) :
    Reports (withdrawing account units description) fun group =>
      [.withdrawalCompleted group account units] where
  silent := silent_keptByQueries.withdrawing account units description
  effects := by
    intro barred desk session final group fresh usable withdrawn
    rcases sequence_ok_iff.mp withdrawn with ⟨⟨settlement, client⟩, first, found, rest⟩
    rcases sequence_ok_iff.mp rest with ⟨⟨⟩, second, funded, moved⟩
    rcases requireFunds_ok funded with ⟨-, -, rfl⟩
    have looking := (counterparties_untouched account).of_ok found
    rcases counterparties_found found with ⟨-, present, -, -⟩
    rcases move_effects looking fresh.staged usable moved with
      ⟨staged, early, late, debits, -, made⟩
    have sameId : client.id = account := (Tables.account?_eq_some present).2
    refine ⟨staged, ?_⟩
    rw [made, Effect.ofPair, debits.operation, debits.group, debits.account, debits.debit,
      Int.neg_neg, (Movement.sides_of_pos positive).2, sameId]
    rfl

theorem transferring_reports
    (positive : 0 < units)
    (source destination : Identifier)
    (description : Value) :
    Reports (transferring source destination units description) fun group =>
      [.transferCompleted group source destination units] where
  silent := silent_keptByQueries.transferring source destination units description
  effects := by
    intro barred desk session final group fresh usable transferred
    rcases transferring_ok fresh.shown transferred with
      ⟨payer, payee, last, foundPayer, foundPayee, -, -, -, -, looking, moved⟩
    rcases move_effects looking fresh.staged usable moved with
      ⟨staged, early, late, debits, credits, made⟩
    have samePayer : payer.id = source := (Tables.account?_eq_some foundPayer).2
    have samePayee : payee.id = destination := (Tables.account?_eq_some foundPayee).2
    refine ⟨staged, ?_⟩
    rw [made, Effect.ofPair, debits.operation, debits.group, debits.account, credits.account,
      debits.debit, Int.neg_neg, (Movement.sides_of_pos positive).2, samePayer, samePayee]
    rfl

end Service

/-- Whether what an intention tells of are the effects of its unit of work. -/
def Intention.Reports : Intention → Prop
  | .working body told _ => Work.Reports body told
  | .refused _ | .probing => True

/-- All calls but one report after the commit, and truly. -/
theorem Call.intention_reports
    (policy : Policy)
    {call : Call}
    (different : call ≠ .ensureSettlement) :
    (call.intention policy).Reports := by
  have refusing (failure : Failure) : (Intention.refused failure).Reports := trivial
  cases call with
  | createUser email => exact Service.creatingUser_reports email
  | openAccount owner name currency => exact Service.openingAccount_reports owner name currency
  | ensureSettlement => exact absurd rfl different
  | showAccount id => exact .of_reading (Work.account_untouched id false) fun _ => rfl
  | listAccounts owner => exact .of_reading (Work.accountsOf_untouched owner) fun _ => rfl
  | deposit account amount description =>
      refine Intention.requiring_intro refusing fun units named => ?_
      exact Service.depositing_reports (Amount.ofValue_ok named).1 account description
  | withdraw account amount description =>
      refine Intention.requiring_intro refusing fun units named => ?_
      exact Service.withdrawing_reports (Amount.ofValue_ok named).1 account description
  | transfer source destination amount description =>
      refine Intention.requiring_intro refusing fun units named => ?_
      split
      · exact refusing _
      · have positive := (Amount.ofValue_ok named).1
        exact Service.transferring_reports positive source destination description
  | reconcile id =>
      refine .of_reading (Service.reconciling_untouched id) fun reconciliation => ?_
      simp [Announcement.effects]
  | reconcileAll =>
      refine .of_reading Service.reconcilingAll_untouched fun reconciliations => ?_
      simp [Announcement.effects, List.filterMap_map]
  | history id limit offset =>
      refine Intention.requiring_intro refusing fun page _ => ?_
      exact .of_reading (Service.readingHistory_untouched id _ _) fun _ => rfl
  | entriesOfGroup group => exact .of_reading (Work.entriesOfGroup_untouched group) fun _ => rfl
  | ping => trivial

/-! ## The announcement before the commit -/

namespace Service

open Work

variable {barred : Bool} {desk : Desk} {session final : Session}

theorem announce_ok
    {announcement : Announcement}
    {before after : Session}
    (announced : announce announcement before = .ok () after) :
    after.desk.log = before.desk.log ++ [announcement] ∧ after.tables = before.tables ∧
      after.staged = before.staged ∧ after.revised = before.revised ∧
      after.undoneBy = before.undoneBy := by
  cases announced
  exact ⟨rfl, rfl, rfl, rfl, rfl⟩

/-- The body that seeds the settlement account tells of it as soon as the account is inserted. -/
theorem seedingSettlement_ok
    {seen : Seen Account}
    (fresh : Fresh barred desk session)
    (answered : seedingSettlement session = .ok seen final) :
    final.staged = [] ∧ final.revised = [] ∧ final.undoneBy = none ∧
      ∃ told,
        final.desk.log = session.desk.log ++ told ∧
          Announcement.effects told = final.tables.effectsSince session.tables := by
  rcases sequence_ok_iff.mp answered with ⟨policy, first, looked, rest⟩
  cases looked
  rcases sequence_ok_iff.mp rest with ⟨found?, second, found, rest⟩
  have looking := (findSettlement_untouched _).of_ok found
  cases found? with
  | some settlement =>
      rcases pure_ok_iff.mp rest with ⟨-, rfl⟩
      refine
        ⟨looking.staged.trans fresh.staged, looking.revised.trans fresh.revised,
          looking.undoneBy.trans fresh.undoneBy, [], ?_, ?_⟩
      · rw [looking.desk, List.append_nil]
      · rw [looking.tables, Tables.effectsSince_self]
        rfl
  | none =>
      rcases sequence_ok_iff.mp rest with ⟨settlement, third, opened, rest⟩
      rcases sequence_ok_iff.mp rest with ⟨shown, fourth, seeing, rest⟩
      rcases sequence_ok_iff.mp rest with ⟨⟨⟩, fifth, announced, answer⟩
      rcases pure_ok_iff.mp answer with ⟨-, rfl⟩
      have ⟨usable, unrevised⟩ := openAccount_usable opened
      have silent := (silent_keptByQueries.openAccount _ _ _ _).of_ok opened
      rcases openAccount_ok opened with
        ⟨row, keptName, keptCurrency, -, -, sameRow, evolved, -, staged, shownRow⟩
      cases shownRow ((findSettlement_none_shown found).trans fresh.shown)
      rw [joining_eq_nil (looking.staged.trans fresh.staged), List.map_nil,
        List.nil_append] at evolved
      have showing := (seen_untouched settlement.id settlement).of_ok seeing
      have untold := silent.trans (congrArg Desk.log looking.desk)
      have same := (looking.evolved.trans evolved).applied usable
      -- From here on the account is on record, though nothing of it is committed yet.
      rcases announce_ok announced with ⟨told, sameTables, sameStaged, sameRevised, sameUndone⟩
      refine
        ⟨?_, ?_, ?_, [.settlementSeeded settlement.id (shown.shown "currency" settlement.currency)], ?_,
          ?_⟩
      · rw [sameStaged, showing.staged, staged]
      · rw [sameRevised, showing.revised, unrevised]
      · rw [sameUndone, showing.undoneBy, usable]
      · rw [told, showing.desk, untold]
      · rw [sameTables, showing.tables, same]
        change _ = ((Write.account settlement).apply session.tables).effectsSince session.tables
        rw [Tables.effectsSince_account, Account.effect, sameRow]
        rfl

/-- Nothing can fail any more once the settlement account has been told of. -/
theorem seedingSettlement_error
    {failure : Failure}
    (failed : seedingSettlement session = .error failure final) :
    final.desk.log = session.desk.log := by
  rcases sequence_error_iff.mp failed with ⟨⟨⟩⟩ | ⟨policy, first, looked, rest⟩
  cases looked
  rcases sequence_error_iff.mp rest with missed | ⟨found?, second, found, rest⟩
  · exact (reading_silent (findSettlement_untouched _)).of_error missed
  have silent := (reading_silent (findSettlement_untouched _)).of_ok found
  cases found? with
  | some settlement => simp at rest
  | none =>
      rcases sequence_error_iff.mp rest with refused | ⟨settlement, third, -, rest⟩
      · exact ((silent_keptByQueries.openAccount _ _ _ _).of_error refused).trans silent
      rcases sequence_error_iff.mp rest with ⟨⟨⟩⟩ | ⟨shown, fourth, -, rest⟩
      rcases sequence_error_iff.mp rest with ⟨⟨⟩⟩ | ⟨⟨⟩, fifth, -, answer⟩
      simp at answer

/--
Whether the unit of work that seeds the settlement account commits or not, it tells of what
it would have committed.
-/
theorem seedingSettlement_effects (locked : Bool) (fault : Fault) (desk : Desk) :
    let unit (fault : Fault) := stateOf (seedingSettlement.inUnit ⟨locked, fault⟩ .null desk)
    ∃ told,
      (unit fault).log = desk.log ++ told ∧
        Announcement.effects told =
          (unit { fault with commit := false }).bank.tables.effectsSince desk.bank.tables := by
  simp only [inUnit_eq]
  cases opening : opened ⟨locked, .absent⟩ .null desk with
  | error failure => exact ⟨[], (List.append_nil _).symm, (Tables.effectsSince_self _).symm⟩
  | ok session =>
      have fresh := opened_ok opening
      simp only
      cases ended : seedingSettlement session with
      | error failure left =>
          have untold := seedingSettlement_error ended
          have seeding := (continued_keptByQueries.seeding announce_continued).of_error ended
          have same : left.desk.bank.tables = desk.bank.tables :=
            seeding.committed.trans (by rw [fresh.desk])
          refine ⟨ending fault (.error failure left : EStateM.Result _ _ (Seen Account)), ?_, ?_⟩
          · rw [conclude_log, ← fresh.desk, ← untold]
            rfl
          · rw [ending_effects, conclude_raised, ← same]
            split
            · exact (Tables.effectsSince_self _).symm
            · exact (Tables.effectsSince_self _).symm
      | ok seen final =>
          rcases seedingSettlement_ok fresh ended with
            ⟨staged, unrevised, usable, told, logged, tells⟩
          have completed : complete final = .ok () final := by
            simp [complete, usable, flushWaiting_answers staged unrevised]
          refine ⟨told, ?_, ?_⟩
          · rw [conclude_log, ← fresh.desk, ← logged]
            exact List.append_nil _
          · simp only [conclude, completed, Bool.false_eq_true, if_false, stateOf]
            rw [committed_tables, ← fresh.tables]
            exact tells

end Service

/-! ## Every call -/

namespace Intention

variable {surroundings : Surroundings} {desk : Desk}

/-- Asking the database whether it answers leaves everything as it is. -/
theorem carryOut_probing : stateOf (probing.carryOut surroundings desk) = desk := by
  change stateOf (EStateM.map _ (Service.ping surroundings) desk) = desk
  rw [EStateM.map, Service.ping]
  cases surroundings.locked with
  | true => rfl
  | false => rfl

/-- What is left is what the unit of work leaves, with what is told of its answer. -/
theorem carryOut_leaves
    (body : Work Part)
    (told : Part → List Announcement)
    (reply : Part → Except Failure Reply) :
    stateOf ((working body told reply).carryOut surroundings desk) =
      match body.inUnit surroundings .null desk with
      | .ok part later => { later with log := later.log ++ told part }
      | .error _ later => later := by
  rw [carryOut_working]
  cases body.inUnit surroundings .null desk with
  | error failure later => rfl
  | ok part later =>
      simp only
      cases reply part with
      | error failure => rfl
      | ok answer => rfl

/-- An intention that reports truly tells exactly of what it commits. -/
theorem Reports.tells
    {intention : Intention}
    (reports : intention.Reports)
    (grown : intention.Within Grown)
    (surroundings : Surroundings)
    (desk : Desk) :
    ∃ told,
      (stateOf (intention.carryOut surroundings desk)).log = desk.log ++ told ∧
        Announcement.effects told =
          (stateOf (intention.carryOut surroundings desk)).bank.tables.effectsSince
            desk.bank.tables := by
  cases intention with
  | refused failure =>
      exact ⟨[], (List.append_nil _).symm, (Tables.effectsSince_self _).symm⟩
  | probing =>
      rw [carryOut_probing]
      exact ⟨[], (List.append_nil _).symm, (Tables.effectsSince_self _).symm⟩
  | working body told reply =>
      rw [carryOut_leaves]
      rcases Work.inUnit_silent reports.silent desk with ⟨ended, logged, untold⟩
      cases concluded : body.inUnit surroundings .null desk with
      | error failure later =>
          rw [concluded] at logged
          have grown : Keeps Grown body := grown
          have continued : Keeps Continued body := grown.mono fun _ _ => Grown.continued
          refine ⟨ended, logged, ?_⟩
          rw [untold, (Work.inUnit_error continued concluded).sameTables]
          exact (Tables.effectsSince_self _).symm
      | ok part later =>
          rw [concluded] at logged
          rcases Work.inUnit_ok concluded with
            ⟨session, final, last, fresh, answered, completed, rfl⟩
          -- Nothing is staged when the body ends, so what it saw last is what is committed.
          rcases complete_ok completed with ⟨usable, -, same, -, -⟩
          rcases reports.effects fresh usable answered with ⟨staged, tells⟩
          cases same staged
          refine ⟨ended ++ told part, ?_, ?_⟩
          · exact (congrArg (· ++ told part) logged).trans (List.append_assoc _ _ _)
          · rw [Announcement.effects_append, untold, List.nil_append, tells, fresh.tables,
              ← committed_tables]

end Intention

/--
The surroundings in which what a call puts on record has come true: the commit is taken for
granted by the call that is told of before it.
-/
def Call.presumed (call : Call) (surroundings : Surroundings) : Surroundings :=
  match call with
  | .ensureSettlement => { surroundings with fault := { surroundings.fault with commit := false } }
  | _ => surroundings

/--
What a call puts on record are the effects that it has committed, each of them once, with
the identifiers and amounts of the new rows.  This holds of every call, under every fault,
with one exception: the call that provides the settlement account tells of what it commits
unless the commit fails.
-/
theorem Call.announces_effects (surroundings : Surroundings) (call : Call) (desk : Desk) :
    ∃ told,
      (stateOf (call.perform surroundings desk)).log = desk.log ++ told ∧
        (∀ announcement ∈ told, announcement.effect?.isSome → announcement.severity = .info) ∧
        Announcement.effects told =
          (stateOf (call.perform (call.presumed surroundings) desk)).bank.tables.effectsSince
            desk.bank.tables := by
  suffices
      ∃ told,
        (stateOf (call.perform surroundings desk)).log = desk.log ++ told ∧
          Announcement.effects told =
            (stateOf (call.perform (call.presumed surroundings) desk)).bank.tables.effectsSince
              desk.bank.tables by
    rcases this with ⟨told, logged, tells⟩
    exact ⟨told, logged, fun _ _ => Announcement.severity_of_effect, tells⟩
  by_cases seeds : call = .ensureSettlement
  · subst seeds
    have leaves (surroundings : Surroundings) :
        stateOf (Call.ensureSettlement.perform surroundings desk) =
          stateOf (Service.seedingSettlement.inUnit surroundings .null desk) := by
      rw [perform_eq, intention, Intention.carryOut_leaves]
      cases Service.seedingSettlement.inUnit surroundings .null desk with
      | error failure later => rfl
      | ok seen later => simp only [List.append_nil, stateOf]
    rw [leaves, leaves]
    exact Service.seedingSettlement_effects surroundings.locked surroundings.fault desk
  · have same : call.presumed surroundings = surroundings := by
      cases call with
      | ensureSettlement => exact absurd rfl seeds
      | _ => rfl
    rw [same, perform_eq]
    exact (intention_reports _ seeds).tells (intention_grown _ call) surroundings desk

namespace Sample

/-- A settlement account that is not committed is on record as seeded. -/
theorem uncommitted_seeding_told :
    let before := Opening.desk (Opening.bank settings false)
    ∃ later,
      Call.ensureSettlement.perform uncommitted before =
          .error (.commitFailed .storageRefused) later ∧
        Announcement.effects later.log = [.seeding (.drawn .account 1)] ∧
        later.bank.tables.effectsSince before.bank.tables = [] :=
  ⟨_, rfl, by decide +kernel, by decide +kernel⟩

end Sample

end Bookkeeping
