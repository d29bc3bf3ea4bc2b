import Bookkeeping.Proofs.History

/-!
# Nobody reads the record

What is put on record is not read again by anybody who works at the bank.  Of two sessions
that differ by the record alone, and of two desks with the same bank, every query, every call,
every request and every step is therefore answered alike, and what it leaves differs by the
record alone again.

This is said once for each elementary step inside of a session, and from there on it follows
the text of whatever is put together from such steps.
-/

namespace Bookkeeping

open Session

variable {Answer : Type}

/-- Two sessions differ by what is on record at most. -/
def Session.SameButRecord (left right : Session) : Prop :=
  ∃ log, right = { left with desk := { left.desk with log := log } }

/-! ## Elementary steps -/

namespace Work

theorem view_respects : Respects SameButRecord view := by
  rintro ⟨desk, locked, isolation, pending, staged, revised, shown, given, written, undoneBy⟩ _
    ⟨log, rfl⟩
  cases undoneBy with
  | some failure => exact .error ⟨log, rfl⟩
  | none =>
      cases pending with
      | some own => exact .ok ⟨log, rfl⟩
      | none =>
          cases locked with
          | true => exact .error ⟨log, rfl⟩
          | false => exact .ok ⟨log, rfl⟩

/-- What is put on record here is only more of the record. -/
theorem announce_respects (announcement : Announcement) :
    Respects SameButRecord (announce announcement) := by
  rintro left _ ⟨log, rfl⟩
  exact .ok ⟨_, rfl⟩

theorem policy_respects : Respects SameButRecord policy := by
  rintro left _ ⟨log, rfl⟩
  exact .ok ⟨log, rfl⟩

theorem make_respects (kind : Identifier.Kind) : Respects SameButRecord (make kind) := by
  rintro left _ ⟨log, rfl⟩
  by_cases early : left.desk.bank.sources.clock.microseconds < Timestamp.lastSecond.microseconds
  · simp only [make, early, if_true]
    exact .ok ⟨log, rfl⟩
  · simp only [make, early, if_false]
    exact .error ⟨log, rfl⟩

theorem drawGroup_respects : Respects SameButRecord drawGroup := by
  rintro left _ ⟨log, rfl⟩
  exact .ok ⟨log, rfl⟩

theorem undone_sameButRecord
    {left right : Session}
    (same : SameButRecord left right)
    (failure : Failure) :
    SameButRecord (left.undone failure) (right.undone failure) := by
  rcases same with ⟨log, rfl⟩
  rcases left with
    ⟨desk, locked, isolation, pending, staged, revised, shown, given, written, undoneBy⟩
  cases undoneBy with
  | some met => exact ⟨log, rfl⟩
  | none => exact ⟨log, rfl⟩

theorem flush_respects
    (rows : List UserDraft → List Revision → Tables → Except Failure (Answer × Tables)) :
    Respects SameButRecord (flush rows) := by
  intro left right same
  have viewed := view_respects left right same
  rw [flush, flush]
  generalize view left = outcomeLeft at viewed ⊢
  generalize view right = outcomeRight at viewed ⊢
  cases viewed with
  | @error failure _ _ after => exact .error (undone_sameButRecord after failure)
  | @ok tables first second after =>
      rcases after with ⟨log, rfl⟩
      simp only
      cases inserted : rows first.staged first.revised tables with
      | ok result => exact .ok ⟨log, rfl⟩
      | error failure => exact .error (undone_sameButRecord ⟨log, rfl⟩ failure)

/-- Where nothing waits beside the one record, nothing waits beside the other. -/
theorem flushWaiting_respects : Respects SameButRecord flushWaiting := by
  rintro left _ ⟨log, rfl⟩
  cases clean : left.isClean with
  | true =>
      have cleanThen : Session.isClean { left with desk := { left.desk with log := log } } := clean
      simp only [flushWaiting, clean, cleanThen, if_true]
      exact .ok ⟨log, rfl⟩
  | false =>
      have waits : Session.isClean { left with desk := { left.desk with log := log } } = false :=
        clean
      simp only [flushWaiting, clean, waits, Bool.false_eq_true, if_false]
      exact flush_respects _ _ _ ⟨log, rfl⟩

theorem replaceTables_respects (tables : Tables) :
    Respects SameButRecord (replaceTables tables) := by
  rintro left _ ⟨log, rfl⟩
  exact .ok ⟨log, rfl⟩

theorem stage_respects (draft : UserDraft) : Respects SameButRecord (stage draft) := by
  rintro left _ ⟨log, rfl⟩
  exact .ok ⟨log, rfl⟩

theorem revise_respects (entry : Identifier) (amendment : Amendment) :
    Respects SameButRecord (revise entry amendment) := by
  rintro left _ ⟨log, rfl⟩
  exact .ok ⟨log, rfl⟩

theorem remember_respects (account : Account) : Respects SameButRecord (remember account) := by
  rintro left _ ⟨log, rfl⟩
  cases found : left.shown.find? fun shown => shown.id = account.id with
  | some shown =>
      simp only [remember, found]
      exact .ok ⟨log, rfl⟩
  | none =>
      simp only [remember, found]
      exact .ok ⟨log, rfl⟩

theorem refresh_respects (account : Account) : Respects SameButRecord (refresh account) := by
  rintro left _ ⟨log, rfl⟩
  exact .ok ⟨log, rfl⟩

theorem keepGiven_respects (id : Identifier) (fields : List (String × Value)) :
    Respects SameButRecord (keepGiven id fields) := by
  rintro left _ ⟨log, rfl⟩
  rw [keepGiven, keepGiven]
  split
  · exact .ok ⟨log, rfl⟩
  · exact .ok ⟨log, rfl⟩

theorem seen_respects {Row : Type} (id : Identifier) (row : Row) :
    Respects SameButRecord (seen id row) := by
  rintro left _ ⟨log, rfl⟩
  exact .ok ⟨log, rfl⟩

theorem ofExcept_respects (outcome : Except Failure Answer) :
    Respects SameButRecord (ofExcept outcome) := by
  cases outcome with
  | ok answer => exact Respects.pure answer
  | error failure => exact Respects.throw failure

theorem orFail_respects (failure : Failure) (answer? : Option Answer) :
    Respects SameButRecord (orFail failure answer?) := by
  cases answer? with
  | some answer => exact Respects.pure answer
  | none => exact Respects.throw failure

theorem rewording_respects
    {work : Work Answer}
    (respects : Respects SameButRecord work)
    (words : Failure → Failure) :
    Respects SameButRecord (rewording words work) := by
  intro left right same
  have matched := respects left right same
  rw [rewording, rewording]
  generalize work left = outcomeLeft at matched ⊢
  generalize work right = outcomeRight at matched ⊢
  cases matched with
  | ok after => exact .ok after
  | error after => exact .error after

/-- Work may look at its whole session if it does not look at the record. -/
theorem get_bind_respects
    {rest : Session → Work Answer}
    (same : ∀ left right, SameButRecord left right → rest left = rest right)
    (respects : ∀ session, Respects SameButRecord (rest session)) :
    Respects SameButRecord (get >>= rest) := by
  intro left right related
  change Matches SameButRecord (rest left left) (rest right right)
  rw [same left right related]
  exact respects right left right related

/-! ## Queries -/

theorem isolationInForce_respects : Respects SameButRecord isolationInForce := by
  refine view_respects.bind fun _ => get_bind_respects ?_ fun _ => Respects.pure _
  rintro left _ ⟨log, rfl⟩
  rfl

theorem read_respects (forUpdate : Bool) (account : Account) :
    Respects SameButRecord (read forUpdate account) := by
  cases forUpdate with
  | true => exact refresh_respects account
  | false => exact remember_respects account

theorem account_respects (id : Identifier) (forUpdate : Bool) :
    Respects SameButRecord (account id forUpdate) :=
  view_respects.bind fun _ =>
    (orFail_respects _ _).bind fun found => read_respects forUpdate found

theorem comparedBalance_respects (account : Account) :
    Respects SameButRecord (comparedBalance account) :=
  ofExcept_respects _

theorem settlementNamed_respects (name : Value) : Respects SameButRecord (settlementNamed name) :=
  view_respects.bind fun _ => (ofExcept_respects _).bind fun _ => Respects.pure _

theorem settlement_respects (name : Value) (forUpdate : Bool) :
    Respects SameButRecord (settlement name forUpdate) :=
  (settlementNamed_respects name).bind fun _ =>
    (orFail_respects _ _).bind fun found => read_respects forUpdate found

theorem findSettlement_respects (name : Value) : Respects SameButRecord (findSettlement name) := by
  refine (settlementNamed_respects name).bind fun found? => ?_
  cases found? with
  | some found => exact (remember_respects found).bind fun shown => Respects.pure (some shown)
  | none => exact Respects.pure none

theorem accounts_respects : Respects SameButRecord accounts :=
  view_respects.bind fun tables => Respects.mapM remember_respects tables.accountsByAge

theorem accountsOf_respects (owner : Identifier) : Respects SameButRecord (accountsOf owner) :=
  view_respects.bind fun tables => Respects.mapM remember_respects (tables.accountsOf owner)

theorem moveBalance_respects (id : Identifier) (delta : Money) :
    Respects SameButRecord (moveBalance id delta) :=
  view_respects.bind fun _ => (orFail_respects _ _).bind replaceTables_respects

theorem openAccount_respects
    (name currency : Value)
    (owner : Option Identifier)
    (isSystem : Bool) :
    Respects SameButRecord (openAccount name currency owner isSystem) :=
  (make_respects .account).bind fun _ =>
    (flush_respects _).bind fun account =>
      (keepGiven_respects _ _).bind fun _ => remember_respects account

theorem user_respects (id : Identifier) : Respects SameButRecord (user id) :=
  view_respects.bind fun _ => orFail_respects _ _

theorem addUser_respects (email : Value) : Respects SameButRecord (addUser email) :=
  (make_respects .user).bind fun _ => stage_respects _

theorem isTaken_respects (email : Value) : Respects SameButRecord (isTaken email) :=
  view_respects.bind fun _ => (ofExcept_respects _).bind fun _ => Respects.pure _

theorem createUser_respects (email : Value) : Respects SameButRecord (createUser email) := by
  rw [createUser_eq]
  refine (isTaken_respects email).bind fun taken => ?_
  cases taken with
  | true => exact Respects.throw _
  | false =>
      refine (make_respects .user).bind fun _ => ?_
      refine (rewording_respects (flush_respects _) _).bind fun user => ?_
      exact (keepGiven_respects _ _).bind fun _ => Respects.pure user

theorem post_respects (posting : Posting) : Respects SameButRecord (post posting) :=
  (make_respects .entry).bind fun _ =>
    (flush_respects _).bind fun entry =>
      (keepGiven_respects _ _).bind fun _ => Respects.pure entry

theorem pageInteger_respects (value : Value) : Respects SameButRecord (pageInteger value) := by
  rw [pageInteger.eq_def]
  split
  · exact Respects.pure none
  · exact ofExcept_respects _

theorem history_respects (account : Identifier) (limit offset : Value) :
    Respects SameButRecord (history account limit offset) := by
  refine (pageInteger_respects limit).bind fun limit => ?_
  refine (pageInteger_respects offset).bind fun offset => ?_
  refine view_respects.bind fun tables => ?_
  split
  · exact Respects.pure _
  · exact Respects.throw _

theorem entriesOfGroup_respects (group : Identifier) :
    Respects SameButRecord (entriesOfGroup group) :=
  view_respects.bind fun _ => Respects.pure _

theorem calculatedBalance_respects (account : Identifier) :
    Respects SameButRecord (calculatedBalance account) :=
  view_respects.bind fun _ => ofExcept_respects _

theorem calculatedBalances_respects : Respects SameButRecord calculatedBalances :=
  view_respects.bind fun _ => ofExcept_respects _

theorem reviseEntry_respects (group : Identifier) (index : Value) (amendment : Amendment) :
    Respects SameButRecord (reviseEntry group index amendment) := by
  refine (entriesOfGroup_respects group).bind fun entries => ?_
  refine (ofExcept_respects _).bind fun position => ?_
  exact (orFail_respects _ _).bind fun entry => revise_respects entry.id amendment

theorem changeEntry_respects (group : Identifier) (index : Value) (amendment : Amendment) :
    Respects SameButRecord (changeEntry group index amendment) :=
  (reviseEntry_respects group index amendment).bind fun _ => flushWaiting_respects

end Work

/-! ## Operations on the store -/

namespace StoreOperation

open Work

theorem accountRecord_respects (account : Account) :
    Respects SameButRecord (accountRecord account) :=
  (seen_respects account.id account).bind fun _ => Respects.pure _

theorem entryRecord_respects (entry : Entry) : Respects SameButRecord (entryRecord entry) :=
  (seen_respects entry.id entry).bind fun _ => Respects.pure _

theorem userRecord_respects (user : User) : Respects SameButRecord (userRecord user) :=
  (seen_respects user.id user).bind fun _ => Respects.pure _

theorem lineOf_respects (kind : RowKind) (id : Identifier) :
    Respects SameButRecord (lineOf kind id) := by
  refine view_respects.bind fun tables => get_bind_respects ?_ fun _ => Respects.pure _
  rintro left _ ⟨log, rfl⟩
  rfl

theorem movingBalance_respects (id : Identifier) (delta : Decimal) :
    Respects SameButRecord (movingBalance id delta) := by
  refine (ofExcept_respects _).bind fun units? => ?_
  cases units? with
  | some units => exact moveBalance_respects id units
  | none => exact view_respects.bind fun _ => (orFail_respects _ _).bind fun _ => Respects.throw _

theorem operationOf_respects (value : Value) : Respects SameButRecord (operationOf value) := by
  rw [operationOf.eq_def]
  split
  · exact orFail_respects _ _
  · exact (ofExcept_respects _).bind fun _ => Respects.throw _

theorem keepWritten_respects (id : Identifier) (debit credit : Decimal) :
    Respects SameButRecord (keepWritten id debit credit) := by
  rintro left _ ⟨log, rfl⟩
  exact .ok ⟨log, rfl⟩

theorem posting_respects
    (account group : Identifier)
    (operation : Value)
    (debit credit : Decimal)
    (description : Value) :
    Respects SameButRecord (posting account group operation debit credit description) := by
  refine (operationOf_respects operation).bind fun _ => ?_
  refine (ofExcept_respects _).bind fun _ => ?_
  refine (ofExcept_respects _).bind fun _ => ?_
  refine (post_respects _).bind fun entry => ?_
  exact (keepWritten_respects entry.id debit credit).bind fun _ => Respects.pure entry

theorem perform_respects (operation : StoreOperation) :
    Respects SameButRecord operation.perform := by
  cases operation with
  | readAccount id forUpdate =>
      exact (account_respects id forUpdate).bind accountRecord_respects
  | readSettlement name forUpdate =>
      exact (settlement_respects name forUpdate).bind accountRecord_respects
  | findSettlement name =>
      refine (findSettlement_respects name).bind fun found? => ?_
      cases found? with
      | some found => exact accountRecord_respects found
      | none => exact Respects.pure _
  | moveBalance id delta => exact (movingBalance_respects id delta).map _
  | openAccount name currency owner isSystem =>
      exact (openAccount_respects name currency owner isSystem).bind accountRecord_respects
  | accounts =>
      exact accounts_respects.bind fun rows =>
        (Respects.mapM accountRecord_respects rows).bind fun _ => Respects.pure _
  | accountsOf owner =>
      exact (accountsOf_respects owner).bind fun rows =>
        (Respects.mapM accountRecord_respects rows).bind fun _ => Respects.pure _
  | createUser email => exact (createUser_respects email).bind userRecord_respects
  | readUser id => exact (user_respects id).bind userRecord_respects
  | addUser email => exact (addUser_respects email).map _
  | post account group operation debit credit description =>
      exact
        (posting_respects account group operation debit credit description).bind
          entryRecord_respects
  | history account limit offset =>
      exact (history_respects account limit offset).bind fun rows =>
        (Respects.mapM entryRecord_respects rows).bind fun _ => Respects.pure _
  | entriesOfGroup group =>
      exact (entriesOfGroup_respects group).bind fun rows =>
        (Respects.mapM entryRecord_respects rows).bind fun _ => Respects.pure _
  | calculatedBalance account => exact (calculatedBalance_respects account).map _
  | calculatedBalances => exact calculatedBalances_respects.map _
  | reviseEntry group index amendment => exact (reviseEntry_respects group index amendment).map _
  | changeEntry group index amendment => exact (changeEntry_respects group index amendment).map _
  | flush => exact flushWaiting_respects.map _
  | readIsolation => exact isolationInForce_respects.map _
  | line kind id => exact (lineOf_respects kind id).map _
  | fail failure tellsState => exact Respects.throw failure

end StoreOperation

/-! ## Procedures -/

namespace Service

open Work

theorem creatingUser_respects (email : Value) : Respects SameButRecord (creatingUser email) :=
  (createUser_respects email).bind fun user => seen_respects user.id user

theorem openingAccount_respects (owner : Identifier) (name currency : Value) :
    Respects SameButRecord (openingAccount owner name currency) := by
  refine (user_respects owner).bind fun _ => ?_
  refine policy_respects.bind fun policy => ?_
  refine (ofExcept_respects _).bind fun written => ?_
  refine (openAccount_respects name _ (some owner) false).bind fun account => ?_
  exact seen_respects account.id account

theorem seedingSettlement_respects : Respects SameButRecord seedingSettlement := by
  refine policy_respects.bind fun policy => ?_
  refine (findSettlement_respects policy.settlementName).bind fun found? => ?_
  cases found? with
  | some settlement => exact Respects.pure _
  | none =>
      refine (openAccount_respects _ _ none true).bind fun settlement => ?_
      refine (seen_respects settlement.id settlement).bind fun seen => ?_
      exact (announce_respects _).bind fun _ => Respects.pure seen

theorem move_respects
    (operation : Operation)
    (firstId secondId : Identifier)
    (effect : Money)
    (firstDescription secondDescription : Value) :
    Respects SameButRecord
      (move operation firstId secondId effect firstDescription secondDescription) := by
  refine drawGroup_respects.bind fun group => ?_
  refine (post_respects _).bind fun _ => ?_
  refine (post_respects _).bind fun _ => ?_
  refine (moveBalance_respects firstId effect).bind fun _ => ?_
  exact (moveBalance_respects secondId (-effect)).bind fun _ => Respects.pure group

theorem refuseSystem_respects (account : Account) :
    Respects SameButRecord (refuseSystem account) := by
  rw [refuseSystem]
  split
  · exact Respects.throw _
  · exact Respects.pure ()

theorem requireCurrency_respects (expected actual : String) :
    Respects SameButRecord (requireCurrency expected actual) := by
  rw [requireCurrency]
  split
  · exact Respects.throw _
  · exact Respects.pure ()

theorem requireFunds_respects (account : Account) (amount : Money) :
    Respects SameButRecord (requireFunds account amount) := by
  refine (comparedBalance_respects account).bind fun available => ?_
  split
  · exact Respects.throw _
  · exact Respects.pure ()

theorem counterparties_respects (id : Identifier) :
    Respects SameButRecord (counterparties id) := by
  refine policy_respects.bind fun policy => ?_
  refine (settlement_respects policy.settlementName true).bind fun settlement => ?_
  refine (account_respects id true).bind fun account => ?_
  refine (refuseSystem_respects account).bind fun _ => ?_
  refine (requireCurrency_respects settlement.currency account.currency).bind fun _ => ?_
  exact Respects.pure (settlement, account)

theorem lockedPair_respects (first second : Identifier) :
    Respects SameButRecord (lockedPair first second) := by
  rw [lockedPair]
  split
  · exact
      (account_respects first true).bind fun _ =>
        (account_respects second true).bind fun _ => Respects.pure _
  · exact
      (account_respects second true).bind fun _ =>
        (account_respects first true).bind fun _ => Respects.pure _

theorem depositing_respects (id : Identifier) (amount : Money) (description : Value) :
    Respects SameButRecord (depositing id amount description) :=
  (counterparties_respects id).bind fun _ => move_respects _ _ _ _ _ _

theorem withdrawing_respects (id : Identifier) (amount : Money) (description : Value) :
    Respects SameButRecord (withdrawing id amount description) :=
  (counterparties_respects id).bind fun parties =>
    (requireFunds_respects parties.2 amount).bind fun _ => move_respects _ _ _ _ _ _

theorem transferring_respects
    (sourceId destinationId : Identifier)
    (amount : Money)
    (description : Value) :
    Respects SameButRecord (transferring sourceId destinationId amount description) := by
  refine (account_respects sourceId false).bind fun shownSource => ?_
  refine (refuseSystem_respects shownSource).bind fun _ => ?_
  refine (account_respects destinationId false).bind fun shownDestination => ?_
  refine (refuseSystem_respects shownDestination).bind fun _ => ?_
  refine (lockedPair_respects sourceId destinationId).bind fun pair => ?_
  refine (requireCurrency_respects pair.1.currency pair.2.currency).bind fun _ => ?_
  refine (requireFunds_respects pair.1 amount).bind fun _ => ?_
  exact move_respects _ _ _ _ _ _

theorem reconciling_respects (id : Identifier) : Respects SameButRecord (reconciling id) :=
  (account_respects id false).bind fun account =>
    (comparedBalance_respects account).bind fun _ =>
      (calculatedBalance_respects id).bind fun _ => Respects.pure _

theorem reconciledBy_respects (calculated : List (Identifier × Money)) (account : Account) :
    Respects SameButRecord (reconciledBy calculated account) :=
  (comparedBalance_respects account).bind fun _ => Respects.pure _

theorem reconcilingAll_respects : Respects SameButRecord reconcilingAll :=
  accounts_respects.bind fun accounts =>
    calculatedBalances_respects.bind fun calculated =>
      Respects.mapM (reconciledBy_respects calculated) accounts

theorem readingHistory_respects (id : Identifier) (limit offset : Value) :
    Respects SameButRecord (readingHistory id limit offset) :=
  (account_respects id false).bind fun _ => history_respects id limit offset

end Service

/-! ## Units of work -/

/-- From a desk with the same bank, the same session is opened, but for the record. -/
theorem Session.opened_of_sameBank
    (surroundings : Surroundings)
    (level : Value)
    {left right : Desk}
    (same : Desk.SameBank left right) :
    opened surroundings level right =
      (opened surroundings level left).map fun session => { session with desk := right } := by
  rcases left with ⟨bank, early⟩
  rcases right with ⟨_, late⟩
  cases same
  simp only [opened]
  cases requestedLevel level bank.isolation with
  | none => rfl
  | some value =>
      cases known : Isolation.ofValue value with
      | error failure => simp only [known, bind, Except.bind, Except.map]
      | ok isolation =>
          rcases surroundings with ⟨locked, fault⟩
          simp only [known, bind, Except.bind]
          cases locked with
          | true => rfl
          | false => rfl

/-- A session is the same but for the record at any desk with the same bank. -/
theorem Session.sameButRecord_of_sameBank
    (session : Session)
    {left right : Desk}
    (same : Desk.SameBank left right) :
    SameButRecord { session with desk := left } { session with desk := right } := by
  rcases left with ⟨bank, early⟩
  rcases right with ⟨_, late⟩
  cases same
  exact ⟨late, rfl⟩

theorem Session.Fresh.sameButRecord
    {barred : Bool}
    {left right : Desk}
    {session : Session}
    (fresh : Fresh barred left session)
    (same : Desk.SameBank left right) :
    SameButRecord session { session with desk := right } := by
  have beside := session.sameButRecord_of_sameBank same
  rwa [← fresh.desk] at beside

theorem Session.complete_respects : Respects SameButRecord complete := by
  intro left right same
  rcases left with
    ⟨desk, locked, isolation, pending, staged, revised, shown, given, written, undoneBy⟩
  rcases same with ⟨log, rfl⟩
  cases undoneBy with
  | some failure => exact .error ⟨log, rfl⟩
  | none => exact Work.flushWaiting_respects _ _ ⟨log, rfl⟩

theorem Session.SameButRecord.committed
    {left right : Session}
    (same : SameButRecord left right) :
    Desk.SameBank left.committed right.committed := by
  rcases same with ⟨log, rfl⟩
  rcases left with
    ⟨desk, locked, isolation, pending, staged, revised, shown, given, written, undoneBy⟩
  cases pending with
  | none => rfl
  | some own => rfl

namespace Work

variable {surroundings : Surroundings} {level : Value} {body : Work Answer}

theorem rollBack_respects (fault : Fault) (failure : Failure) :
    Respects Desk.SameBank (rollBack fault failure : Activity Answer) := by
  intro left right same
  cases lost : fault.rollback with
  | true =>
      simp only [rollBack, lost, if_true]
      exact .error same
  | false =>
      simp only [rollBack, lost, Bool.false_eq_true, if_false]
      exact .error same

/-- Bodies with the same outcome end their units of work alike. -/
theorem conclude_matches
    (fault : Fault)
    {left right : EStateM.Result Failure Session Answer}
    (matched : Matches SameButRecord left right) :
    Matches Desk.SameBank (conclude fault left) (conclude fault right) := by
  cases matched with
  | @error failure first second after =>
      have same : Desk.SameBank first.desk second.desk := by
        rcases after with ⟨log, rfl⟩
        rfl
      exact rollBack_respects fault failure _ _ same
  | @ok answer first second after =>
      rw [conclude, conclude]
      cases refused : fault.commit with
      | true =>
          rcases after with ⟨log, rfl⟩
          exact .error rfl
      | false =>
          have completed := complete_respects first second after
          simp only [Bool.false_eq_true, if_false]
          generalize complete first = outcomeLeft at completed ⊢
          generalize complete second = outcomeRight at completed ⊢
          cases completed with
          | ok last => exact .ok last.committed
          | error last =>
              rcases last with ⟨log, rfl⟩
              exact .error rfl

theorem inUnit_respects (respects : Respects SameButRecord body) :
    Respects Desk.SameBank (body.inUnit surroundings level) := by
  intro left right same
  rw [inUnit, inUnit, opened_of_sameBank surroundings level same]
  cases opening : opened surroundings level left with
  | error failure => exact .error same
  | ok session =>
      have beside := (opened_ok opening).sameButRecord same
      exact conclude_matches surroundings.fault (respects session _ beside)

end Work

/-! ## Calls -/

namespace Activity

theorem tell_respects (announcements : List Announcement) :
    Respects Desk.SameBank (tell announcements) :=
  fun _ _ same => .ok same

theorem ofExcept_respects (outcome : Except Failure Answer) :
    Respects Desk.SameBank (ofExcept outcome) := by
  cases outcome with
  | ok answer => exact fun _ _ same => .ok same
  | error failure => exact fun _ _ same => .error same

end Activity

theorem Service.ping_respects (surroundings : Surroundings) :
    Respects Desk.SameBank (ping surroundings) := by
  intro left right same
  rcases surroundings with ⟨locked, fault⟩
  cases locked with
  | true => exact .error same
  | false => exact .ok same

/-- Whether the unit of work of an intention reads no record, if there is one. -/
def Intention.ReadsNoRecord : Intention → Prop
  | .working body _ _ => Respects SameButRecord body
  | .refused _ | .probing => True

theorem Intention.carryOut_respects
    {intention : Intention}
    (reads : intention.ReadsNoRecord)
    (surroundings : Surroundings) :
    Respects Desk.SameBank (intention.carryOut surroundings) := by
  cases intention with
  | refused failure => exact fun _ _ same => .error same
  | probing => exact (Service.ping_respects surroundings).map _
  | working body told reply =>
      exact (Work.inUnit_respects reads).bind fun part =>
        (Activity.tell_respects (told part)).bind fun _ =>
          Activity.ofExcept_respects (reply part)

namespace Call

theorem intention_readsNoRecord (policy : Policy) (call : Call) :
    (call.intention policy).ReadsNoRecord := by
  have refusing (failure : Failure) : (Intention.refused failure).ReadsNoRecord := trivial
  cases call with
  | createUser email => exact Service.creatingUser_respects email
  | openAccount owner name currency => exact Service.openingAccount_respects owner name currency
  | ensureSettlement => exact Service.seedingSettlement_respects
  | showAccount id => exact Work.account_respects id false
  | listAccounts owner => exact Work.accountsOf_respects owner
  | deposit account amount description =>
      exact
        Intention.requiring_intro refusing fun units _ =>
          Service.depositing_respects account units description
  | withdraw account amount description =>
      exact
        Intention.requiring_intro refusing fun units _ =>
          Service.withdrawing_respects account units description
  | transfer source destination amount description =>
      refine Intention.requiring_intro refusing fun units _ => ?_
      split
      · exact refusing _
      · exact Service.transferring_respects source destination units description
  | reconcile id => exact Service.reconciling_respects id
  | reconcileAll => exact Service.reconcilingAll_respects
  | history id limit offset =>
      exact
        Intention.requiring_intro refusing fun page _ =>
          Service.readingHistory_respects id page.1 page.2
  | entriesOfGroup group => exact Work.entriesOfGroup_respects group
  | ping => trivial

theorem perform_respects (surroundings : Surroundings) (call : Call) :
    Respects Desk.SameBank (call.perform surroundings) := by
  intro left right same
  have samePolicy : right.bank.policy = left.bank.policy := congrArg Bank.policy same
  rw [call.perform_eq, call.perform_eq, samePolicy]
  have reads := call.intention_readsNoRecord left.bank.policy
  exact Intention.carryOut_respects reads surroundings left right same

end Call

namespace Http

theorem serveHealth_respects (surroundings : Surroundings) :
    Respects Desk.SameBank (serveHealth surroundings) := by
  intro left right same
  have samePolicy : right.bank.policy = left.bank.policy := congrArg Bank.policy same
  rcases surroundings with ⟨locked, fault⟩
  cases locked with
  | true =>
      simp only [serveHealth, Service.ping, if_true, samePolicy]
      exact .ok same
  | false =>
      simp only [serveHealth, Service.ping, Bool.false_eq_true, if_false, samePolicy]
      exact .ok same

theorem serve_respects (surroundings : Surroundings) (request : Request) :
    Respects Desk.SameBank (serve surroundings request) := by
  rw [serve.eq_def]
  cases request.task with
  | error response => exact Respects.pure _
  | ok task =>
      cases task with
      | checkHealth => exact serveHealth_respects surroundings
      | perform call =>
          intro left right same
          have matched := call.perform_respects surroundings left right same
          simp only [serveCall]
          generalize call.perform surroundings left = outcomeLeft at matched ⊢
          generalize call.perform surroundings right = outcomeRight at matched ⊢
          cases matched with
          | ok after => exact .ok after
          | error after => exact .ok after

end Http

/-! ## Steps -/

namespace Step

theorem outcomeOf_matches
    (value : Answer → Value)
    {left right : EStateM.Result Failure Desk Answer}
    (matched : Matches Desk.SameBank left right) :
    (outcomeOf value right).1 = (outcomeOf value left).1 ∧
      Desk.SameBank (outcomeOf value left).2 (outcomeOf value right).2 := by
  cases matched with
  | ok after => exact ⟨rfl, after⟩
  | error after => exact ⟨rfl, after⟩

mutual

/-- A step that is taken at a desk with the same bank has the same outcome. -/
theorem take_sameBank
    (surroundings : Surroundings)
    (step : Step)
    {left right : Desk}
    (same : Desk.SameBank left right) :
    (step.take surroundings right).1 = (step.take surroundings left).1 ∧
      Desk.SameBank (step.take surroundings left).2 (step.take surroundings right).2 := by
  cases step with
  | call made =>
      rw [take, take]
      exact outcomeOf_matches _ (made.perform_respects surroundings left right same)
  | request asked =>
      rw [take, take]
      exact outcomeOf_matches _ (Http.serve_respects surroundings asked left right same)
  | setClock time zone =>
      rw [take, take]
      refine ⟨rfl, ?_⟩
      rw [Desk.SameBank, Desk.withClock, Desk.withClock, same]
  | configure changes =>
      rw [take, take]
      refine ⟨rfl, ?_⟩
      rw [Desk.SameBank, Desk.reconfigured, Desk.reconfigured, same]
  | store operation isGuarded =>
      rw [take, take]
      exact outcomeOf_matches _ (Work.inUnit_respects operation.perform_respects left right same)
  | unit level raised body =>
      rw [take, take, opened_of_sameBank surroundings level same]
      cases opening : Session.opened surroundings level left with
      | error failure => exact ⟨rfl, same⟩
      | ok session =>
          have beside := (opened_ok opening).sameButRecord same
          rcases takeBody_sameBut surroundings raised body beside with ⟨answers, matched⟩
          have concluded := Work.conclude_matches surroundings.fault matched
          simp only [Except.map, answers]
          generalize Work.conclude surroundings.fault
            (takeBody surroundings raised body session).2 = outcomeLeft at concluded ⊢
          generalize Work.conclude surroundings.fault
            (takeBody surroundings raised body { session with desk := right }).2 =
              outcomeRight at concluded ⊢
          cases concluded with
          | ok after => exact ⟨rfl, after⟩
          | error after => exact ⟨rfl, after⟩
  | fail met tellsState =>
      rw [take, take]
      exact ⟨rfl, same⟩
  | faulty fault step =>
      rw [take, take]
      exact take_sameBank { surroundings with fault := fault } step same

/-- A body that is taken in a session that differs by the record has the same outcome. -/
theorem takeBody_sameBut
    (surroundings : Surroundings)
    (raised : Option Failure)
    (body : List Step)
    {left right : Session}
    (same : SameButRecord left right) :
    (takeBody surroundings raised body right).1 = (takeBody surroundings raised body left).1 ∧
      Matches SameButRecord (takeBody surroundings raised body left).2
        (takeBody surroundings raised body right).2 := by
  cases body with
  | nil =>
      cases raised with
      | none => exact ⟨rfl, .ok same⟩
      | some failure => exact ⟨rfl, .error same⟩
  | cons step rest =>
      rcases step.store_or_other with ⟨operation, isGuarded, rfl⟩ | other
      · have matched := operation.perform_respects left right same
        rw [takeBody, takeBody]
        generalize operation.perform left = outcomeLeft at matched ⊢
        generalize operation.perform right = outcomeRight at matched ⊢
        cases matched with
        | ok after =>
            rcases takeBody_sameBut surroundings raised rest after with ⟨answers, others⟩
            simp only [answers, true_and]
            exact others
        | error after =>
            cases isGuarded with
            | true =>
                rcases takeBody_sameBut surroundings raised rest after with ⟨answers, others⟩
                simp only [if_true, answers, true_and]
                exact others
            | false => exact ⟨rfl, .error after⟩
      · rcases same with ⟨log, rfl⟩
        rw [takeBody_other surroundings raised rest _ other,
          takeBody_other surroundings raised rest _ other]
        have besides : Desk.SameBank left.desk { left.desk with log := log } := rfl
        rcases take_sameBank (left.surroundings surroundings.fault) step besides with
          ⟨outcome, later⟩
        rcases takeBody_sameBut surroundings raised rest
            (left.sameButRecord_of_sameBank later) with
          ⟨answers, others⟩
        exact ⟨congrArg₂ List.cons (congrArg Outcome.record outcome) answers, others⟩

end

end Step

end Bookkeeping
