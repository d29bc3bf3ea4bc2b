import Bookkeeping.Proofs.Operations
import Bookkeeping.Proofs.Routes

/-!
# What a refusal leaves behind

An activity that fails has changed no table: neither a call of the bank nor an operation
on the store in a unit of work of its own, with or without faults of the database.  The
reason is the same for all of them.  Each runs one unit of work at most; what it does
before that touches no table, and what it does afterwards cannot fail.

A request is always answered.  If the status of the answer does not tell of success, then
the request became no call or its call failed, so no table has changed.  Calls that only
read, and with them all requests with the method of reading, change no table whatever
they answer.
-/

namespace Bookkeeping

open Session

variable {Answer Next : Type}

/-! ## Activities that spare the tables -/

/-- Two desks have the same tables, whatever else they differ in. -/
def Desk.SameTables (before after : Desk) : Prop :=
  after.bank.tables = before.bank.tables

instance : IsPreorder Desk Desk.SameTables where
  refl _ := rfl
  trans _ _ _ early late := late.trans early

/-- What leaves the bank alone changes no table. -/
theorem Keeps.sameTables
    {activity : Activity Answer}
    (same : Keeps Desk.SameBank activity) :
    Keeps Desk.SameTables activity :=
  same.mono fun _ _ sameBank => congrArg Bank.tables sameBank

namespace Activity

/-- An activity that fails has changed no table. -/
abbrev Spares (activity : Activity Answer) : Prop :=
  Ends (fun _ _ => True) Desk.SameTables activity

theorem sameTables_absorbs : Absorbs Desk.SameTables Desk.SameTables where
  first early late := late.trans early
  last early late := late.trans early

theorem anything_absorbs : Absorbs Desk.SameTables fun _ _ => True where
  first _ _ := trivial
  last _ _ := trivial

theorem Spares.of_keeps
    {activity : Activity Answer}
    (keeps : Keeps Desk.SameTables activity) :
    activity.Spares where
  answers _ := trivial
  fails := keeps.of_error

/-- Before an activity that spares the tables, the tables may be left alone. -/
theorem Spares.looking_bind
    {first : Activity Answer}
    {rest : Answer → Activity Next}
    (looks : Keeps Desk.SameBank first)
    (spares : ∀ answer, (rest answer).Spares) :
    Activity.Spares (first >>= rest) :=
  Ends.looking_bind anything_absorbs sameTables_absorbs looks.sameTables
    fun _ answer _ _ => spares answer

/-- After an activity that spares the tables, nothing may fail any more. -/
theorem Spares.bind_total
    {first : Activity Answer}
    {rest : Answer → Activity Next}
    (spares : first.Spares)
    (total : ∀ answer before, ∃ result after, rest answer before = .ok result after) :
    Activity.Spares (first >>= rest) where
  answers _ := trivial
  fails failed := by
    rcases sequence_error_iff.mp failed with
      failedFirst | ⟨answer, middle, -, failedRest⟩
    · exact spares.fails failedFirst
    · rcases total answer middle with ⟨result, last, same⟩
      rw [same] at failedRest
      cases failedRest

end Activity

namespace Work

variable {surroundings : Surroundings} {level : Value} {body : Work Answer}

/-- A unit of work that fails has changed no table. -/
theorem inUnit_spares (keeps : Keeps Continued body) :
    (body.inUnit surroundings level).Spares where
  answers _ := trivial
  fails ended := (inUnit_error keeps ended).sameTables

/-- A unit of work that only reads changes no table, whatever it answers. -/
theorem reading_sameTables (keeps : Keeps Untouched body) :
    Keeps Desk.SameTables (body.inUnit surroundings level) := by
  apply Keeps.intro
  · intro before answer after ended
    rcases inUnit_ok ended with ⟨session, final, last, fresh, answered, completed, rfl⟩
    have untouched := keeps.of_ok answered
    rcases complete_ok completed with ⟨-, -, same, -⟩
    cases same (untouched.staged.trans fresh.staged)
    rw [Desk.SameTables, committed_tables, untouched.tables, fresh.tables]
  · intro before failure after ended
    exact (inUnit_error (reading_continued keeps) ended).sameTables

end Work

/-! ## Calls -/

/-- Whether a call only asks for something. -/
def Call.isReading : Call → Bool
  | .showAccount _ | .listAccounts _ | .reconcile _ | .reconcileAll | .history _ _ _
  | .entriesOfGroup _ | .ping => true
  | _ => false

namespace Service

open Work

variable (surroundings : Surroundings)

theorem reconcile_sameTables (id : Identifier) :
    Keeps Desk.SameTables (reconcile surroundings id) :=
  (reading_sameTables (reconciling_untouched id)).bind fun _ =>
    ((Activity.announce_sameBank _).bind fun _ => Keeps.pure _).sameTables

theorem reconcileAll_sameTables : Keeps Desk.SameTables (reconcileAll surroundings) :=
  (reading_sameTables reconcilingAll_untouched).bind fun reconciliations =>
    (Keeps.forM (fun reconciliation => Activity.announce_sameBank reconciliation.announcement)
      reconciliations).sameTables.bind fun _ => Keeps.pure _

theorem history_sameTables (id : Identifier) (limit offset : Value) :
    Keeps Desk.SameTables (history surroundings id limit offset) := by
  refine Activity.policy_sameBank.sameTables.bind fun policy => ?_
  refine (Activity.ofExcept_sameBank _).sameTables.bind fun size => ?_
  refine (Activity.ofExcept_sameBank _).sameTables.bind fun start => ?_
  exact reading_sameTables (readingHistory_untouched id size start)

theorem entriesOfGroup_sameTables (group : Identifier) :
    Keeps Desk.SameTables (entriesOfGroup surroundings group) := by
  refine (reading_sameTables (entriesOfGroup_untouched group)).bind fun entries => ?_
  split
  · exact (Activity.refuse_sameBank _).sameTables
  · exact Keeps.pure entries

/-- A unit of work that makes a movement fails before the tables change, or not at all. -/
theorem moving_spares
    {body : Work Identifier}
    (continued : Keeps Continued body)
    (told : Identifier → Announcement) :
    Activity.Spares (do
      let group ← body.inUnit surroundings .null
      Activity.announce (told group)
      return group) :=
  (inUnit_spares continued).bind_total fun group _ => ⟨group, _, rfl⟩

theorem createUser_spares (email : Value) : (createUser surroundings email).Spares :=
  inUnit_spares (continued_keptByQueries.creatingUser email)

theorem openAccount_spares (owner : Identifier) (name currency : Value) :
    (openAccount surroundings owner name currency).Spares :=
  (inUnit_spares (continued_keptByQueries.openingAccount owner name currency)).bind_total
    fun seen _ => ⟨seen, _, rfl⟩

theorem deposit_spares (account : Identifier) (amount description : Value) :
    (deposit surroundings account amount description).Spares :=
  Activity.Spares.looking_bind (Activity.ofExcept_sameBank _) fun units =>
    moving_spares surroundings (continued_keptByQueries.depositing account units description) _

theorem withdraw_spares (account : Identifier) (amount description : Value) :
    (withdraw surroundings account amount description).Spares :=
  Activity.Spares.looking_bind (Activity.ofExcept_sameBank _) fun units =>
    moving_spares surroundings (continued_keptByQueries.withdrawing account units description) _

theorem transfer_spares (source destination : Identifier) (amount description : Value) :
    (transfer surroundings source destination amount description).Spares := by
  refine Activity.Spares.looking_bind (Activity.ofExcept_sameBank _) fun units => ?_
  split
  · exact .of_keeps (Activity.refuse_sameBank _).sameTables
  · exact
      moving_spares surroundings
        (continued_keptByQueries.transferring source destination units description) _

end Service

namespace Call

/-- A call that only asks for something changes no table, whatever it answers. -/
theorem perform_sameTables
    (surroundings : Surroundings)
    {call : Call}
    (reads : call.isReading = true) :
    Keeps Desk.SameTables (call.perform surroundings) := by
  cases call with
  | showAccount id => exact (Work.reading_sameTables (Work.account_untouched id false)).map _
  | listAccounts owner => exact (Work.reading_sameTables (Work.accountsOf_untouched owner)).map _
  | reconcile id => exact (Service.reconcile_sameTables surroundings id).map _
  | reconcileAll => exact (Service.reconcileAll_sameTables surroundings).map _
  | history id limit offset =>
      exact (Service.history_sameTables surroundings id limit offset).map _
  | entriesOfGroup group => exact (Service.entriesOfGroup_sameTables surroundings group).map _
  | ping =>
      have pings := Service.ping_sameBank surroundings
      exact pings.sameTables.map _
  | _ => cases reads

/-- A call that fails has changed no table. -/
theorem perform_spares (surroundings : Surroundings) (call : Call) :
    (call.perform surroundings).Spares := by
  cases call with
  | createUser email => exact (Service.createUser_spares surroundings email).map _
  | openAccount owner name currency =>
      exact (Service.openAccount_spares surroundings owner name currency).map _
  | ensureSettlement =>
      have continued := Work.continued_keptByQueries.seeding Work.announce_continued
      exact (Work.inUnit_spares continued).map _
  | deposit account amount description =>
      exact (Service.deposit_spares surroundings account amount description).map _
  | withdraw account amount description =>
      exact (Service.withdraw_spares surroundings account amount description).map _
  | transfer source destination amount description =>
      exact (Service.transfer_spares surroundings source destination amount description).map _
  | _ => exact .of_keeps (perform_sameTables surroundings rfl)

end Call

/-! ## Requests -/

namespace Http

/-- Whether a response tells that the request succeeded. -/
def Response.isSuccess (response : Response) : Bool :=
  200 ≤ response.status && response.status < 300

theorem serveHealth_answers (surroundings : Surroundings) (desk : Desk) :
    ∃ response later,
      serveHealth surroundings desk = .ok response later ∧
        later.bank.tables = desk.bank.tables := by
  have same := (serveHealth_sameBank surroundings).sameTables desk
  rw [serveHealth] at same ⊢
  cases pinged : Service.ping surroundings desk with
  | ok answer later =>
      rw [pinged] at same
      exact ⟨_, _, rfl, same⟩
  | error failure later =>
      rw [pinged] at same
      exact ⟨_, _, rfl, same⟩

theorem replyStatus_isSuccess (call : Call) (body : Value) :
    (Response.mk (replyStatus call) body).isSuccess = true := by
  cases call <;> rfl

/-- Every call is answered, and one that is answered by another status has changed no table. -/
theorem serveCall_answers (surroundings : Surroundings) (call : Call) (desk : Desk) :
    ∃ response later,
      serveCall surroundings call desk = .ok response later ∧
        (response.isSuccess = false → later.bank.tables = desk.bank.tables) ∧
        (call.isReading = true → later.bank.tables = desk.bank.tables) := by
  rw [serveCall]
  cases performed : call.perform surroundings desk with
  | ok reply later =>
      refine ⟨_, _, rfl, ?_, ?_⟩
      · intro unsuccessful
        rw [replyStatus_isSuccess] at unsuccessful
        cases unsuccessful
      · intro reads
        exact (Call.perform_sameTables surroundings reads).of_ok performed
  | error failure later =>
      have same : later.bank.tables = desk.bank.tables :=
        (call.perform_spares surroundings).fails performed
      exact ⟨_, _, rfl, fun _ => same, fun _ => same⟩

/-- The calls that only ask for something are those of the method of reading. -/
theorem Offered.isReading_eq
    {method : String}
    {resource : Resource}
    {call : Call}
    (offered : Offered method resource call) :
    call.isReading = (method == "GET") := by
  cases offered <;> rfl

/-- Every request is answered, and the tables change only if it succeeds in writing. -/
theorem serve_answers (surroundings : Surroundings) (request : Request) (desk : Desk) :
    ∃ response later,
      serve surroundings request desk = .ok response later ∧
        (response.isSuccess = false → later.bank.tables = desk.bank.tables) ∧
        (request.method.toUpper = "GET" → later.bank.tables = desk.bank.tables) := by
  rw [serve]
  cases asked : request.task with
  | error response => exact ⟨_, desk, rfl, fun _ => rfl, fun _ => rfl⟩
  | ok task =>
      cases task with
      | checkHealth =>
          rcases serveHealth_answers surroundings desk with ⟨response, later, served, same⟩
          exact ⟨response, later, served, fun _ => same, fun _ => same⟩
      | perform call =>
          rcases serveCall_answers surroundings call desk with
            ⟨response, later, served, unsuccessful, reading⟩
          refine ⟨response, later, served, unsuccessful, ?_⟩
          intro method
          rcases offered_of_task asked with ⟨resource, -, offered⟩
          apply reading
          rw [offered.isReading_eq, method]
          rfl

end Http

/-! ## All of them -/

/--
An answer that tells of a failure means that nothing happened, whatever fails besides.
Calls and operations on the store that fail have changed no table, and neither has a
request that is answered by a status other than that of success.  Calls that only read
and requests with the method of reading change no table whatever they answer.
-/
theorem Desk.unchanged_after_failure (surroundings : Surroundings) (desk : Desk) :
    (∀ call failure later,
      Call.perform surroundings call desk = .error failure later →
        later.bank.tables = desk.bank.tables) ∧
      (∀ operation level failure later,
        (StoreOperation.perform operation).inUnit surroundings level desk =
            .error failure later →
          later.bank.tables = desk.bank.tables) ∧
      (∀ request,
        ∃ response later,
          Http.serve surroundings request desk = .ok response later ∧
            (¬ (200 ≤ response.status ∧ response.status < 300) →
              later.bank.tables = desk.bank.tables)) ∧
      (∀ call,
        Call.isReading call = true →
          (stateOf (call.perform surroundings desk)).bank.tables = desk.bank.tables) ∧
      (∀ request,
        request.method.toUpper = "GET" →
          (stateOf (Http.serve surroundings request desk)).bank.tables = desk.bank.tables) := by
  refine ⟨?_, ?_, ?_, ?_, ?_⟩
  · intro call failure later failed
    exact (call.perform_spares surroundings).fails failed
  · intro operation level failure later failed
    exact (Work.inUnit_spares operation.perform_continued).fails failed
  · intro request
    rcases Http.serve_answers surroundings request desk with
      ⟨response, later, served, unsuccessful, -⟩
    refine ⟨response, later, served, ?_⟩
    intro other
    apply unsuccessful
    simpa [Http.Response.isSuccess] using other
  · intro call reads
    exact call.perform_sameTables surroundings reads desk
  · intro request method
    rcases Http.serve_answers surroundings request desk with ⟨response, later, served, -, reading⟩
    rw [served]
    exact reading method

/--
The rule at work: the user whom a bank would register is not registered where no commit
succeeds.
-/
theorem Sample.uncommitted_registration :
    (∃ reply later,
      (Call.createUser (.text "ada@example.com")).perform .calm opened = .ok reply later ∧
        later.bank.tables ≠ opened.bank.tables) ∧
      ∃ failure later,
        (Call.createUser (.text "ada@example.com")).perform uncommitted opened =
            .error failure later ∧
          later.bank.tables = opened.bank.tables := by
  have failed :
      ∃ failure later,
        (Call.createUser (.text "ada@example.com")).perform uncommitted opened =
          .error failure later :=
    ⟨_, _, rfl⟩
  rcases failed with ⟨failure, later, failed⟩
  rcases Desk.unchanged_after_failure uncommitted opened with ⟨unchanged, -⟩
  constructor
  · refine ⟨_, _, rfl, ?_⟩
    decide +kernel
  · exact ⟨failure, later, failed, unchanged _ failure later failed⟩

end Bookkeeping
