import Bookkeeping.Http.Service
import Bookkeeping.Proofs.Run

/-!
# Routes

A request that becomes a call names a resource, and the resource and the method of the
request together determine what kind of call it is.  The table of these routes is an
inductive relation; that requests keep to it is shown by following the readers of paths,
queries and bodies.

A call that fails with a notice of the ledger is answered by the status of the notice and
its report, whatever the route, the fault and the state of the bank.  The exceptions are
the two routes that list things: these answer that something went wrong, and tell nothing
of the notice.
-/

namespace Bookkeeping

namespace Http

/-! ## The table of routes -/

/-- The calls that each resource offers, with the method by which they are asked for. -/
inductive Offered : String → Resource → Call → Prop
  | registration (email : Value) : Offered "POST" .users (.createUser email)
  | opening (owner : Identifier) (name currency : Value) :
      Offered "POST" .accounts (.openAccount owner name currency)
  | accounts (owner : Identifier) : Offered "GET" .accounts (.listAccounts owner)
  | account (id : String) (account : Identifier) :
      Offered "GET" (.account id) (.showAccount account)
  | deposit (id : String) (account : Identifier) (amount description : Value) :
      Offered "POST" (.deposits id) (.deposit account amount description)
  | withdrawal (id : String) (account : Identifier) (amount description : Value) :
      Offered "POST" (.withdrawals id) (.withdraw account amount description)
  | transfer (source destination : Identifier) (amount description : Value) :
      Offered "POST" .transfers (.transfer source destination amount description)
  | group (id : String) (group : Identifier) : Offered "GET" (.group id) (.entriesOfGroup group)
  | history (id : String) (account : Identifier) (limit offset : Value) :
      Offered "GET" (.history id) (.history account limit offset)
  | reconciliation (id : String) (account : Identifier) :
      Offered "GET" (.reconciliation id) (.reconcile account)
  | reconciliations : Offered "GET" .reconciliations .reconcileAll

theorem taskOf_ok_iff
    {checked : Checked Call}
    {call : Call} :
    taskOf checked = .ok (.perform call) ↔ checked = .ok call := by
  cases checked with
  | ok other => simp [taskOf]
  | error complaints => simp [taskOf]

/-- A part that is only put into another form was given. -/
theorem checked_map_ok
    {Part Next : Type}
    {form : Part → Next}
    {checked : Checked Part}
    {result : Next}
    (given : checked.map form = .ok result) :
    ∃ part, checked = .ok part ∧ form part = result := by
  cases checked with
  | ok part => exact ⟨part, rfl, Except.ok.inj given⟩
  | error complaints => cases given

theorem listCall_offered
    {query : List (String × String)}
    {call : Call}
    (read : listCall query = .ok call) :
    Offered "GET" .accounts call := by
  rw [listCall] at read
  split at read
  · cases read
  · rcases checked_map_ok read with ⟨owner, -, rfl⟩
    exact .accounts owner

theorem historyCall_offered
    {id : String}
    {query : List (String × String)}
    {call : Call}
    (read : historyCall id query = .ok call) :
    Offered "GET" (.history id) call := by
  rcases attempt_ok_iff.mp read with ⟨⟨⟨account, limit⟩, offset⟩, -, made⟩
  cases made
  exact .history id account limit offset

theorem readingTask_offered
    {resource : Resource}
    {query : List (String × String)}
    {call : Call}
    (read : readingTask resource query = some (.ok (.perform call))) :
    Offered "GET" resource call := by
  cases resource with
  | accounts => exact listCall_offered (taskOf_ok_iff.mp (Option.some.inj read))
  | account id =>
      rcases checked_map_ok (taskOf_ok_iff.mp (Option.some.inj read)) with ⟨account, -, rfl⟩
      exact .account id account
  | history id => exact historyCall_offered (taskOf_ok_iff.mp (Option.some.inj read))
  | reconciliation id =>
      rcases checked_map_ok (taskOf_ok_iff.mp (Option.some.inj read)) with ⟨account, -, rfl⟩
      exact .reconciliation id account
  | reconciliations =>
      cases taskOf_ok_iff.mp (Option.some.inj read)
      exact .reconciliations
  | group id =>
      rcases checked_map_ok (taskOf_ok_iff.mp (Option.some.inj read)) with ⟨group, -, rfl⟩
      exact .group id group
  | _ => cases read

theorem writingCall_offered
    {resource : Resource}
    {reader : Option Value → Checked Call}
    {body : Option Value}
    {call : Call}
    (writes : writingCall resource = some reader)
    (read : reader body = .ok call) :
    Offered "POST" resource call := by
  cases resource with
  | users =>
      cases writes
      rcases attempt_ok_iff.mp read with ⟨fields, -, registering⟩
      rcases attempt_ok_iff.mp registering with ⟨email, -, made⟩
      cases made
      exact .registration _
  | accounts =>
      cases writes
      rcases attempt_ok_iff.mp read with ⟨fields, -, opening⟩
      rcases attempt_ok_iff.mp opening with ⟨⟨⟨owner, name⟩, currency⟩, -, made⟩
      cases made
      exact .opening _ _ _
  | transfers =>
      cases writes
      rcases attempt_ok_iff.mp read with ⟨fields, -, transferring⟩
      rcases attempt_ok_iff.mp transferring with
        ⟨⟨⟨source, destination⟩, amount, description⟩, -, made⟩
      cases made
      exact .transfer _ _ _ _
  | deposits id =>
      cases writes
      rcases attempt_ok_iff.mp read with ⟨⟨account, amount, description⟩, -, made⟩
      cases made
      exact .deposit _ _ _ _
  | withdrawals id =>
      cases writes
      rcases attempt_ok_iff.mp read with ⟨⟨account, amount, description⟩, -, made⟩
      cases made
      exact .withdrawal _ _ _ _
  | _ => cases writes

/-- A request that becomes a call keeps to the table. -/
theorem offered_of_task
    {request : Request}
    {call : Call}
    (asked : request.task = .ok (.perform call)) :
    ∃ resource,
      Resource.ofPath? request.path = some resource ∧
        Offered request.method.toUpper resource call := by
  rw [Request.task] at asked
  cases found : Resource.ofPath? request.path with
  | none =>
      rw [found] at asked
      cases asked
  | some resource =>
      rw [found] at asked
      refine ⟨resource, rfl, ?_⟩
      simp only at asked
      split at asked
      · rename_i method
        rw [method]
        cases read : readingTask resource (pathQuery request.path ++ request.query) with
        | none =>
            rw [read] at asked
            cases asked
        | some task =>
            rw [read, Option.getD_some] at asked
            rw [asked] at read
            exact readingTask_offered read
      · rename_i method
        rw [method]
        split at asked
        · cases asked
        · rename_i reader writes
          rcases attempt_ok_iff.mp asked with ⟨body, -, read⟩
          exact writingCall_offered writes (taskOf_ok_iff.mp read)
      · cases asked

/-! ## Notices that are told -/

/-- Whether a request asks for a list: the accounts of an owner, or all reconciliations. -/
def Request.asksForList (request : Request) : Bool :=
  request.method.toUpper == "GET" &&
    (Resource.ofPath? request.path == some .accounts ||
      Resource.ofPath? request.path == some .reconciliations)

/-- The routes that tell no notices are the two that list things. -/
theorem tellsNotices_eq
    {request : Request}
    {call : Call}
    (asked : request.task = .ok (.perform call)) :
    tellsNotices call = !request.asksForList := by
  rcases offered_of_task asked with ⟨resource, named, offered⟩
  rw [Request.asksForList, named]
  generalize request.method.toUpper = method at offered
  cases offered <;> rfl

/-- A call that fails with a notice is answered by it, unless the request asks for a list. -/
theorem serve_failed
    {surroundings : Surroundings}
    {request : Request}
    {call : Call}
    {desk later : Desk}
    {failure : Failure}
    {notice : Notice}
    (asked : request.task = .ok (.perform call))
    (failed : call.perform surroundings desk = .error failure later)
    (noticed : failure.notice? = some notice) :
    serve surroundings request desk =
      .ok
        (if request.asksForList then .internalError
          else .refusal notice.kind.status notice.report)
        later := by
  rw [serve, asked]
  simp only [serveCall, failed, failureResponse, noticed, tellsNotices_eq asked]
  cases request.asksForList with
  | true => rfl
  | false => rfl

/-- A commit or a rollback that failed is told under the status that asks to try again. -/
theorem status_of_unfinished
    {failure : Failure}
    {notice : Notice}
    (noticed : failure.notice? = some notice)
    (unfinished :
      (∃ cause, failure = .commitFailed cause) ∨
        ∃ cause rollback, failure = .rollbackFailed cause rollback) :
    notice.kind.status = 503 := by
  rcases unfinished with ⟨cause, rfl⟩ | ⟨cause, rollback, rfl⟩
  · cases noticed
    rfl
  · cases noticed
    rfl

/--
Every call of a request that fails with a notice of the ledger is answered by the status
of the notice and its report, and by status 503 if a commit or a rollback failed.  Only a
request for a list is answered that something went wrong, and told nothing of the notice.
-/
theorem serve_tells_notices
    (surroundings : Surroundings)
    (request : Request)
    (call : Call)
    (desk later : Desk)
    (failure : Failure)
    (notice : Notice)
    (asked : request.task = .ok (.perform call))
    (failed : call.perform surroundings desk = .error failure later)
    (noticed : failure.notice? = some notice) :
    (∃ resource,
      Resource.ofPath? request.path = some resource ∧
        Offered request.method.toUpper resource call) ∧
      (request.asksForList = false →
        serve surroundings request desk =
            .ok (.refusal notice.kind.status notice.report) later ∧
          ((∃ cause, failure = .commitFailed cause) ∨
              (∃ cause rollback, failure = .rollbackFailed cause rollback) →
            notice.kind.status = 503)) ∧
      (request.asksForList = true →
        serve surroundings request desk = .ok .internalError later) := by
  have served := serve_failed asked failed noticed
  refine ⟨offered_of_task asked, ?_, ?_⟩
  · intro tells
    rw [tells] at served
    exact ⟨served, status_of_unfinished noticed⟩
  · intro lists
    rw [lists] at served
    exact served

end Http

namespace Sample

/-- Every commit fails. -/
def uncommitted : Surroundings where
  locked := false
  fault := ⟨true, false⟩

/-- A request for the entries of a group, of which there are none. -/
def groupRequest : Http.Request where
  method := "GET"
  path := "/transactions/00000004-0000-4000-8000-000000000001"
  query := []
  body := .absent

/-- A request for all reconciliations. -/
def listRequest : Http.Request where
  method := "GET"
  path := "/reconcile"
  query := []
  body := .absent

theorem groupRequest_task :
    groupRequest.task = .ok (.perform (.entriesOfGroup (.drawn .group 1))) := by
  have named :
      Http.Resource.ofPath? groupRequest.path =
        some (.group "00000004-0000-4000-8000-000000000001") := by
    decide +kernel
  have method : groupRequest.method.toUpper = "GET" := by decide +kernel
  have group :
      Identifier.ofStrictText? "00000004-0000-4000-8000-000000000001" =
        some (.drawn .group 1) := by
    decide +kernel
  rw [Http.Request.task, named]
  simp only [method, Http.readingTask, Http.identifierText, group]
  rfl

theorem listRequest_task : listRequest.task = .ok (.perform .reconcileAll) := by
  have named : Http.Resource.ofPath? listRequest.path = some .reconciliations := by
    decide +kernel
  have method : listRequest.method.toUpper = "GET" := by decide +kernel
  rw [Http.Request.task, named]
  simp only [method]
  rfl

/-- The rule at work: where no commit succeeds, the entries of a group are answered by 503. -/
theorem unfinished_group_told :
    ∃ response later,
      Http.serve uncommitted groupRequest opened = .ok response later ∧ response.status = 503 := by
  have failed :
      (Call.entriesOfGroup (.drawn .group 1)).perform uncommitted opened =
        .error (.commitFailed .storageRefused) opened := by
    rfl
  have tells : groupRequest.asksForList = false := by decide +kernel
  have told :=
    Http.serve_tells_notices uncommitted groupRequest _ opened opened _ _ groupRequest_task failed
      rfl
  exact ⟨_, _, (told.2.1 tells).1, (told.2.1 tells).2 (Or.inl ⟨_, rfl⟩)⟩

/-- A request for a list is told nothing of a commit that failed, not even by its status. -/
theorem unfinished_list_untold :
    (∃ later,
      Call.reconcileAll.perform uncommitted opened =
        .error (.commitFailed .storageRefused) later) ∧
      ∃ response later,
        Http.serve uncommitted listRequest opened = .ok response later ∧
          response = .internalError ∧ response.status = 500 := by
  have failed :
      Call.reconcileAll.perform uncommitted opened =
        .error (.commitFailed .storageRefused) opened := by
    rfl
  have lists : listRequest.asksForList = true := by decide +kernel
  have served := Http.serve_failed listRequest_task failed rfl
  rw [lists] at served
  exact ⟨⟨_, failed⟩, _, _, served, rfl, rfl⟩

end Sample

end Bookkeeping
