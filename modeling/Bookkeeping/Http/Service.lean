import Bookkeeping.Http.Path
import Bookkeeping.Http.Validation
import Bookkeeping.Service.Call

/-!
# Serving requests

A request names a resource and a method, and becomes a call of the bank; the
reply becomes the response.  A notice of the ledger is told to the client under
the status of its kind, except by the two resources that list things: these
tell nothing of what went wrong, and neither does any resource of a failure
that is not the ledger's own.
-/

namespace Bookkeeping.Http

/-! ## Resources -/

/-- What a path can name. -/
inductive Resource where
  | health
  | users
  | accounts
  | account (id : String)
  | deposits (id : String)
  | withdrawals (id : String)
  | history (id : String)
  | reconciliation (id : String)
  | reconciliations
  | transfers
  | group (id : String)
deriving DecidableEq

namespace Resource

/-- The resource of an account that the rest of a path names. -/
def ofAccount? (id : String) : List String → Option Resource
  | [] => some (.account id)
  | ["deposit"] => some (.deposits id)
  | ["withdraw"] => some (.withdrawals id)
  | ["entries"] => some (.history id)
  | ["reconcile"] => some (.reconciliation id)
  | _ => none

/-- The resource that segments name. -/
def ofSegments? : List String → Option Resource
  | ["health"] => some .health
  | ["users"] => some .users
  | ["accounts"] => some .accounts
  | ["transfers"] => some .transfers
  | ["reconcile"] => some .reconciliations
  | ["transactions", id] => if id.isEmpty then none else some (.group id)
  | "accounts" :: id :: rest => if id.isEmpty then none else ofAccount? id rest
  | _ => none

/-- The resource that segments name; one line feed at their end is overlooked. -/
def ofLine? (segments : List String) : Option Resource :=
  (ofSegments? segments).or (ofSegments? (withoutLineFeed segments))

/-- The resource that a path names; slashes at its end are overlooked. -/
def ofPath? (path : String) : Option Resource :=
  let segments := pathSegments path
  (ofLine? segments).or (ofLine? (withoutTrailing segments))

end Resource

/-! ## Calls -/

/-- What a request asks the bank to do. -/
inductive Task where
  | checkHealth
  | perform (call : Call)

/-- The response to a request that cannot become a call, or the call. -/
def taskOf (checked : Checked Call) : Except Response Task :=
  match checked with
  | .ok call => .ok (.perform call)
  | .error complaints => .error (.complaints complaints)

/-- The account that a path names. -/
def accountInPath (id : String) : Checked Identifier :=
  identifierText ["path", "account_id"] id

def userCall (fields : Fields) : Checked Call := do
  let email ← requiredField fields "email" emailValue
  return .createUser (.text email)

def accountCall (fields : Fields) : Checked Call := do
  let ((owner, name), currency) ←
    ((requiredField fields "owner_id" identifierValue).both
      (requiredField fields "name" nameValue)).both
      (optionalField fields "currency" currencyValue)
  return .openAccount owner (.text name) (.ofText? currency)

/-- The amount and the description of a movement. -/
def movementFields (fields : Fields) : Checked (String × Option String) :=
  (requiredField fields "amount" amountValue).both
    (optionalField fields "description" descriptionValue)

def movementCall
    (make : Identifier → Value → Value → Call)
    (id : String)
    (body : Option Value) :
    Checked Call := do
  let (account, amount, description) ←
    (accountInPath id).both (bodyFields body >>= movementFields)
  return make account (.text amount) (.ofText? description)

def transferCall (fields : Fields) : Checked Call := do
  let ((source, destination), amount, description) ←
    ((requiredField fields "from_account_id" identifierValue).both
      (requiredField fields "to_account_id" identifierValue)).both (movementFields fields)
  return .transfer source destination (.text amount) (.ofText? description)

/-- The accounts of the owner whom a query names. -/
def listCall (query : List (String × String)) : Checked Call :=
  match lastValue? query "owner_id" with
  | none => .refuse ["query", "owner_id"] .missing .null
  | some text => (identifierText ["query", "owner_id"] text).map .listAccounts

def historyCall (id : String) (query : List (String × String)) : Checked Call := do
  let ((account, limit), offset) ←
    ((accountInPath id).both
      (integerQuery (lastValue? query "limit") "limit" .null)).both
      (integerQuery (lastValue? query "offset") "offset" (.int 0))
  return .history account limit offset

/-- The task that a request with the method of reading sets. -/
def readingTask (resource : Resource) (query : List (String × String)) :
    Option (Except Response Task) :=
  match resource with
  | .health => some (.ok .checkHealth)
  | .accounts => some (taskOf (listCall query))
  | .account id => some (taskOf ((accountInPath id).map .showAccount))
  | .history id => some (taskOf (historyCall id query))
  | .reconciliation id => some (taskOf ((accountInPath id).map .reconcile))
  | .reconciliations => some (taskOf (.ok .reconcileAll))
  | .group id =>
    some (taskOf ((identifierText ["path", "transaction_id"] id).map .entriesOfGroup))
  | .users | .transfers | .deposits _ | .withdrawals _ => none

/-- How the body of a request with the method of writing becomes a call. -/
def writingCall (resource : Resource) : Option (Option Value → Checked Call) :=
  match resource with
  | .users => some fun body => bodyFields body >>= userCall
  | .accounts => some fun body => bodyFields body >>= accountCall
  | .transfers => some fun body => bodyFields body >>= transferCall
  | .deposits id => some (movementCall .deposit id)
  | .withdrawals id => some (movementCall .withdraw id)
  | _ => none

/-- The task that a request sets, or the response where it sets none. -/
def Request.task (request : Request) : Except Response Task :=
  match Resource.ofPath? request.path with
  | none => .error .notFound
  | some resource =>
    match request.method.toUpper with
    | "GET" =>
      (readingTask resource (pathQuery request.path ++ request.query)).getD
        (.error .methodNotAllowed)
    | "POST" =>
      match writingCall resource with
      | none => .error .methodNotAllowed
      | some call => do
        let body ← bodyValue request.body
        taskOf (call body)
    | _ => .error .methodNotAllowed

/-! ## Responses -/

/-- The acknowledgement of a movement. -/
def acknowledgement (group : Identifier) (message : String) : Value :=
  .record [("transaction_id", .text group.text), ("message", .text message)]

/-- A time whose zone is not ahead of the universal one is marked as such. -/
def universal (time : String) : String :=
  if time.endsWith "+00:00" then (time.dropEnd 6).toString ++ "Z" else time

/-- A row in a response, with the time at which it was made in the form that responses use. -/
def rowBody : Value → Value
  | .record fields => .record (fields.map fun (name, value) =>
      match name, value with
      | "created_at", .text time => (name, .text (universal time))
      | _, _ => (name, value))
  | other => other

/-- The body of the response to a call that succeeded. -/
def replyBody : Call → Reply → Value
  | .deposit _ _ _, .group group => acknowledgement group "deposit successful"
  | .withdraw _ _ _, .group group => acknowledgement group "withdrawal successful"
  | .transfer _ _ _ _, .group group => acknowledgement group "transfer successful"
  | .entriesOfGroup group, reply =>
    .record [("transaction_id", .text group.text), ("entries", reply.value)]
  | _, reply => rowBody reply.value

/-- The status of the response to a call that succeeded. -/
def replyStatus : Call → Nat
  | .createUser _ | .openAccount _ _ _ => 201
  | _ => 200

/-- Whether the resource of a call tells the notices of the ledger. -/
def tellsNotices : Call → Bool
  | .listAccounts _ | .reconcileAll => false
  | _ => true

/-- The response to a call that failed. -/
def failureResponse (call : Call) (failure : Failure) : Response :=
  match failure.notice? with
  | some notice =>
    if tellsNotices call then .refusal notice.kind.status notice.report else .internalError
  | none => .internalError

/-- The name under which the bank reports its health. -/
def serviceName : String := "double-entry-bank"

/-- The report on the health of the bank. -/
def healthReport (version : Value) (reachable : Bool) : Response where
  status := 200
  body := .record [("status", .text (if reachable then "healthy" else "degraded")),
    ("service", .text serviceName), ("version", version),
    ("database", .text (if reachable then "healthy" else "unhealthy"))]

/-- Performs a call and answers with its outcome. -/
def serveCall (surroundings : Surroundings) (call : Call) : Activity Response := fun desk =>
  match call.perform surroundings desk with
  | .ok reply desk => .ok ⟨replyStatus call, replyBody call reply⟩ desk
  | .error failure desk => .ok (failureResponse call failure) desk

/-- Reports the health of the bank; a database that does not answer is put on record. -/
def serveHealth (surroundings : Surroundings) : Activity Response := fun desk =>
  match Service.ping surroundings desk with
  | .ok _ desk => .ok (healthReport desk.bank.policy.version true) desk
  | .error _ desk =>
    (do
      Activity.announce .databaseUnreachable
      return healthReport desk.bank.policy.version false : Activity Response) desk

/-- A response as the client sees it: whoever asks for the head alone gets no body. -/
def Response.seenBy (response : Response) (request : Request) : Response :=
  if request.method.toUpper = "HEAD" then { response with body := .text "" } else response

def serve (surroundings : Surroundings) (request : Request) : Activity Response :=
  match request.task with
  | .error response => pure (response.seenBy request)
  | .ok .checkHealth => serveHealth surroundings
  | .ok (.perform call) => serveCall surroundings call

end Bookkeeping.Http
