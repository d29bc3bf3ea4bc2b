import Bookkeeping.Http.Service
import Bookkeeping.Scenario.Operation
import Bookkeeping.Unit.Transaction

/-!
# Steps

A scenario is a list of steps that are taken one after the other at the desk of
one bank.  A step is a call, a request, an operation on the store in a unit of
work of its own, or a unit of work with a body of steps.  Inside of a body,
operations on the store run in that unit of work, and all other steps go their
own way; they find the lock held, and whatever they answer, the body goes on.
-/

namespace Bookkeeping

/-- One step of a scenario. -/
inductive Step where
  /-- Perform a call of the bank. -/
  | call (call : Call)
  /-- Serve a request. -/
  | request (request : Http.Request)
  /-- Set the clock. -/
  | setClock (time : Timestamp) (zone : Option Int)
  /-- Change settings that the bank works by. -/
  | configure (changes : List (String × Value))
  /-- Operate on the store; in a body, a guarded failure does not end the body. -/
  | store (operation : StoreOperation) (isGuarded : Bool)
  /-- Run a body as one unit of work, and fail at its end if a failure is given. -/
  | unit (level : Value) (raised : Option Failure) (body : List Step)
  /-- Fail without doing anything; the state may be told nevertheless. -/
  | fail (failure : Failure) (tellsState : Bool)
  /-- Take a step while calls of the database fail. -/
  | faulty (fault : Fault) (step : Step)

/-- What a step answers: a value, or the failure that it met. -/
abbrev Outcome := Except Failure Value

/-- The answer to a step inside of a body. -/
def Outcome.record : Outcome → Value
  | .ok value => .record [("ok", value)]
  | .error failure => failure.report.value

/-- The answer to a unit of work: the answers of its body, and how it ended. -/
def unitRecord (body : List Value) (outcome : Except Failure Unit) : Value :=
  let ending := match outcome with
    | .ok _ => .text "committed"
    | .error failure => failure.report.value
  .record [("body", .list body), ("outcome", ending)]

/-- The outcome of an activity, and the desk that it leaves. -/
def outcomeOf {Answer : Type}
    (value : Answer → Value)
    (result : EStateM.Result Failure Desk Answer) :
    Outcome × Desk :=
  match result with
  | .ok answer desk => (.ok (value answer), desk)
  | .error failure desk => (.error failure, desk)

namespace Policy

/-- The policy after one setting has changed; other settings do not concern it. -/
def change (policy : Policy) (name : String) (value : Value) : Policy :=
  match Setting.named? name with
  | some .settlementAccountName => { policy with settlementName := value }
  | some .defaultCurrency => { policy with defaultCurrency := value }
  | some .defaultPageSize => { policy with defaultPageSize := value }
  | some .maxPageSize => { policy with maxPageSize := value }
  | some .appVersion => { policy with version := value }
  | _ => policy

end Policy

namespace Desk

/-- The desk with another clock. -/
def withClock (desk : Desk) (time : Timestamp) (zone : Option Int) : Desk :=
  let sources := { desk.bank.sources with clock := time, zone := zone }
  { desk with bank := { desk.bank with sources := sources } }

/-- The desk after settings have changed. -/
def reconfigured (desk : Desk) (changes : List (String × Value)) : Desk :=
  let policy := changes.foldl (fun policy (name, value) => policy.change name value)
    desk.bank.policy
  { desk with bank := { desk.bank with policy := policy } }

end Desk

namespace Step

mutual

def take (surroundings : Surroundings) : Step → Desk → Outcome × Desk
  | .call made, desk => outcomeOf Reply.value (made.perform surroundings desk)
  | .request asked, desk =>
    outcomeOf Http.Response.record (Http.serve surroundings asked desk)
  | .setClock time zone, desk => (.ok .null, desk.withClock time zone)
  | .configure changes, desk => (.ok .null, desk.reconfigured changes)
  | .store operation _, desk =>
    outcomeOf id (operation.perform.inUnit surroundings .null desk)
  | .unit level raised body, desk =>
    match Session.opened surroundings level desk with
    | .error failure => (.ok (unitRecord [] (.error failure)), desk)
    | .ok session =>
      let (answers, result) := takeBody surroundings raised body session
      match Work.conclude surroundings.fault result with
      | .ok _ desk => (.ok (unitRecord answers (.ok ())), desk)
      | .error failure desk => (.ok (unitRecord answers (.error failure)), desk)
  | .fail met _, desk => (.error met, desk)
  | .faulty fault step, desk => step.take { surroundings with fault := fault } desk

/--
Takes the steps of a body in the session of its unit of work.  The answers are
those of the steps that did not end the body.
-/
def takeBody (surroundings : Surroundings) (raised : Option Failure) :
    List Step → Session → List Value × EStateM.Result Failure Session Unit
  | [], session =>
    match raised with
    | none => ([], .ok () session)
    | some failure => ([], .error failure session)
  | .store operation isGuarded :: rest, session =>
    match operation.perform session with
    | .ok value session =>
      let (answers, result) := takeBody surroundings raised rest session
      (.record [("ok", value)] :: answers, result)
    | .error failure session =>
      if isGuarded then
        let (answers, result) := takeBody surroundings raised rest session
        (failure.report.value :: answers, result)
      else ([], .error failure session)
  | step :: rest, session =>
    let (outcome, desk) := step.take (session.surroundings surroundings.fault) session.desk
    let (answers, result) := takeBody surroundings raised rest { session with desk := desk }
    (Outcome.record outcome :: answers, result)

end

/-- Whether the state of the ledger is told after a step. -/
def tellsState : Step → Bool
  | .call made => made.movesMoney
  | .request asked => asked.method.toUpper == "POST"
  | .store operation _ => operation.tellsState
  | .unit _ _ _ => true
  | .fail _ tellsState => tellsState
  | .faulty _ step => step.tellsState
  | _ => false

end Step

end Bookkeeping
