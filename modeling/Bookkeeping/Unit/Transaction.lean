import Bookkeeping.Unit.Session

/-!
# Units of work

A unit of work opens a session, lets its body run in it, and then either
commits all that the body did or undoes all of it.  A body that fails is rolled
back and its failure is told on; where the rollback fails as well, both
failures are told together.  A commit that fails is told as such, unless it was not the
database that failed.

With a level of isolation the session takes the lock when it is opened, and a
lock held by someone else is told as it is: nothing was begun that would have to
be rolled back.  Without a level the lock is taken at the first look.
-/

namespace Bookkeeping

namespace Session

/-- The level of isolation to ask for: the one given, or else the bank's own. -/
def requestedLevel (given bankLevel : Value) : Option Value :=
  if given.isTruthy then some given
  else if bankLevel.isTruthy then some bankLevel
  else none

def opened (surroundings : Surroundings) (level : Value) (desk : Desk) :
    Except Failure Session :=
  match requestedLevel level desk.bank.isolation with
  | none => .ok (idle surroundings .serializable desk)
  | some value => do
    match Work.view (idle surroundings (← Isolation.ofValue value) desk) with
    | .ok _ session => .ok session
    | .error failure _ => .error failure

/-- Writes what still waits to be written; a session that was undone cannot be completed. -/
def complete : Work Unit := fun session =>
  match session.undoneBy with
  | some failure => .error (.undone failure) session
  | none => Work.flushWaiting session

/-- The desk after the session's tables have become the committed ones. -/
def committed (session : Session) : Desk :=
  match session.pending with
  | none => session.desk
  | some tables =>
    let desk := session.desk
    { desk with bank := { desk.bank with tables := tables } }

end Session

namespace Work

/-- Rolls back after a failure. -/
def rollBack {Answer : Type} (fault : Fault) (failure : Failure) : Activity Answer := fun desk =>
  if fault.rollback then
    (do
      Activity.announce (.rollbackFailed failure .storageLost)
      Activity.refuse (.rollbackFailed failure .storageLost) : Activity Answer) desk
  else .error failure desk

/-- How it is told that what still waited could not be written. -/
def unableToCommit (failure : Failure) : Failure :=
  if failure.isOfDatabase then .commitFailed failure else failure

/-- Ends a unit of work by what became of its body. -/
def conclude {Answer : Type} (fault : Fault) :
    EStateM.Result Failure Session Answer → EStateM.Result Failure Desk Answer
  | .error failure session => rollBack fault failure session.desk
  | .ok answer session =>
    if fault.commit then .error (.commitFailed .storageRefused) session.desk
    else
      match Session.complete session with
      | .error failure session => .error (unableToCommit failure) session.desk
      | .ok _ session => .ok answer session.committed

/-- Runs a body as one unit of work. -/
def inUnit {Answer : Type}
    (surroundings : Surroundings)
    (level : Value)
    (body : Work Answer) :
    Activity Answer := fun desk =>
  match Session.opened surroundings level desk with
  | .error failure => .error failure desk
  | .ok session => conclude surroundings.fault (body session)

end Work

end Bookkeeping
