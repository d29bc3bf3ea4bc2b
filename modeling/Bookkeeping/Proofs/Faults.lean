import Bookkeeping.Proofs.Intentions
import Bookkeeping.Proofs.Run

/-!
# Faults of the database

Two calls of the database can fail, the commit and the rollback, and each of the two can
fail alone.  Which of them a call makes is settled by its course, and the course of a
call does not depend on the faults: the arguments, the bank and the lock determine
whether a unit of work is opened and how its body ends.

From the course it can be told what every fault makes of the call.  A call that opens no
unit of work meets no fault.  A failure of the body is told as it is where the rollback
succeeds, whatever would have become of a commit, and together with the failure of the
rollback where that fails.  After a body that has completed only the commit can fail, and
then this is told in place of the answer, even where the answer would have been a refusal.
-/

namespace Bookkeeping

open Session

variable {Answer : Type}

/-- The desk after a rollback has failed, which is put on record. -/
def Desk.unsaved (desk : Desk) (failure : Failure) : Desk :=
  { desk with log := desk.log ++ [.rollbackFailed failure .storageLost] }

namespace Work

theorem conclude_raised
    (fault : Fault)
    (failure : Failure)
    (left : Session) :
    conclude fault (.error failure left : EStateM.Result Failure Session Answer) =
      if fault.rollback then
        .error (.rollbackFailed failure .storageLost) (left.desk.unsaved failure)
      else .error failure left.desk := by
  rw [conclude, rollBack]
  split
  · rfl
  · rfl

/-- Whether a unit of work can be opened does not depend on the faults. -/
theorem inUnit_eq
    (locked : Bool)
    (fault : Fault)
    (body : Work Answer)
    (desk : Desk) :
    body.inUnit ⟨locked, fault⟩ .null desk =
      match Session.opened ⟨locked, .absent⟩ .null desk with
      | .error failure => .error failure desk
      | .ok session => conclude fault (body session) :=
  rfl

end Work

/-! ## Every call under every fault -/

/-- A group without entries is refused after the commit, so the commit has to succeed first. -/
example :
    let group := Identifier.drawn .group 9
    (Call.entriesOfGroup group).perform ⟨false, ⟨false, true⟩⟩ Sample.opened =
        .error (.transactionNotFound group) Sample.opened ∧
      (Call.entriesOfGroup group).perform ⟨false, ⟨true, true⟩⟩ Sample.opened =
        .error (.commitFailed .storageRefused) Sample.opened :=
  ⟨rfl, rfl⟩

end Bookkeeping
