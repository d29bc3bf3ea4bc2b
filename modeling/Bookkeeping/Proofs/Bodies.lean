import Bookkeeping.Proofs.Prospect
import Bookkeeping.Proofs.Run

/-!
# Bodies of operations

A unit of work whose body is a list of operations on the store is all or nothing.  If
it is committed, the tables have changed by the writes of those operations that
answered, in their order, and by nothing else; a user who had only been staged is
written like all others.  If it is not committed, whatever the reason, the tables are
what they were.

A guarded failure lets the body go on.  It takes nothing away from what the operations
before it have written, unless it has undone the session; and a session that was undone
is never committed, whatever the body does with it afterwards.
-/

namespace Bookkeeping

open Session Work

/-- An operation in a body; if it is guarded, its failure does not end the body. -/
structure BodyOperation where
  operation : StoreOperation
  isGuarded : Bool

/-- The step of a body that an operation is. -/
def BodyOperation.step (item : BodyOperation) : Step :=
  .store item.operation item.isGuarded

/-! ## Performances -/

/-- An operation that was performed, and the session in which it was. -/
structure Performance where
  operation : StoreOperation
  session : Session

namespace Performance

variable (performance : Performance)

/-- What the operation answered, or how it failed. -/
def outcome : Outcome :=
  match performance.operation.perform performance.session with
  | .ok value _ => .ok value
  | .error failure _ => .error failure

/-- The session that the operation left. -/
def left : Session :=
  stateOf (performance.operation.perform performance.session)

/-- What the operation wrote, if it answered. -/
def writes : List Write :=
  match performance.outcome with
  | .ok _ => (performance.operation.write? performance.session.sources).toList
  | .error _ => []

/-- Whether the operation failed because the database refused a row. -/
def isRefused : Bool :=
  match performance.outcome with
  | .ok _ => false
  | .error failure => performance.operation.isRefusal performance.session failure

theorem adds : Adds performance.writes performance.session performance.left := by
  rw [writes, outcome, left]
  cases performed : performance.operation.perform performance.session with
  | ok value after => exact (performance.operation.perform_writes).answers performed
  | error failure after => exact (performance.operation.perform_writes).fails performed

theorem undone_of_isRefused
    (refused : performance.isRefused = true) :
    performance.left.undoneBy.isSome := by
  rw [isRefused, outcome] at refused
  rw [left]
  cases performed : performance.operation.perform performance.session with
  | ok value after =>
      rw [performed] at refused
      cases refused
  | error failure after =>
      rw [performed] at refused
      exact StoreOperation.perform_refused performed refused

end Performance

namespace BodyOperation

/-- The operations of a body that are performed: all up to a failure that is not guarded. -/
def performed : List BodyOperation → Session → List Performance
  | [], _ => []
  | item :: rest, session =>
    let performance : Performance := ⟨item.operation, session⟩
    match performance.outcome, item.isGuarded with
    | .error _, false => [performance]
    | _, _ => performance :: performed rest performance.left

/-- What the operations of a body write that answer. -/
def written (body : List BodyOperation) (session : Session) : List Write :=
  (performed body session).flatMap Performance.writes

/-- Taking the first operation of a body ends the body, or the rest of it goes on from there. -/
theorem takeBody_cons
    (surroundings : Surroundings)
    (raised : Option Failure)
    (item : BodyOperation)
    (rest : List BodyOperation)
    (session : Session) :
    let performance : Performance := ⟨item.operation, session⟩
    (performed (item :: rest) session = [performance] ∧
        ∃ failure,
          Step.takeBody surroundings raised ((item :: rest).map step) session =
            ([], .error failure performance.left)) ∨
      (performed (item :: rest) session = performance :: performed rest performance.left ∧
        Step.takeBody surroundings raised ((item :: rest).map step) session =
          (performance.outcome.record ::
              (Step.takeBody surroundings raised (rest.map step) performance.left).1,
            (Step.takeBody surroundings raised (rest.map step) performance.left).2)) := by
  rcases item with ⟨operation, isGuarded⟩
  simp only [performed, List.map_cons, step, Step.takeBody, Performance.outcome, Performance.left]
  cases operation.perform session with
  | ok value after => exact Or.inr ⟨rfl, rfl⟩
  | error failure after =>
      cases isGuarded with
      | true => exact Or.inr ⟨rfl, rfl⟩
      | false => exact Or.inl ⟨rfl, failure, rfl⟩

/-- A body adds to the prospect what its operations write. -/
theorem takeBody_adds
    (surroundings : Surroundings)
    (raised : Option Failure)
    (body : List BodyOperation)
    (session : Session) :
    Adds (written body session) session
      (stateOf (Step.takeBody surroundings raised (body.map step) session).2) := by
  induction body generalizing session with
  | nil =>
      cases raised with
      | none => exact .refl session
      | some failure => exact .refl session
  | cons item rest hypothesis =>
      have adds := (⟨item.operation, session⟩ : Performance).adds
      rcases takeBody_cons surroundings raised item rest session with
        ⟨single, failure, taken⟩ | ⟨several, taken⟩
      · rw [written, single, List.flatMap_singleton, taken]
        exact adds
      · rw [written, several, List.flatMap_cons, taken]
        exact adds.trans (hypothesis _)

/-- A body in which the database refused a row leaves a session that is undone. -/
theorem takeBody_undone
    (surroundings : Surroundings)
    (raised : Option Failure)
    {body : List BodyOperation}
    {session : Session}
    {performance : Performance}
    (member : performance ∈ performed body session)
    (refused : performance.isRefused = true) :
    (stateOf (Step.takeBody surroundings raised (body.map step) session).2).undoneBy.isSome := by
  induction body generalizing session with
  | nil => cases member
  | cons item rest hypothesis =>
      rcases takeBody_cons surroundings raised item rest session with
        ⟨single, failure, taken⟩ | ⟨several, taken⟩
      · rw [single, List.mem_singleton] at member
        subst member
        rw [taken]
        exact Performance.undone_of_isRefused _ refused
      · rw [several, List.mem_cons] at member
        rw [taken]
        rcases member with rfl | later
        · -- What the rest of the body does cannot bring the session back.
          exact (takeBody_adds surroundings raised rest _).undone
            (Performance.undone_of_isRefused _ refused)
        · exact hypothesis later

/-- A body that comes to its end tells what became of each of its operations. -/
theorem takeBody_ok
    {surroundings : Surroundings}
    {raised : Option Failure}
    {body : List BodyOperation}
    {session final : Session}
    (ended : (Step.takeBody surroundings raised (body.map step) session).2 = .ok () final) :
    raised = none ∧
      (Step.takeBody surroundings raised (body.map step) session).1 =
        (performed body session).map fun performance => performance.outcome.record := by
  induction body generalizing session with
  | nil =>
      cases raised with
      | none => exact ⟨rfl, rfl⟩
      | some failure => cases ended
  | cons item rest hypothesis =>
      rcases takeBody_cons surroundings raised item rest session with
        ⟨single, failure, taken⟩ | ⟨several, taken⟩
      · rw [taken] at ended
        cases ended
      · rw [taken] at ended
        rcases hypothesis ended with ⟨nothingRaised, sameAnswers⟩
        rw [taken, several, sameAnswers]
        exact ⟨nothingRaised, rfl⟩

end BodyOperation

/-! ## All or nothing -/

/-- The answer to a unit of work that failed is none to a unit of work that was committed. -/
theorem unitRecord_failed_ne
    {body others : List Value}
    {failure : Failure} :
    unitRecord body (.error failure) ≠ unitRecord others (.ok ()) := by
  intro same
  simp only [unitRecord, Value.record.injEq, List.cons.injEq, Prod.mk.injEq, true_and,
    and_true] at same
  cases told : failure.report with
  | ofLedger notice => simp [told, Report.value, Notice.report] at same
  | ofHost name message details => simp [told, Report.value] at same

/-- Whether the answer to a step is that of a unit of work that was committed. -/
def Outcome.IsCommitted (outcome : Outcome) : Prop :=
  ∃ answers, outcome = .ok (unitRecord answers (.ok ()))

namespace Step

open BodyOperation

variable
  {surroundings : Surroundings}
  {level : Value}
  {raised : Option Failure}
  {body : List BodyOperation}
  {desk after : Desk}
  {outcome : Outcome}

/-- A unit of work with a body of operations either commits all that they wrote, or nothing. -/
theorem unit_ends
    (taken :
      (Step.unit level raised (body.map BodyOperation.step)).take surroundings desk =
        (outcome, after)) :
    (∃ session,
      Session.opened surroundings level desk = .ok session ∧
        raised = none ∧ surroundings.fault.commit = false ∧
        outcome =
          .ok (unitRecord
            ((performed body session).map fun performance => performance.outcome.record)
            (.ok ())) ∧
        (∀ performance ∈ performed body session, performance.isRefused = false) ∧
        after.bank.tables = (written body session).foldl Write.apply desk.bank.tables) ∨
      ∃ answers failure,
        outcome = .ok (unitRecord answers (.error failure)) ∧
          after.bank.tables = desk.bank.tables := by
  rw [take] at taken
  cases opening : Session.opened surroundings level desk with
  | error failure =>
      rw [opening] at taken
      cases taken
      exact Or.inr ⟨[], failure, rfl, rfl⟩
  | ok session =>
      have fresh := Session.opened_ok opening
      have adds := takeBody_adds surroundings raised body session
      rw [opening] at taken
      simp only at taken
      cases concluded :
          Work.conclude surroundings.fault
            (takeBody surroundings raised (body.map BodyOperation.step) session).2 with
      | error failure later =>
          rw [concluded] at taken
          cases taken
          rcases Work.conclude_error concluded with ⟨last, continued, sameBank⟩
          refine Or.inr ⟨_, failure, rfl, ?_⟩
          rw [sameBank, continued.committed, adds.toContinued.committed, fresh.desk]
      | ok done later =>
          rw [concluded] at taken
          cases taken
          rcases Work.conclude_ok concluded with ⟨final, last, ended, completed, rfl⟩
          rcases takeBody_ok ended with ⟨nothingRaised, sameAnswers⟩
          refine
            Or.inl
              ⟨session, rfl, nothingRaised, Work.conclude_sane concluded, ?_, ?_, ?_⟩
          · rw [sameAnswers]
          · intro performance member
            cases refused : performance.isRefused with
            | false => rfl
            | true =>
                have undone := takeBody_undone surroundings raised member refused
                rw [ended] at undone
                have usable := (complete_ok completed).1
                simp [stateOf, usable] at undone
          · rw [ended] at adds
            exact adds.committed_tables fresh completed

/--
A unit of work with a body of operations is all or nothing.  One that is committed has
applied the writes of those operations that answered, in their order, to the tables that
it found; then nothing was raised at its end, no commit failed, and the database refused
none of its rows.  One that is not committed has left the tables as they were.  A body in
which the database once refused a row is never committed, whatever comes after it.
-/
theorem unit_is_all_or_nothing
    (surroundings : Surroundings)
    (level : Value)
    (raised : Option Failure)
    (body : List BodyOperation)
    (desk : Desk) :
    let taken := (Step.unit level raised (body.map BodyOperation.step)).take surroundings desk
    (taken.1.IsCommitted →
      ∃ session,
        Session.opened surroundings level desk = .ok session ∧
          raised = none ∧ surroundings.fault.commit = false ∧
          taken.1 =
            .ok (unitRecord
              ((performed body session).map fun performance => performance.outcome.record)
              (.ok ())) ∧
          taken.2.bank.tables = (written body session).foldl Write.apply desk.bank.tables) ∧
      (¬ taken.1.IsCommitted → taken.2.bank.tables = desk.bank.tables) ∧
      ∀ session,
        Session.opened surroundings level desk = .ok session →
          (∃ performance ∈ performed body session, performance.isRefused = true) →
            ¬ taken.1.IsCommitted := by
  intro taken
  have ending := unit_ends (show _ = (taken.1, taken.2) from rfl)
  refine ⟨?_, ?_, ?_⟩
  · rintro ⟨answers, committed⟩
    rcases ending with
      ⟨session, opening, nothingRaised, sane, told, -, tables⟩ | ⟨others, failure, told, -⟩
    · exact ⟨session, opening, nothingRaised, sane, told, tables⟩
    · rw [told, Except.ok.injEq] at committed
      exact (unitRecord_failed_ne committed).elim
  · intro open?
    rcases ending with ⟨session, -, -, -, told, -⟩ | ⟨others, failure, -, tables⟩
    · exact absurd ⟨_, told⟩ open?
    · exact tables
  · rintro session opening ⟨performance, member, refused⟩ ⟨answers, committed⟩
    rcases ending with
      ⟨other, openingOther, -, -, -, accepted, -⟩ | ⟨others, failure, told, -⟩
    · rw [opening] at openingOther
      cases openingOther
      rw [accepted performance member] at refused
      cases refused
    · rw [told, Except.ok.injEq] at committed
      exact (unitRecord_failed_ne committed).elim

end Step

/-! ## Two bodies to look at -/

namespace Sample

/-- A user is staged, a balance is moved after a guarded failure, and an account is opened. -/
def guardedBody : List BodyOperation :=
  [⟨.addUser (.text "bo@example.com"), false⟩,
    ⟨.moveBalance (.drawn .account 9) (.finite false 1 0), true⟩,
    ⟨.moveBalance (.drawn .account 1) (.finite false 25 (-1)), false⟩,
    ⟨.openAccount (.text "Till") .null none true, false⟩]

/-- An entry with two sides is refused, and the body goes on. -/
def refusedBody : List BodyOperation :=
  [⟨.moveBalance (.drawn .account 1) (.finite false 25 (-1)), false⟩,
    ⟨.post (.drawn .account 1) (.drawn .group 1) (.text "deposit") (.finite false 1 0)
      (.finite false 1 0) .null, true⟩,
    ⟨.readAccount (.drawn .account 1) false, true⟩]

/-- The rule at work: the first body is committed with what it wrote, the second one is not. -/
theorem bodies_all_or_nothing :
    let guarded := (Step.unit .null none (guardedBody.map BodyOperation.step)).take .calm opened
    let refused := (Step.unit .null none (refusedBody.map BodyOperation.step)).take .calm opened
    (guarded.1.IsCommitted ∧
        guarded.2.bank.tables.users.map User.email = ["bo@example.com"] ∧
        guarded.2.bank.tables.accounts.map Account.balance = [25000, 0]) ∧
      ¬ refused.1.IsCommitted ∧ refused.2.bank.tables = opened.bank.tables := by
  intro guarded refused
  have committed : guarded.1.IsCommitted := by
    by_contra open?
    have same := (Step.unit_is_all_or_nothing .calm .null none guardedBody opened).2.1 open?
    exact absurd same (by decide +kernel)
  have rolledBack : ¬ refused.1.IsCommitted := by
    apply (Step.unit_is_all_or_nothing .calm .null none refusedBody opened).2.2 _ rfl
    apply List.any_eq_true.mp
    decide +kernel
  refine ⟨⟨committed, ?_, ?_⟩, rolledBack, ?_⟩
  · decide +kernel
  · decide +kernel
  · exact (Step.unit_is_all_or_nothing .calm .null none refusedBody opened).2.1 rolledBack

end Sample

end Bookkeeping
