import Bookkeeping.Proofs.Intentions
import Bookkeeping.Proofs.Operations
import Bookkeeping.Proofs.Run

/-!
# What every step keeps

A step may be a unit of work with a body of steps, some of which work in its session while
others go their own way at the same desk.  A relation between desks is therefore kept by every
step only together with one between sessions that is kept by every body.

What has to be known of two such relations is said here once.  Sessions may grow, and what
others do at the desk of a session is all that happens beside it; what was kept inside of a
session has to hold of the desk as soon as its unit of work ends.  No more than this is needed
to follow steps into each other, however deep they are nested.
-/

namespace Bookkeeping

open Session

theorem StoreOperation.perform_grown (operation : StoreOperation) :
    Keeps Grown operation.perform := by
  apply Keeps.intro
  · intro before value after answered
    rcases operation.perform_injects.answers answered with ⟨writes, evolved, -⟩
    exact ⟨writes, evolved⟩
  · intro before failure after failed
    exact ⟨[], operation.perform_injects.fails failed⟩

/-- A relation between desks and one between sessions that steps and their bodies keep. -/
structure Step.Kept
    (onDesks : Desk → Desk → Prop)
    (onSessions : Session → Session → Prop) : Prop where
  quiet : ∀ {before after}, Desk.SameBank before after → onDesks before after
  clock : ∀ desk time zone, onDesks desk (desk.withClock time zone)
  configured : ∀ desk changes, onDesks desk (desk.reconfigured changes)
  grown : ∀ {before after}, Grown before after → onSessions before after
  beside :
    ∀ session {desk},
      onDesks session.desk desk → onSessions session { session with desk := desk }
  concluded :
    ∀ {Answer : Type} {barred desk session} {result : EStateM.Result Failure Session Answer},
      Fresh barred desk session → onSessions session (stateOf result) →
        ∀ fault, onDesks desk (stateOf (Work.conclude fault result))

namespace Step.Kept

variable {onDesks : Desk → Desk → Prop} {onSessions : Session → Session → Prop}

theorem inUnit
    {Answer : Type}
    (kept : Kept onDesks onSessions)
    (surroundings : Surroundings)
    (level : Value)
    {body : Work Answer}
    (grown : Keeps Grown body) :
    Keeps onDesks (body.inUnit surroundings level) := by
  intro desk
  rcases Work.inUnit_cases surroundings level body desk with
    ⟨failure, ends⟩ | ⟨session, fresh, ends⟩
  · rw [ends]
    exact kept.quiet rfl
  · rw [ends]
    exact kept.concluded fresh (kept.grown (grown session)) surroundings.fault

theorem perform
    [IsPreorder Desk onDesks]
    (kept : Kept onDesks onSessions)
    (surroundings : Surroundings)
    (call : Call) :
    Keeps onDesks (call.perform surroundings) :=
  call.perform_keeps kept.quiet fun _ => kept.inUnit surroundings .null

mutual

/-- The relation between desks is kept by every step. -/
theorem take
    [IsPreorder Desk onDesks]
    [IsPreorder Session onSessions]
    (kept : Kept onDesks onSessions)
    (surroundings : Surroundings)
    (step : Step)
    (desk : Desk) :
    onDesks desk (step.take surroundings desk).2 := by
  cases step with
  | call made =>
      rw [Step.take, outcomeOf_desk]
      exact kept.perform surroundings made desk
  | request asked =>
      rw [Step.take, outcomeOf_desk]
      exact Http.serve_keeps kept.quiet (kept.perform surroundings) asked desk
  | setClock time zone =>
      rw [Step.take]
      exact kept.clock desk time zone
  | configure changes =>
      rw [Step.take]
      exact kept.configured desk changes
  | store operation isGuarded =>
      rw [Step.take, outcomeOf_desk]
      exact kept.inUnit surroundings .null operation.perform_grown desk
  | unit level raised body =>
      rw [Step.take]
      cases opening : Session.opened surroundings level desk with
      | error failure => exact kept.quiet rfl
      | ok session =>
          have whole :=
            kept.concluded (opened_ok opening) (kept.takeBody surroundings raised body session)
              surroundings.fault
          simp only
          cases concluded :
              Work.conclude surroundings.fault
                (Step.takeBody surroundings raised body session).2 with
          | ok done later =>
              rw [concluded] at whole
              exact whole
          | error failure later =>
              rw [concluded] at whole
              exact whole
  | fail met tellsState =>
      rw [Step.take]
      exact kept.quiet rfl
  | faulty fault step =>
      rw [Step.take]
      exact kept.take { surroundings with fault := fault } step desk

/-- The relation between sessions is kept by every body. -/
theorem takeBody
    [IsPreorder Desk onDesks]
    [IsPreorder Session onSessions]
    (kept : Kept onDesks onSessions)
    (surroundings : Surroundings)
    (raised : Option Failure)
    (body : List Step)
    (session : Session) :
    onSessions session (stateOf (Step.takeBody surroundings raised body session).2) := by
  cases body with
  | nil =>
      cases raised with
      | none => exact refl_of onSessions session
      | some failure => exact refl_of onSessions session
  | cons step rest =>
      rcases step.store_or_other with ⟨operation, isGuarded, rfl⟩ | other
      · have performed := kept.grown (operation.perform_grown session)
        rw [Step.takeBody]
        cases outcome : operation.perform session with
        | ok value middle =>
            rw [outcome] at performed
            exact trans_of onSessions performed (kept.takeBody surroundings raised rest middle)
        | error failure middle =>
            rw [outcome] at performed
            cases isGuarded with
            | true =>
                exact trans_of onSessions performed (kept.takeBody surroundings raised rest middle)
            | false => exact performed
      · -- Any other step goes its own way, at the desk of the session.
        rw [takeBody_other surroundings raised rest session other]
        have taken := kept.take (session.surroundings surroundings.fault) step session.desk
        exact
          trans_of onSessions (kept.beside session taken)
            (kept.takeBody surroundings raised rest _)

end

end Step.Kept

end Bookkeeping
