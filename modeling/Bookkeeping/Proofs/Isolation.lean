import Bookkeeping.Proofs.Invisibility
import Bookkeeping.Proofs.Record

/-!
# Isolation of open units of work

Where units of work ask for a level of isolation, each of them takes the lock when it is opened,
and keeps it until it ends or is undone by an insertion that fails.  Whatever else is attempted
in the meantime gets nowhere.  It may be refused because of its arguments, or because the level
for which it asks is unknown; but as soon as it needs the database it finds the lock held, and
that is all it can tell.  Calls fail because of it, requests are answered by an error of the
server, and the bank reports that its health is degraded.

An attempt therefore changes nothing but the record, and nobody reads that.  Without it the
body of the unit of work is answered as before, ends as before, and leaves the same bank.
-/

namespace Bookkeeping

open Session

/-! ## The level of isolation -/

/-- Units of work take the lock as soon as they are opened, whatever level they name. -/
def Bank.LocksAtOnce (bank : Bank) : Prop :=
  bank.isolation.isTruthy = true ∧ ∃ isolation, Isolation.ofValue bank.isolation = .ok isolation

theorem Session.requestedLevel_of_given
    {level bankLevel : Value}
    (given : bankLevel.isTruthy = true) :
    requestedLevel level bankLevel = some (if level.isTruthy then level else bankLevel) := by
  rw [requestedLevel, given]
  split
  · rfl
  · rfl

/-- Why a unit of work cannot be opened while the lock is held: its level may be unknown. -/
def Isolation.barred (level : Value) : Failure :=
  if level.isTruthy then
    match Isolation.ofValue level with
    | .ok _ => .locked
    | .error failure => failure
  else .locked

namespace Session

variable {surroundings : Surroundings} {desk : Desk}

theorem opened_barred
    (locked : surroundings.locked = true)
    (locks : desk.bank.LocksAtOnce)
    (level : Value) :
    opened surroundings level desk = .error (Isolation.barred level) := by
  rcases locks with ⟨given, isolation, known⟩
  rcases surroundings with ⟨_, fault⟩
  cases locked
  rw [opened, requestedLevel_of_given given, Isolation.barred]
  cases asked : level.isTruthy with
  | true =>
      simp only [if_true]
      cases Isolation.ofValue level with
      | ok other => rfl
      | error failure => rfl
  | false =>
      simp only [Bool.false_eq_true, if_false, known]
      rfl

theorem opened_held
    {level : Value}
    {session : Session}
    (locks : desk.bank.LocksAtOnce)
    (opening : opened surroundings level desk = .ok session) :
    session.pending.isSome := by
  rw [opened, requestedLevel_of_given locks.1] at opening
  rcases attempt_ok_iff.mp opening with ⟨isolation, -, viewing⟩
  cases viewed : Work.view (idle surroundings isolation desk) with
  | error failure left =>
      rw [viewed] at viewing
      cases viewing
  | ok tables left =>
      rw [viewed] at viewing
      cases viewing
      rcases Work.view_ok viewed with ⟨-, -, rfl, -⟩
      rfl

end Session

/-! ## Sessions that hold on to the lock -/

/-- A desk has the level of isolation that it had before. -/
def Desk.SameIsolation (before after : Desk) : Prop :=
  after.bank.isolation = before.bank.isolation

instance : IsPreorder Desk Desk.SameIsolation where
  refl _ := rfl
  trans _ _ _ early late := late.trans early

/-- A session has held on to the lock, unless it was undone, and the level has stayed. -/
structure Session.HeldOn (before after : Session) : Prop where
  isolation : Desk.SameIsolation before.desk after.desk
  undone : before.undoneBy.isSome → after.undoneBy.isSome
  held : before.pending.isSome → after.undoneBy = none → after.pending.isSome

namespace Session.HeldOn

instance : IsPreorder Session HeldOn where
  refl _ := ⟨rfl, id, fun held _ => held⟩
  trans _ _ _ early late :=
    { isolation := late.isolation.trans early.isolation
      undone := fun undone => late.undone (early.undone undone)
      held := fun held usable =>
        late.held (early.held held (usable_before late.undone usable)) usable }

theorem of_continued {before after : Session} (continued : Continued before after) :
    HeldOn before after where
  isolation := by rw [Desk.SameIsolation, continued.bank]
  undone := continued.undone
  held := continued.held

end Session.HeldOn

theorem Work.conclude_sameIsolation
    {Answer : Type}
    {barred : Bool}
    {desk : Desk}
    {session : Session}
    (fresh : Fresh barred desk session)
    {result : EStateM.Result Failure Session Answer}
    (heldOn : HeldOn session (stateOf result))
    (fault : Fault) :
    Desk.SameIsolation desk (stateOf (conclude fault result)) := by
  have same := heldOn.isolation
  rw [fresh.desk] at same
  cases concluded : conclude fault result with
  | error failure later =>
      rcases conclude_error concluded with ⟨last, continued, sameBank⟩
      have ended := (HeldOn.of_continued continued).isolation
      rw [Desk.SameIsolation] at same ended ⊢
      rw [stateOf, sameBank, ended, same]
  | ok answer later =>
      rcases conclude_ok concluded with ⟨final, last, rfl, completed, rfl⟩
      have ended := (HeldOn.of_continued (complete_continued.of_ok completed)).isolation
      rw [Desk.SameIsolation] at same ended ⊢
      rw [stateOf, committed_isolation, ended]
      exact same

/-- Whatever a body does, its session holds on to the lock, or is undone. -/
theorem Step.heldOn_kept : Step.Kept Desk.SameIsolation HeldOn where
  quiet same := congrArg Bank.isolation same
  clock _ _ _ := rfl
  configured _ _ := rfl
  grown grown := .of_continued grown.continued
  beside _ _ same := ⟨same, id, fun held _ => held⟩
  concluded fresh heldOn fault := Work.conclude_sameIsolation fresh heldOn fault

/-- A session holds the lock until it is undone, and others need the lock at once. -/
structure Session.Guarded (session : Session) : Prop where
  held : session.undoneBy = none → session.pending.isSome
  locks : session.desk.bank.LocksAtOnce

/-- A session is guarded from its opening. -/
theorem Session.opened_guarded
    {surroundings : Surroundings}
    {level : Value}
    {desk : Desk}
    {session : Session}
    (locks : desk.bank.LocksAtOnce)
    (opening : opened surroundings level desk = .ok session) :
    session.Guarded where
  held _ := opened_held locks opening
  locks := by rwa [(opened_ok opening).desk]

theorem Session.HeldOn.guarded
    {before after : Session}
    (heldOn : HeldOn before after)
    (guarded : before.Guarded) :
    after.Guarded where
  held usable := heldOn.held (guarded.held (usable_before heldOn.undone usable)) usable
  locks := by
    have same : after.desk.bank.isolation = before.desk.bank.isolation := heldOn.isolation
    rw [Bank.LocksAtOnce, same]
    exact guarded.locks

/-- A session stays guarded, whatever a body does in it. -/
theorem Session.Guarded.takeBody
    {session : Session}
    (guarded : session.Guarded)
    (surroundings : Surroundings)
    (raised : Option Failure)
    (body : List Step) :
    (stateOf (Step.takeBody surroundings raised body session).2).Guarded :=
  (Step.heldOn_kept.takeBody surroundings raised body session).guarded guarded

/-! ## What is attempted while the lock is held -/

/-- Why a call fails while the lock is held: it is refused, or it meets the lock. -/
def Intention.barred : Intention → Failure
  | .refused failure => failure
  | .working _ _ _ | .probing => .locked

/-- The response to a request while the lock is held. -/
def Http.Request.barred (request : Request) (policy : Policy) : Response :=
  match request.task with
  | .error response => response.seenBy request
  | .ok .checkHealth => healthReport policy.version false
  | .ok (.perform call) =>
    match call.intention policy with
    | .refused failure => failureResponse call failure
    | .working _ _ _ | .probing => .internalError

/--
What comes of an attempt while the lock is held.  Attempts are all steps that may come to need
the database, but for the operations that a body performs in its own unit of work.
-/
def Step.barred? (policy : Policy) : Step → Option Outcome
  | .call made => some (.error (made.intention policy).barred)
  | .request asked => some (.ok (asked.barred policy).record)
  | .unit level _ _ => some (.ok (unitRecord [] (.error (Isolation.barred level))))
  | .faulty _ step => step.barred? policy
  | .setClock _ _ | .configure _ | .store _ _ | .fail _ _ => none

section Barred

variable {surroundings : Surroundings} {desk : Desk}

theorem Work.inUnit_barred
    {Answer : Type}
    (locked : surroundings.locked = true)
    (locks : desk.bank.LocksAtOnce)
    (body : Work Answer) :
    body.inUnit surroundings .null desk = .error .locked desk := by
  rw [inUnit, opened_barred locked locks]
  rfl

theorem Service.ping_barred (locked : surroundings.locked = true) :
    ping surroundings desk = .error .locked desk := by
  rw [ping, locked]
  rfl

theorem Call.perform_barred
    (locked : surroundings.locked = true)
    (locks : desk.bank.LocksAtOnce)
    (call : Call) :
    call.perform surroundings desk = .error (call.intention desk.bank.policy).barred desk := by
  rw [call.perform_eq]
  cases call.intention desk.bank.policy with
  | refused failure => rfl
  | probing =>
      rw [Intention.carryOut, map_error_iff, Service.ping_barred locked]
      rfl
  | working body told reply =>
      rw [Intention.carryOut_working, Work.inUnit_barred locked locks]
      rfl

/-- A request meets the lock at most; only the report on the health is put on record. -/
theorem Http.serve_barred
    (locked : surroundings.locked = true)
    (locks : desk.bank.LocksAtOnce)
    (request : Request) :
    ∃ later,
      later.bank = desk.bank ∧
        serve surroundings request desk = .ok (request.barred desk.bank.policy) later := by
  rw [serve.eq_def, Request.barred]
  cases request.task with
  | error response => exact ⟨desk, rfl, rfl⟩
  | ok task =>
      cases task with
      | checkHealth =>
          refine ⟨{ desk with log := desk.log ++ [.databaseUnreachable] }, rfl, ?_⟩
          simp only [serveHealth, Service.ping_barred locked]
          rfl
      | perform call =>
          refine ⟨desk, rfl, ?_⟩
          simp only [serveCall, call.perform_barred locked locks]
          cases call.intention desk.bank.policy with
          | refused failure => rfl
          | probing => rfl
          | working body told reply => rfl

/-- An attempt while the lock is held leaves the bank as it is. -/
theorem Step.take_barred
    (surroundings : Surroundings)
    (locked : surroundings.locked = true)
    (locks : desk.bank.LocksAtOnce)
    (step : Step)
    {outcome : Outcome}
    (attempted : step.barred? desk.bank.policy = some outcome) :
    ∃ later, later.bank = desk.bank ∧ step.take surroundings desk = (outcome, later) := by
  cases step with
  | call made =>
      cases attempted
      refine ⟨desk, rfl, ?_⟩
      rw [take, made.perform_barred locked locks]
      rfl
  | request asked =>
      cases attempted
      rcases Http.serve_barred locked locks asked with ⟨later, same, served⟩
      refine ⟨later, same, ?_⟩
      rw [take, served]
      rfl
  | unit level raised body =>
      cases attempted
      refine ⟨desk, rfl, ?_⟩
      rw [take, opened_barred locked locks]
  | faulty fault step =>
      rw [take]
      exact take_barred { surroundings with fault := fault } locked locks step attempted
  | _ => cases attempted

end Barred

/-! ## Attempts in a body -/

namespace Step

variable {surroundings : Surroundings} {session : Session}

/-- The first step ends a body, or it is answered and the rest of the body goes on from there. -/
theorem takeBody_first
    (surroundings : Surroundings)
    (raised : Option Failure)
    (step : Step)
    (rest : List Step)
    (session : Session) :
    (∃ failure later,
        takeBody surroundings none [step] session = ([], .error failure later) ∧
          takeBody surroundings raised (step :: rest) session = ([], .error failure later)) ∨
      ∃ answer later,
        takeBody surroundings none [step] session = ([answer], .ok () later) ∧
          takeBody surroundings raised (step :: rest) session =
            (answer :: (takeBody surroundings raised rest later).1,
              (takeBody surroundings raised rest later).2) := by
  rcases step.store_or_other with ⟨operation, isGuarded, rfl⟩ | other
  · simp only [takeBody]
    cases operation.perform session with
    | ok value later => exact Or.inr ⟨_, later, rfl, rfl⟩
    | error failure later =>
        cases isGuarded with
        | true => exact Or.inr ⟨_, later, rfl, rfl⟩
        | false => exact Or.inl ⟨failure, later, rfl, rfl⟩
  · rw [takeBody_other surroundings none [] session other,
      takeBody_other surroundings raised rest session other]
    exact Or.inr ⟨_, _, rfl, rfl⟩

/-- An attempt in a session that holds the lock changes nothing but the record. -/
theorem takeBody_attempt
    {step : Step}
    {outcome : Outcome}
    (guarded : session.Guarded)
    (usable : session.undoneBy = none)
    (attempted : step.barred? session.desk.bank.policy = some outcome) :
    ∃ later,
      later.bank = session.desk.bank ∧
        takeBody surroundings none [step] session =
          ([outcome.record], .ok () { session with desk := later }) := by
  have locked : (session.surroundings surroundings.fault).locked = true := by
    rw [Session.surroundings, guarded.held usable, Bool.or_true]
  rcases take_barred _ locked guarded.locks step attempted with ⟨later, same, taken⟩
  have other : ∀ operation isGuarded, step ≠ .store operation isGuarded := by
    rintro operation isGuarded rfl
    cases attempted
  refine ⟨later, same, ?_⟩
  rw [takeBody_other surroundings none [] session other, taken]
  rfl

end Step

/-! ## Leaving attempts out of bodies -/

/--
Whether every step of a body that has a false mark is an attempt, and is made while the session
is not undone.  What comes after the end of a body is never made at all.
-/
def Session.mayOmit (surroundings : Surroundings) (session : Session) :
    List Bool → List Step → Bool
  | [], [] => true
  | isKept :: marks, step :: rest =>
    (isKept || ((step.barred? session.desk.bank.policy).isSome && session.undoneBy.isNone)) &&
      match (Step.takeBody surroundings none [step] session).2 with
      | .ok _ later => later.mayOmit surroundings marks rest
      | .error _ _ => true
  | _, _ => false

namespace Step

variable {surroundings : Surroundings}

/-- In sessions that differ by the record alone, a body and what is left of it do the same. -/
theorem takeBody_remaining
    (raised : Option Failure)
    {marks : List Bool}
    {body : List Step}
    {whole left : Session}
    (guarded : whole.Guarded)
    (same : SameButRecord whole left)
    (omits : whole.mayOmit surroundings marks body = true) :
    (takeBody surroundings raised (remaining marks body) left).1 =
        remaining marks (takeBody surroundings raised body whole).1 ∧
      Matches SameButRecord (takeBody surroundings raised body whole).2
        (takeBody surroundings raised (remaining marks body) left).2 := by
  induction body generalizing whole left marks with
  | nil =>
      cases marks with
      | nil =>
          cases raised with
          | none => exact ⟨rfl, .ok same⟩
          | some failure => exact ⟨rfl, .error same⟩
      | cons isKept marks => cases omits
  | cons step rest hypothesis =>
      cases marks with
      | nil => cases omits
      | cons isKept marks =>
          rcases Bool.and_eq_true_iff.mp omits with ⟨attempt, others⟩
          have after := guarded.takeBody surroundings none [step]
          cases isKept with
          | true =>
              have single := takeBody_sameBut surroundings none [step] same
              rcases takeBody_first surroundings raised step rest whole with
                ⟨failure, later, alone, all⟩ | ⟨answer, later, alone, all⟩
              · rcases takeBody_first surroundings raised step (remaining marks rest) left with
                  ⟨met, last, aloneLeft, allLeft⟩ | ⟨met, last, aloneLeft, allLeft⟩
                · rw [alone, aloneLeft] at single
                  rw [remaining, all, allLeft]
                  exact ⟨rfl, single.2⟩
                · rw [alone, aloneLeft] at single
                  cases single.1
              · rcases takeBody_first surroundings raised step (remaining marks rest) left with
                  ⟨met, last, aloneLeft, allLeft⟩ | ⟨other, last, aloneLeft, allLeft⟩
                · rw [alone, aloneLeft] at single
                  cases single.1
                · rw [alone, aloneLeft] at single
                  rw [alone] at after others
                  rcases single with ⟨sameAnswer, matched⟩
                  cases sameAnswer
                  cases matched with
                  | ok sameLater =>
                      rcases hypothesis after sameLater others with ⟨answers, ends⟩
                      rw [remaining, all, allLeft]
                      exact ⟨congrArg (answer :: ·) answers, ends⟩
          | false =>
              rcases Bool.and_eq_true_iff.mp attempt with ⟨attempted, usable⟩
              rcases Option.isSome_iff_exists.mp attempted with ⟨outcome, attempted⟩
              rcases takeBody_attempt guarded (Option.isNone_iff_eq_none.mp usable) attempted with
                ⟨desk, sameBank, alone⟩
              rcases takeBody_first surroundings raised step rest whole with
                ⟨failure, later, failed, all⟩ | ⟨answer, later, answered, all⟩
              · rw [failed] at alone
                cases alone
              · rw [answered] at alone after others
                cases alone
                rw [remaining, all]
                rcases same with ⟨log, rfl⟩
                have besides : Desk.SameBank desk { whole.desk with log := log } := sameBank.symm
                exact hypothesis after (whole.sameButRecord_of_sameBank besides) others

/--
An open unit of work is isolated.  Whatever is attempted at any point of its body, as long as it
is not undone, is refused because of its arguments or meets the lock, and changes nothing but
the record: the unit of work goes on in the same session, at a desk with the same bank.  If such
attempts are left out of the body, everything else is answered as before, the unit of work ends
as before, and it leaves the same bank.
-/
theorem open_unit_is_isolated
    (surroundings : Surroundings)
    (level : Value)
    {desk : Desk}
    {session : Session}
    (locks : desk.bank.LocksAtOnce)
    (opening : Session.opened surroundings level desk = .ok session) :
    (∀ early here,
        (takeBody surroundings none early session).2 = .ok () here →
          here.undoneBy = none →
            ∀ step outcome,
              step.barred? here.desk.bank.policy = some outcome →
                ∃ later,
                  later.bank = here.desk.bank ∧
                    takeBody surroundings none [step] here =
                      ([outcome.record], .ok () { here with desk := later })) ∧
      ∀ raised marks body,
        session.mayOmit surroundings marks body = true →
          ∃ answers ending,
            let whole := (unit level raised body).take surroundings desk
            let left := (unit level raised (remaining marks body)).take surroundings desk
            whole.1 = .ok (unitRecord answers ending) ∧
              left.1 = .ok (unitRecord (remaining marks answers) ending) ∧
                left.2.bank = whole.2.bank := by
  have guarded := opened_guarded locks opening
  constructor
  · intro early here ended usable step outcome attempted
    have stillGuarded := guarded.takeBody surroundings none early
    rw [ended] at stillGuarded
    exact takeBody_attempt stillGuarded usable attempted
  · intro raised marks body omits
    rcases takeBody_remaining raised guarded ⟨session.desk.log, rfl⟩ omits with
      ⟨answers, matched⟩
    have concluded := Work.conclude_matches surroundings.fault matched
    refine ⟨(takeBody surroundings raised body session).1, ?_⟩
    simp only [take, opening, answers]
    generalize Work.conclude surroundings.fault
      (takeBody surroundings raised body session).2 = ended at concluded ⊢
    generalize Work.conclude surroundings.fault
      (takeBody surroundings raised (remaining marks body) session).2 = endedLeft at concluded ⊢
    cases concluded with
    | ok same => exact ⟨.ok (), rfl, rfl, same⟩
    | @error failure _ _ same => exact ⟨.error failure, rfl, rfl, same⟩

end Step

namespace Sample

/-- A bank at whose desk units of work take the lock at once, with a settlement account. -/
def guarded : Desk :=
  Opening.desk (Opening.bank (settings.set .isolationLevel (.text "SERIALIZABLE")) true)

/-- The session of a unit of work that was opened at that desk. -/
def entered : Session :=
  { Session.idle .calm .serializable guarded with pending := some guarded.bank.tables }

/-- A request for the health of the bank. -/
def healthRequest : Http.Request where
  method := "GET"
  path := "/health"
  query := []
  body := .absent

/-- Money is moved and an account opened, with attempts of all kinds in between. -/
def crowded : List Step :=
  [.call (.createUser (.text "ada@example.com")),
    .store (.moveBalance (.drawn .account 1) (.finite false 25 (-1))) false,
    .call (.deposit savings (.text "0") .null),
    .faulty ⟨true, true⟩ (.call .ping),
    .request healthRequest,
    .store (.openAccount (.text "Till") .null none true) false,
    .unit .null none [.store .accounts false],
    .unit (.text "chaos") none [],
    .store .accounts false]

/-- The rule at work: a call meets the lock, and what is left of the body does the same. -/
theorem isolation_of_crowded :
    let marks := [false, true, false, false, false, true, false, false, true]
    let whole := (Step.unit .null none crowded).take .calm guarded
    let left := (Step.unit .null none (remaining marks crowded)).take .calm guarded
    guarded.bank.LocksAtOnce ∧
      Session.opened .calm .null guarded = .ok entered ∧
        (∃ later,
          later.bank = guarded.bank ∧
            Step.takeBody .calm none [.call .ping] entered =
              ([Outcome.record (.error .locked)], .ok () { entered with desk := later })) ∧
          entered.mayOmit .calm marks crowded = true ∧
            (∃ answers ending,
              whole.1 = .ok (unitRecord answers ending) ∧
                left.1 = .ok (unitRecord (remaining marks answers) ending) ∧
                  left.2.bank = whole.2.bank) ∧
              whole.2.bank.tables.accounts.map Account.balance = [25000, 0] := by
  intro marks whole left
  have locks : guarded.bank.LocksAtOnce := ⟨rfl, .serializable, rfl⟩
  have opening : Session.opened .calm .null guarded = .ok entered := rfl
  have omits : entered.mayOmit .calm marks crowded = true := by decide +kernel
  have isolated := Step.open_unit_is_isolated .calm .null locks opening
  refine ⟨locks, opening, ?_, omits, isolated.2 none marks crowded omits, ?_⟩
  · exact isolated.1 [] entered rfl rfl (.call .ping) _ rfl
  · decide +kernel

end Sample

end Bookkeeping
