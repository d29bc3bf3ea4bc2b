import Bookkeeping.Proofs.Operations
import Bookkeeping.Proofs.Run

/-!
# What every step commits

Steps of any kind, with units of work inside of units of work.  For each step there
is a list of the operations on the store that it has committed, whether it ran them
in its own unit of work or one of the steps in its body did.  By whatever writes the
bank progresses in a step, they add to the drift of every account what these
operations inject, and nothing else.

Inside of a body the session and the bank go on side by side.  As long as the session
has no tables of its own, it sees what other steps commit; from then on it holds the
lock, and other steps commit nothing.  That is why the two never come apart.
-/

namespace Bookkeeping

open Session

/-! ## The operations that are committed -/

namespace Step

mutual

/-- The operations on the store that a step has committed. -/
def operated (surroundings : Surroundings) : Step → Desk → List StoreOperation
  | .store operation _, desk =>
    match operation.perform.inUnit surroundings .null desk with
    | .ok _ _ => [operation]
    | .error _ _ => []
  | .unit level raised body, desk =>
    match Session.opened surroundings level desk with
    | .error _ => []
    | .ok session =>
      let (own, others) := operatedIn surroundings body session
      match Work.conclude surroundings.fault (takeBody surroundings raised body session).2 with
      | .ok _ _ => own ++ others
      | .error _ _ => others
  | .faulty fault step, desk => step.operated { surroundings with fault := fault } desk
  | .call _, _ | .request _, _ | .setClock _ _, _ | .configure _, _ | .fail _ _, _ => []

/--
The operations that answered in the session of a body, and those that other steps
of the body have committed.
-/
def operatedIn (surroundings : Surroundings) :
    List Step → Session → List StoreOperation × List StoreOperation
  | [], _ => ([], [])
  | .store operation isGuarded :: rest, session =>
    match operation.perform session with
    | .ok _ session =>
      let (own, others) := operatedIn surroundings rest session
      (operation :: own, others)
    | .error _ session =>
      if isGuarded then operatedIn surroundings rest session else ([], [])
  | step :: rest, session =>
    let within := session.surroundings surroundings.fault
    let (own, others) :=
      operatedIn surroundings rest { session with desk := (step.take within session.desk).2 }
    (own, step.operated within session.desk ++ others)

end

end Step

namespace StoreOperation

/-- What operations that were committed inject together into an account. -/
def injected (operations : List StoreOperation) (account : Identifier) : Money :=
  (operations.map (deltaOn account)).sum - (operations.map (effectOn account)).sum

@[simp]
theorem injected_nil (account : Identifier) : injected [] account = 0 :=
  rfl

@[simp]
theorem injected_append (early late : List StoreOperation) (account : Identifier) :
    injected (early ++ late) account = injected early account + injected late account := by
  simp only [injected, List.map_append, List.sum_append]
  linarith

theorem injected_singleton (operation : StoreOperation) (account : Identifier) :
    injected [operation] account = operation.deltaOn account - operation.effectOn account := by
  simp [injected]

end StoreOperation

/-! ## Banks into which a drift is injected -/

/-- A bank has progressed by writes that inject what operations inject. -/
def Bank.Injects
    (locked : Bool)
    (operations : List StoreOperation)
    (before after : Bank) : Prop :=
  before.Sound →
    ∃ writes,
      Progress writes before after ∧
        (∀ account, Write.driftOf writes account = StoreOperation.injected operations account) ∧
        (locked = true → writes = [])

namespace Bank.Injects

variable {locked : Bool} {first second third : Bank}

theorem of_progress (progress : Progress [] first second) :
    Bank.Injects locked [] first second :=
  fun _ => ⟨[], progress, fun _ => rfl, fun _ => rfl⟩

theorem trans
    {early late : List StoreOperation}
    (before : Bank.Injects locked early first second)
    (after : Bank.Injects locked late second third) :
    Bank.Injects locked (early ++ late) first third := by
  intro sound
  rcases before sound with ⟨earlyWrites, earlyProgress, earlySums, earlyLocked⟩
  rcases after (earlyProgress.sound sound) with ⟨lateWrites, lateProgress, lateSums, lateLocked⟩
  refine ⟨earlyWrites ++ lateWrites, earlyProgress.trans lateProgress, ?_, ?_⟩
  · intro account
    rw [Write.driftOf_append, earlySums, lateSums, StoreOperation.injected_append]
  · intro held
    rw [earlyLocked held, lateLocked held, List.append_nil]

end Bank.Injects

/-- Writes that lead back to the same tables inject nothing. -/
theorem Written.driftOf_eq_zero
    {writes : List Write}
    {tables : Tables}
    (written : Written writes tables tables)
    (account : Identifier) :
    Write.driftOf writes account = 0 := by
  have same := written.drift account
  linarith

/-- Entries inject nothing if the balances are moved by what they add. -/
theorem Entry.driftOf_settling (entries : List Entry) (account : Identifier) :
    Write.driftOf (entries.map .entry ++ entries.map Entry.settling) account = 0 := by
  rw [Write.driftOf_append]
  induction entries with
  | nil => rfl
  | cons entry rest hypothesis =>
      have cancelling :
          (Write.entry entry).drift account + entry.settling.drift account = 0 := by
        rw [Entry.settling, Write.drift, Write.drift]
        split
        · exact Int.add_left_neg _
        · rfl
      rw [List.map_cons, List.map_cons, Write.driftOf_cons, Write.driftOf_cons]
      linarith

/-- No deed injects anything. -/
theorem Deed.driftOf_eq_zero
    {tables : Tables}
    {before after : Sources}
    {writes : List Write}
    (deed : Deed tables before after writes)
    (account : Identifier) :
    Write.driftOf writes account = 0 := by
  cases deed with
  | nothing => rfl
  | registration row => rfl
  | opening serves owned => rfl
  | seeding settles unowned absent => rfl
  | movement proper covered drawn advanced => exact Entry.driftOf_settling _ account

theorem Bank.Does.injects
    {locked : Bool}
    {before after : Bank}
    (does : Bank.Does locked before after) :
    Bank.Injects locked [] before after := by
  intro sound
  rcases does sound with ⟨writes, deed, progress, held⟩
  exact ⟨writes, progress, deed.driftOf_eq_zero, held⟩

/-! ## Sessions beside their banks -/

/-- A session has gone on by its own operations, and its bank by those of other steps. -/
structure Session.Advanced
    (own others : List StoreOperation)
    (before after : Session) : Prop where
  locked : after.locked = before.locked
  undone : before.undoneBy.isSome → after.undoneBy.isSome
  barred : before.locked = true → before.pending = none → after.pending = none
  committed : Bank.Injects before.locked others before.desk.bank after.desk.bank
  seen :
    before.desk.bank.Sound → before.Sound → after.undoneBy = none →
      ∃ writes,
        Written writes before.tables after.tables ∧
          (∀ write ∈ writes, write.Drawn after.sources) ∧
          ∀ account,
            Write.driftOf writes account =
              StoreOperation.injected own account + StoreOperation.injected others account

namespace Session.Advanced

variable {first second third : Session} {own others : List StoreOperation}

theorem refl (session : Session) : Advanced [] [] session session where
  locked := rfl
  undone := id
  barred _ none := none
  committed := .of_progress (.refl session.desk.bank)
  seen _ _ _ := ⟨[], .nil _, by simp, fun _ => rfl⟩

theorem trans
    {laterOwn laterOthers : List StoreOperation}
    (before : Advanced own others first second)
    (after : Advanced laterOwn laterOthers second third) :
    Advanced (own ++ laterOwn) (others ++ laterOthers) first third where
  locked := after.locked.trans before.locked
  undone undone := after.undone (before.undone undone)
  barred locked none := after.barred (before.locked.trans locked) (before.barred locked none)
  committed := by
    have later := after.committed
    rw [before.locked] at later
    exact before.committed.trans later
  seen := by
    intro bankSound sound usable
    have usableBetween := usable_before after.undone usable
    rcases before.committed bankSound with ⟨_, progress, -, -⟩
    rcases before.seen bankSound sound usableBetween with
      ⟨early, earlyWritten, earlyDrawn, earlySums⟩
    have bankSoundThen := progress.sound bankSound
    have soundThen : second.Sound :=
      (sound.mono progress.sources.accounts).written earlyWritten earlyDrawn
    rcases after.committed bankSoundThen with ⟨_, laterProgress, -, -⟩
    rcases after.seen bankSoundThen soundThen usable with ⟨late, lateWritten, lateDrawn, lateSums⟩
    refine ⟨early ++ late, earlyWritten.append lateWritten, ?_, ?_⟩
    · intro write member
      rcases List.mem_append.mp member with inEarly | inLate
      · exact (earlyDrawn write inEarly).mono laterProgress.sources
      · exact lateDrawn write inLate
    · intro account
      rw [Write.driftOf_append, earlySums, lateSums, StoreOperation.injected_append,
        StoreOperation.injected_append]
      linarith

/-- A session that evolves by itself leaves its bank alone. -/
theorem of_evolved
    {writes : List Write}
    (evolved : Evolved writes first second)
    (sums : ∀ account, Write.driftOf writes account = StoreOperation.injected own account) :
    Advanced own [] first second where
  locked := evolved.locked
  undone := evolved.undone
  barred := evolved.barred
  committed := .of_progress evolved.toContinued.progress
  seen := by
    intro _ sound usable
    rcases evolved.written usable sound with ⟨written, drawn⟩
    refine ⟨writes, written, drawn, ?_⟩
    intro account
    rw [sums, StoreOperation.injected_nil, Int.add_zero]

/-- While another step is taken, the session sees what it commits, or bars it by the lock. -/
theorem of_step
    {fault : Fault}
    {desk : Desk}
    (session : Session)
    (injects :
      Bank.Injects (session.surroundings fault).locked others session.desk.bank desk.bank) :
    Advanced [] others session { session with desk := desk } where
  locked := rfl
  undone := id
  barred _ none := none
  committed := by
    intro bankSound
    rcases injects bankSound with ⟨writes, progress, sums, held⟩
    exact ⟨writes, progress, sums, fun locked => held (by simp [Session.surroundings, locked])⟩
  seen := by
    intro bankSound _ _
    rcases injects bankSound with ⟨writes, progress, sums, held⟩
    cases pending : session.pending with
    | none =>
        refine ⟨writes, ?_, progress.drawn, ?_⟩
        · simpa [Session.tables, pending] using progress.written
        · intro account
          rw [sums, StoreOperation.injected_nil, Int.zero_add]
    | some own =>
        have nothing : writes = [] := held (by simp [Session.surroundings, pending])
        subst nothing
        refine ⟨[], ?_, by simp, ?_⟩
        · simp [Session.tables, pending]
        · intro account
          rw [← sums account]
          rfl

/-- What a session has seen last is what it commits. -/
theorem completed
    {locked : Bool}
    {desk : Desk}
    {session final last : Session}
    (fresh : Fresh locked desk session)
    (advanced : Advanced own others session final)
    (completed : complete final = .ok () last) :
    Bank.Injects locked (own ++ others) desk.bank last.committed.bank := by
  intro bankSound
  rcases complete_ok completed with ⟨-, usable, -, -, evolved⟩
  have whole : Advanced (own ++ []) (others ++ []) session last :=
    advanced.trans (of_evolved evolved fun account => by simp)
  rw [List.append_nil, List.append_nil] at whole
  have committed := whole.committed
  rw [fresh.desk] at committed
  rcases committed bankSound with ⟨others, progress, -, held⟩
  rcases whole.seen (by rwa [fresh.desk]) (fresh.sound bankSound) usable with
    ⟨writes, written, drawn, sums⟩
  rw [fresh.tables] at written
  have same : last.committed.bank.isolation = desk.bank.isolation := by
    rw [committed_isolation, progress.isolation]
  have sources : desk.bank.sources.Precedes last.committed.bank.sources := by
    rw [committed_sources]
    exact progress.sources
  cases barred : locked with
  | false =>
      refine ⟨writes, ⟨sources, same, ?_, ?_⟩, ?_, by simp⟩
      · rwa [committed_tables]
      · rwa [committed_sources]
      · intro account
        rw [sums, StoreOperation.injected_append]
  | true =>
      -- Under a lock the session never gets tables of its own, and its bank stays as it is.
      have pending : last.pending = none :=
        whole.barred (fresh.locked.trans barred) (fresh.pending barred)
      have sameTables : last.tables = desk.bank.tables := by
        have nothing := held (fresh.locked.trans barred)
        subst nothing
        rw [Session.tables, pending]
        exact progress.sameTables
      rw [sameTables] at written
      refine ⟨[], .of_sameTables sources same ?_, ?_, fun _ => rfl⟩
      · rw [committed_tables, sameTables]
      · intro account
        rw [StoreOperation.injected_append, ← sums, written.driftOf_eq_zero]
        rfl

/-- Of a unit of work that ends badly only what other steps have committed stays. -/
theorem rolledBack
    {Answer : Type}
    {locked : Bool}
    {fault : Fault}
    {desk after : Desk}
    {session : Session}
    {result : EStateM.Result Failure Session Answer}
    {failure : Failure}
    (fresh : Fresh locked desk session)
    (advanced : Advanced own others session (stateOf result))
    (concluded : Work.conclude fault result = .error failure after) :
    Bank.Injects locked others desk.bank after.bank := by
  rcases Work.conclude_error concluded with ⟨last, continued, same⟩
  have committed := advanced.committed.trans (.of_progress continued.progress)
  rwa [fresh.desk, fresh.locked, List.append_nil, ← same] at committed

end Session.Advanced

/-! ## Every step -/

namespace Step

theorem perform_advanced
    {operation : StoreOperation}
    {before after : Session}
    {value : Value}
    (answered : operation.perform before = .ok value after) :
    Advanced [operation] [] before after := by
  rcases operation.perform_injects.answers answered with ⟨writes, evolved, sums⟩
  refine .of_evolved evolved ?_
  intro account
  rw [sums, StoreOperation.injected_singleton]

/-- An ordinary step commits no operation on the store. -/
theorem operated_of_ordinary
    (surroundings : Surroundings)
    (step : Step)
    (ordinary : step.isOrdinary = true)
    (desk : Desk) :
    step.operated surroundings desk = [] := by
  cases step with
  | store operation isGuarded => cases ordinary
  | unit level raised body => cases ordinary
  | faulty fault step =>
      rw [operated]
      exact operated_of_ordinary { surroundings with fault := fault } step ordinary desk
  | _ => rw [operated]

mutual

/-- Every step injects what the operations inject that it commits. -/
theorem take_injects
    (surroundings : Surroundings)
    (step : Step)
    (desk : Desk) :
    Bank.Injects surroundings.locked (step.operated surroundings desk) desk.bank
      (step.take surroundings desk).2.bank := by
  by_cases ordinary : step.isOrdinary = true
  · rw [step.operated_of_ordinary surroundings ordinary]
    exact (step.take_does surroundings ordinary desk).injects
  · cases step with
    | store operation isGuarded =>
        rw [operated, take, outcomeOf_desk]
        cases ended : operation.perform.inUnit surroundings .null desk with
        | error failure after =>
            exact .of_progress (Work.inUnit_error operation.perform_continued ended)
        | ok value after =>
            rcases Work.inUnit_ok ended with
              ⟨session, final, last, fresh, answered, completed, rfl⟩
            exact Advanced.completed fresh (perform_advanced answered) completed
    | unit level raised body =>
        rw [operated, take]
        cases opening : Session.opened surroundings level desk with
        | error failure => exact .of_progress (.refl desk.bank)
        | ok session =>
            have fresh := Session.opened_ok opening
            have advanced := takeBody_advanced surroundings raised body session
            simp only
            cases concluded :
                Work.conclude surroundings.fault
                  (takeBody surroundings raised body session).2 with
            | error failure after => exact Advanced.rolledBack fresh advanced concluded
            | ok done after =>
                rcases Work.conclude_ok concluded with ⟨final, last, answered, completed, rfl⟩
                rw [answered] at advanced
                exact Advanced.completed fresh advanced completed
    | faulty fault step =>
        rw [operated, take]
        exact take_injects { surroundings with fault := fault } step desk
    | _ => exact absurd rfl ordinary

/-- A body takes its session along, and the bank beside it. -/
theorem takeBody_advanced
    (surroundings : Surroundings)
    (raised : Option Failure)
    (body : List Step)
    (session : Session) :
    Advanced (operatedIn surroundings body session).1 (operatedIn surroundings body session).2
      session (stateOf (takeBody surroundings raised body session).2) := by
  cases body with
  | nil =>
      cases raised with
      | none => exact .refl session
      | some failure => exact .refl session
  | cons step rest =>
      rcases step.store_or_other with ⟨operation, isGuarded, rfl⟩ | other
      · rw [operatedIn, takeBody]
        cases performed : operation.perform session with
        | ok value middle =>
            exact
              (perform_advanced performed).trans
                (takeBody_advanced surroundings raised rest middle)
        | error failure middle =>
            have failed : Advanced [] [] session middle :=
              .of_evolved (operation.perform_injects.fails performed) fun _ => rfl
            cases isGuarded with
            | true => exact failed.trans (takeBody_advanced surroundings raised rest middle)
            | false => exact failed
      · rw [operatedIn, takeBody_other surroundings raised rest session other]
        · have taken :=
            take_injects (session.surroundings surroundings.fault) step session.desk
          exact
            (Advanced.of_step session taken).trans
              (takeBody_advanced surroundings raised rest _)
        · exact other

end

end Step

/-! ## Every run -/

/-- The operations on the store that steps have committed, one step after the other. -/
def Desk.operated : Desk → List Step → List StoreOperation
  | _, [] => []
  | desk, step :: rest =>
    step.operated .calm { desk with log := [] } ++
      (step.take .calm { desk with log := [] }).2.operated rest

/-- A run injects what the operations inject that it has committed. -/
theorem Desk.after_injects (desk : Desk) (steps : List Step) :
    Bank.Injects false (desk.operated steps) desk.bank (desk.after steps).bank := by
  induction steps generalizing desk with
  | nil => exact .of_progress (.refl desk.bank)
  | cons step rest hypothesis =>
      exact (step.take_injects .calm { desk with log := [] }).trans (hypothesis _)

/-- A run of ordinary steps commits no operation on the store. -/
theorem Desk.operated_of_ordinary
    {steps : List Step}
    (ordinary : ∀ step ∈ steps, step.isOrdinary = true)
    (desk : Desk) :
    desk.operated steps = [] := by
  induction steps generalizing desk with
  | nil => rfl
  | cons step rest hypothesis =>
      rw [operated, step.operated_of_ordinary .calm (ordinary step List.mem_cons_self),
        List.nil_append]
      exact hypothesis (fun other member => ordinary other (List.mem_cons_of_mem _ member)) _

end Bookkeeping
