import Bookkeeping.Proofs.Primitives
import Bookkeeping.Unit.Transaction

/-!
# How units of work end

A unit of work that ends well has committed what its session saw last.  One that
ends badly leaves the committed tables as they were, however it failed; only the
sources may have advanced, since what was drawn is not given back.  While the lock
is held by another unit of work nothing is committed at all.

What a unit of work does to the bank is again said by writes: the bank progresses
by the writes by which its session has evolved.
-/

namespace Bookkeeping

open Session

variable {Answer : Type}

/-! ## Banks -/

namespace Bank

/-- The tables of a bank are sound with respect to its sources. -/
def Sound (bank : Bank) : Prop :=
  bank.tables.Sound bank.sources

/-- A bank has come from one state to another by writes. -/
structure Progress (writes : List Write) (before after : Bank) : Prop where
  sources : before.sources.Precedes after.sources
  isolation : after.isolation = before.isolation
  written : Written writes before.tables after.tables
  drawn : ∀ write ∈ writes, write.Drawn after.sources

namespace Progress

variable {writes : List Write} {first second third : Bank}

/-- A bank with the same tables has progressed by no writes. -/
theorem of_sameTables
    (sources : first.sources.Precedes second.sources)
    (isolation : second.isolation = first.isolation)
    (tables : second.tables = first.tables) :
    Progress [] first second where
  sources := sources
  isolation := isolation
  written := Written.nil_iff.mpr tables
  drawn := by simp

theorem refl (bank : Bank) : Progress [] bank bank :=
  of_sameTables (.refl bank.sources) rfl rfl

theorem trans
    {early late : List Write}
    (before : Progress early first second)
    (after : Progress late second third) :
    Progress (early ++ late) first third where
  sources := before.sources.trans after.sources
  isolation := after.isolation.trans before.isolation
  written := before.written.append after.written
  drawn := by
    intro write member
    rcases List.mem_append.mp member with inEarly | inLate
    · exact (before.drawn write inEarly).mono after.sources
    · exact after.drawn write inLate

/-- Progress keeps a bank sound. -/
theorem sound
    (progress : Progress writes first second)
    (sound : first.Sound) :
    second.Sound :=
  Tables.Sound.written (sound.mono progress.sources.accounts) progress.written progress.drawn

theorem sameTables (progress : Progress [] first second) : second.tables = first.tables :=
  Written.nil_iff.mp progress.written

end Progress

end Bank

/-! ## Opening -/

/-- Whether units of work can be opened at the level that a bank asks for by itself. -/
def Isolation.isUsable (level : Value) : Bool :=
  !level.isTruthy || (Isolation.ofValue level).isOk

/-- A session that has just been opened at a desk. -/
structure Session.Fresh (barred : Bool) (start : Desk) (session : Session) : Prop where
  desk : session.desk = start
  tables : session.tables = start.bank.tables
  locked : session.locked = barred
  staged : session.staged = []
  revised : session.revised = []
  shown : session.shown = []
  undoneBy : session.undoneBy = none
  given : session.given = []
  pending : barred = true → session.pending = none

namespace Session

theorem idle_fresh
    (surroundings : Surroundings)
    (isolation : Isolation)
    (desk : Desk) :
    Fresh surroundings.locked desk (idle surroundings isolation desk) :=
  ⟨rfl, rfl, rfl, rfl, rfl, rfl, rfl, rfl, fun _ => rfl⟩

theorem opened_ok
    {surroundings : Surroundings}
    {level : Value}
    {desk : Desk}
    {session : Session}
    (opening : opened surroundings level desk = .ok session) :
    Fresh surroundings.locked desk session := by
  rw [opened] at opening
  cases requested : requestedLevel level desk.bank.isolation with
  | none =>
      rw [requested] at opening
      cases opening
      exact idle_fresh surroundings .serializable desk
  | some value =>
      rw [requested] at opening
      cases known : Isolation.ofValue value with
      | error failure =>
          simp [known, bind, Except.bind] at opening
      | ok isolation =>
          simp only [known, bind, Except.bind] at opening
          cases viewed : Work.view (idle surroundings isolation desk) with
          | error failure left =>
              rw [viewed] at opening
              cases opening
          | ok tables viewing =>
              rw [viewed] at opening
              cases opening
              rcases Work.view_ok viewed with ⟨-, -, rfl, open?⟩
              refine ⟨rfl, rfl, rfl, rfl, rfl, rfl, rfl, rfl, ?_⟩
              intro locked
              have own := open? locked
              simp [idle] at own

/-- Where nobody holds the lock, a session can be opened at any level that is known. -/
theorem opened_answers
    {surroundings : Surroundings}
    {desk : Desk}
    (free : surroundings.locked = false)
    (known : Isolation.isUsable desk.bank.isolation = true) :
    ∃ session, opened surroundings .null desk = .ok session := by
  rw [opened]
  cases requested : requestedLevel .null desk.bank.isolation with
  | none => exact ⟨_, rfl⟩
  | some value =>
      have same : value = desk.bank.isolation ∧ desk.bank.isolation.isTruthy = true := by
        simp only [requestedLevel] at requested
        split at requested
        · rename_i wrong
          cases wrong
        · split at requested
          · rename_i asked
            exact ⟨(Option.some.inj requested).symm, asked⟩
          · cases requested
      rw [same.1]
      cases level : Isolation.ofValue desk.bank.isolation with
      | error failure =>
          rw [Isolation.isUsable, same.2, level] at known
          cases known
      | ok isolation =>
          have viewed := Work.view_answers (idle_fresh surroundings isolation desk).undoneBy free
          simp only [level, bind, Except.bind, viewed]
          exact ⟨_, rfl⟩

/-- A session that is opened at the level of the bank has a level that is known. -/
theorem opened_usable
    {surroundings : Surroundings}
    {desk : Desk}
    {session : Session}
    (opening : opened surroundings .null desk = .ok session) :
    Isolation.isUsable desk.bank.isolation = true := by
  rw [Isolation.isUsable]
  cases given : desk.bank.isolation.isTruthy with
  | false => rfl
  | true =>
      have requested :
          requestedLevel .null desk.bank.isolation = some desk.bank.isolation := by
        rw [requestedLevel, given]
        rfl
      rw [opened, requested] at opening
      cases known : Isolation.ofValue desk.bank.isolation with
      | ok isolation => rfl
      | error failure => simp [known, bind, Except.bind] at opening

namespace Fresh

variable {locked : Bool} {desk : Desk} {session last : Session}

theorem sources (fresh : Fresh locked desk session) :
    session.sources = desk.bank.sources := by
  rw [Session.sources, fresh.desk]

theorem sound
    (fresh : Fresh locked desk session)
    (sound : desk.bank.Sound) :
    session.Sound := by
  rw [Session.Sound, fresh.tables, fresh.sources]
  exact sound

end Fresh

/-! ## Completing and committing -/

theorem complete_ok
    {before after : Session}
    (completed : complete before = .ok () after) :
    before.undoneBy = none ∧ after.undoneBy = none ∧
      (before.staged = [] → after = before) ∧ after.staged = [] ∧
      Evolved (before.joining.map .user) before after := by
  rw [complete] at completed
  cases undone : before.undoneBy with
  | some failure =>
      rw [undone] at completed
      cases completed
  | none =>
      rw [undone] at completed
      rcases Work.flushWaiting_ok completed with ⟨sameUndone, -, same, staged, -, evolved⟩
      exact ⟨rfl, sameUndone.trans undone, same, staged, evolved⟩

theorem complete_continued : Keeps Continued complete := by
  apply Keeps.intro
  · intro before answer after completed
    rcases complete_ok completed with ⟨-, -, -, -, evolved⟩
    exact evolved.toContinued
  · intro before failure after refused
    rw [complete] at refused
    cases undone : before.undoneBy with
    | some met =>
        rw [undone] at refused
        cases refused
        exact .refl before
    | none =>
        simp only [undone] at refused
        exact (Work.flushWaiting_error refused).1.toContinued

@[simp]
theorem committed_tables (session : Session) :
    session.committed.bank.tables = session.tables := by
  rw [committed, tables]
  split
  · rename_i pending
    rw [pending]
    rfl
  · rename_i own pending
    rw [pending]
    rfl

@[simp]
theorem committed_sources (session : Session) :
    session.committed.bank.sources = session.sources := by
  rw [committed, sources]
  split
  · rfl
  · rfl

@[simp]
theorem committed_isolation (session : Session) :
    session.committed.bank.isolation = session.desk.bank.isolation := by
  rw [committed]
  split
  · rfl
  · rfl

@[simp]
theorem committed_policy (session : Session) :
    session.committed.bank.policy = session.desk.bank.policy := by
  rw [committed]
  split
  · rfl
  · rfl

/-- A session that has continued without getting tables of its own commits nothing. -/
theorem Continued.committed_tables
    {before after : Session}
    (continued : Continued before after)
    (pending : after.pending = none) :
    after.committed.bank.tables = before.desk.bank.tables := by
  rw [Session.committed_tables, Session.tables, pending, Option.getD_none, continued.committed]

theorem Continued.progress
    {before after : Session}
    (continued : Continued before after) :
    Bank.Progress [] before.desk.bank after.desk.bank := by
  apply Bank.Progress.of_sameTables
  · exact continued.sources
  · rw [continued.bank]
  · exact continued.committed

/-- What a fresh session has evolved by is what its bank progresses by when it commits. -/
theorem Fresh.progress
    {locked : Bool}
    {desk : Desk}
    {session last : Session}
    {writes : List Write}
    (fresh : Fresh locked desk session)
    (evolved : Evolved writes session last)
    (usable : last.undoneBy = none)
    (sound : desk.bank.Sound) :
    Bank.Progress writes desk.bank last.committed.bank := by
  rcases evolved.written usable (fresh.sound sound) with ⟨written, drawn⟩
  constructor
  · rw [committed_sources, ← fresh.sources]
    exact evolved.sources
  · rw [committed_isolation, evolved.bank, fresh.desk]
  · rw [committed_tables, ← fresh.tables]
    exact written
  · rw [committed_sources]
    exact drawn

end Session

/-! ## Concluding -/

namespace Work

variable {surroundings : Surroundings} {level : Value} {body : Work Answer} {before after : Desk}

/-- Rolling back leaves the bank alone, whether it succeeds or fails. -/
theorem rollBack_error
    {fault : Fault}
    {failure met : Failure}
    (refused : (rollBack fault failure : Activity Answer) before = .error met after) :
    after.bank = before.bank := by
  rw [rollBack] at refused
  split at refused
  · rcases sequence_error_iff.mp refused with announced | ⟨_, middle, announced, refusal⟩
    · cases announced
    · cases announced
      cases refusal
      rfl
  · cases refused
    rfl

theorem rollBack_ne_ok
    {fault : Fault}
    {failure : Failure}
    {answer : Answer} :
    rollBack fault failure before ≠ .ok answer after := by
  intro ended
  rw [rollBack] at ended
  split at ended
  · rcases sequence_ok_iff.mp ended with ⟨_, middle, announced, refusal⟩
    cases refusal
  · cases ended

theorem conclude_ok
    {fault : Fault}
    {result : EStateM.Result Failure Session Answer}
    {answer : Answer}
    (concluded : conclude fault result = .ok answer after) :
    ∃ final last,
      result = .ok answer final ∧ complete final = .ok () last ∧ after = last.committed := by
  cases result with
  | error failure session => exact absurd concluded rollBack_ne_ok
  | ok given session =>
      rw [conclude] at concluded
      split at concluded
      · cases concluded
      · cases completed : complete session with
        | error failure last =>
            rw [completed] at concluded
            cases concluded
        | ok done last =>
            rw [completed] at concluded
            cases concluded
            exact ⟨session, last, rfl, completed, rfl⟩

/-- Where commits fail, no unit of work ends well. -/
theorem conclude_sane
    {fault : Fault}
    {result : EStateM.Result Failure Session Answer}
    {answer : Answer}
    (concluded : conclude fault result = .ok answer after) :
    fault.commit = false := by
  cases result with
  | error failure session => exact absurd concluded rollBack_ne_ok
  | ok given session =>
      rw [conclude] at concluded
      split at concluded
      · cases concluded
      · rename_i sane
        exact Bool.eq_false_iff.mpr sane

/-- A unit of work that ends badly leaves the bank as its session leaves it. -/
theorem conclude_error
    {fault : Fault}
    {result : EStateM.Result Failure Session Answer}
    {failure : Failure}
    (concluded : conclude fault result = .error failure after) :
    ∃ last, Continued (stateOf result) last ∧ after.bank = last.desk.bank := by
  cases result with
  | error met session =>
      exact ⟨session, .refl session, rollBack_error concluded⟩
  | ok given session =>
      rw [conclude] at concluded
      split at concluded
      · cases concluded
        exact ⟨session, .refl session, rfl⟩
      · cases completed : complete session with
        | error met last =>
            rw [completed] at concluded
            cases concluded
            exact ⟨last, complete_continued.of_error completed, rfl⟩
        | ok done last =>
            rw [completed] at concluded
            cases concluded

/-- A unit of work is not opened, or it ends by what becomes of its body in a fresh session. -/
theorem inUnit_cases
    (surroundings : Surroundings)
    (level : Value)
    (body : Work Answer)
    (before : Desk) :
    (∃ failure, body.inUnit surroundings level before = .error failure before) ∨
      ∃ session,
        Fresh surroundings.locked before session ∧
          body.inUnit surroundings level before = conclude surroundings.fault (body session) := by
  rw [inUnit]
  cases opening : opened surroundings level before with
  | error failure => exact Or.inl ⟨failure, rfl⟩
  | ok session => exact Or.inr ⟨session, opened_ok opening, rfl⟩

theorem inUnit_ok
    {answer : Answer}
    (ended : body.inUnit surroundings level before = .ok answer after) :
    ∃ session final last,
      Fresh surroundings.locked before session ∧ body session = .ok answer final ∧
        complete final = .ok () last ∧ after = last.committed := by
  rcases inUnit_cases surroundings level body before with ⟨failure, ends⟩ | ⟨session, fresh, ends⟩
  · rw [ends] at ended
    cases ended
  · rw [ends] at ended
    rcases conclude_ok ended with ⟨final, last, answered, completed, same⟩
    exact ⟨session, final, last, fresh, answered, completed, same⟩

theorem inUnit_usable
    {answer : Answer}
    (ended : body.inUnit surroundings .null before = .ok answer after) :
    Isolation.isUsable before.bank.isolation = true := by
  rw [inUnit] at ended
  cases opening : opened surroundings .null before with
  | error failure =>
      rw [opening] at ended
      cases ended
  | ok session => exact opened_usable opening

/-- A unit of work that ends badly progresses by no writes. -/
theorem inUnit_error
    {failure : Failure}
    (keeps : Keeps Continued body)
    (ended : body.inUnit surroundings level before = .error failure after) :
    Bank.Progress [] before.bank after.bank := by
  rcases inUnit_cases surroundings level body before with ⟨met, ends⟩ | ⟨session, fresh, ends⟩
  · rw [ends] at ended
    cases ended
    exact .refl before.bank
  · rw [ends] at ended
    rcases conclude_error ended with ⟨last, continued, same⟩
    have progress := ((keeps session).trans continued).progress
    rwa [same, ← fresh.desk]

/-- While another unit of work holds the lock, none progresses by any writes. -/
theorem inUnit_locked
    (keeps : Keeps Continued body)
    (locked : surroundings.locked = true) :
    Bank.Progress [] before.bank (stateOf (body.inUnit surroundings level before)).bank := by
  cases ended : body.inUnit surroundings level before with
  | error failure after => exact inUnit_error keeps ended
  | ok answer after =>
      rcases inUnit_ok ended with ⟨session, final, last, fresh, answered, completed, rfl⟩
      have continued : Continued session last :=
        (keeps.of_ok answered).trans (complete_continued.of_ok completed)
      have pending : last.pending = none :=
        continued.barred (fresh.locked.trans locked) (fresh.pending locked)
      change Bank.Progress [] before.bank last.committed.bank
      apply Bank.Progress.of_sameTables
      · rw [committed_sources, ← fresh.sources]
        exact continued.sources
      · rw [committed_isolation, continued.bank, fresh.desk]
      · rw [continued.committed_tables pending, fresh.desk]

/-- Where nobody holds the lock and the level is known, a unit of work lets its body run. -/
theorem inUnit_runs
    (body : Work Answer)
    (free : surroundings.locked = false)
    (known : Isolation.isUsable before.bank.isolation = true) :
    ∃ session,
      Fresh false before session ∧
        body.inUnit surroundings .null before = conclude surroundings.fault (body session) := by
  rcases opened_answers free known with ⟨session, opening⟩
  have fresh := opened_ok opening
  rw [free] at fresh
  exact ⟨session, fresh, by rw [inUnit, opening]⟩

/-- What a body leaves is committed where commits succeed, unless it was undone. -/
theorem conclude_answers
    {fault : Fault}
    {final : Session}
    (answer : Answer)
    (sane : fault.commit = false)
    (usable : final.undoneBy = none)
    (nothing : final.staged = [])
    (unrevised : final.revised = []) :
    conclude fault (.ok answer final) = .ok answer final.committed := by
  simp [conclude, sane, complete, usable, flushWaiting_answers nothing unrevised]

/-- Work that only reads answers in a unit of work where nothing fails. -/
theorem reading_answers
    (keeps : Keeps Untouched body)
    (free : surroundings.locked = false)
    (sane : surroundings.fault.commit = false)
    (known : Isolation.isUsable before.bank.isolation = true)
    (answers :
      ∀ session, Fresh false before session → ∃ answer final, body session = .ok answer final) :
    ∃ answer after, body.inUnit surroundings .null before = .ok answer after := by
  rcases inUnit_runs body free known with ⟨session, fresh, ends⟩
  rcases answers session fresh with ⟨answer, final, answered⟩
  have untouched := keeps.of_ok answered
  have usable : final.undoneBy = none := untouched.undoneBy.trans fresh.undoneBy
  have nothing : final.staged = [] := untouched.staged.trans fresh.staged
  have unrevised : final.revised = [] := untouched.revised.trans fresh.revised
  refine ⟨answer, final.committed, ?_⟩
  rw [ends, answered, conclude_answers answer sane usable nothing unrevised]

/-- A session that sees what is committed commits nothing. -/
theorem committed_bank
    {session : Session}
    (same : session.tables = session.desk.bank.tables) :
    session.committed.bank = session.desk.bank := by
  rw [committed]
  split
  · rfl
  · rename_i own pending
    have sameTables : own = session.desk.bank.tables := by
      rw [← same, Session.tables, pending, Option.getD_some]
    rw [sameTables]

/-- A unit of work whose body looks at the database at most leaves the bank as it was. -/
theorem inUnit_bank
    (looks :
      ∀ session,
        Fresh surroundings.locked before session → Untouched session (stateOf (body session))) :
    (stateOf (body.inUnit surroundings level before)).bank = before.bank := by
  rcases inUnit_cases surroundings level body before with ⟨failure, ends⟩ | ⟨session, fresh, ends⟩
  · rw [ends]
    rfl
  have looked := looks session fresh
  rw [ends]
  cases result : body session with
  | error failure final =>
      rw [result] at looked
      have sameDesk : final.desk = before := looked.desk.trans fresh.desk
      cases concluded :
          conclude surroundings.fault (.error failure final : EStateM.Result _ _ Answer) with
      | ok answer after => exact absurd concluded rollBack_ne_ok
      | error met after =>
          change after.bank = before.bank
          rw [rollBack_error concluded, sameDesk]
  | ok answer final =>
      rw [result] at looked
      have sameDesk : final.desk = before := looked.desk.trans fresh.desk
      have sameTables : final.tables = before.bank.tables := looked.tables.trans fresh.tables
      have usable : final.undoneBy = none := looked.undoneBy.trans fresh.undoneBy
      have nothing : final.staged = [] := looked.staged.trans fresh.staged
      have unrevised : final.revised = [] := looked.revised.trans fresh.revised
      cases refused : surroundings.fault.commit with
      | true =>
          simp only [conclude, refused, if_true]
          exact congrArg Desk.bank sameDesk
      | false =>
          rw [conclude_answers answer refused usable nothing unrevised]
          change final.committed.bank = before.bank
          rw [committed_bank (by rw [sameTables, sameDesk]), sameDesk]

end Work

end Bookkeeping
