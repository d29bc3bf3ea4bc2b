import Bookkeeping.Proofs.Evolution
import Bookkeeping.Proofs.Revisions

/-!
# The steps of which queries consist

One statement for each elementary step inside of a session.  Looking at the
tables leaves the session untouched, drawing from the sources evolves it by no
writes, and an insertion evolves it by the rows that were inserted.  An insertion
that fails undoes the session, whatever it was about to insert; and with revised
entries each one fails.
-/

namespace Bookkeeping.Work

open Session

variable {Answer Other : Type} {before after : Session}

/-! ## Looking at the tables -/

theorem view_ok
    {tables : Tables}
    (viewed : view before = .ok tables after) :
    before.undoneBy = none ∧ tables = before.tables ∧
      after = { before with pending := some before.tables } ∧
      (before.locked = true → before.pending.isSome) := by
  rw [view] at viewed
  split at viewed
  · cases viewed
  · rename_i own usable pending
    cases viewed
    have same : before.tables = tables := by simp [Session.tables, pending]
    refine ⟨usable, same.symm, ?_, by simp [pending]⟩
    rw [same, ← pending]
  · rename_i usable pending
    split at viewed
    · cases viewed
    · rename_i free
      cases viewed
      have same : before.tables = before.desk.bank.tables := by
        simp [Session.tables, pending]
      exact ⟨usable, same.symm, by rw [same], fun locked => absurd locked free⟩

theorem view_error
    {failure : Failure}
    (viewed : view before = .error failure after) :
    after = before := by
  rw [view] at viewed
  split at viewed
  · cases viewed
    rfl
  · cases viewed
  · split at viewed
    · cases viewed
      rfl
    · cases viewed

/-- A look fails because of the lock or because the session was undone. -/
theorem view_error_eq
    {failure : Failure}
    (viewed : view before = .error failure after) :
    failure = .locked ∨ ∃ cause, failure = .undone cause := by
  rw [view] at viewed
  split at viewed
  · cases viewed
    exact Or.inr ⟨_, rfl⟩
  · cases viewed
  · split at viewed
    · cases viewed
      exact Or.inl rfl
    · cases viewed

/-- A session that was not undone and meets no lock answers what it sees. -/
theorem view_answers
    (usable : before.undoneBy = none)
    (free : before.locked = false) :
    view before = .ok before.tables { before with pending := some before.tables } := by
  rw [view]
  split
  · rename_i undone
    rw [usable] at undone
    cases undone
  · rename_i own _ pending
    have same : before.tables = own := by simp [Session.tables, pending]
    rw [same, ← pending]
  · rename_i _ pending
    have same : before.tables = before.desk.bank.tables := by simp [Session.tables, pending]
    simp [free, same]

/-- A session with the tables that it saw anyhow is untouched. -/
theorem untouched_of_pending
    (session : Session)
    (open? : session.locked = true → session.pending.isSome) :
    Untouched session { session with pending := some session.tables } where
  desk := rfl
  tables := rfl
  staged := rfl
  revised := rfl
  undoneBy := rfl
  locked := rfl
  barred locked := by
    rcases Option.isSome_iff_exists.mp (open? locked) with ⟨own, pending⟩
    simp [Session.tables, pending]
  held _ := rfl

theorem view_untouched : Keeps Untouched view := by
  apply Keeps.intro
  · intro before tables after viewed
    rcases view_ok viewed with ⟨-, -, rfl, open?⟩
    exact untouched_of_pending before open?
  · intro before failure after viewed
    rw [view_error viewed]
    exact .refl before

theorem policy_untouched : Keeps Untouched policy :=
  fun before => .refl before

theorem ofExcept_untouched (outcome : Except Failure Answer) :
    Keeps Untouched (ofExcept outcome) := by
  cases outcome with
  | ok answer => exact Keeps.pure answer
  | error failure => exact Keeps.throw failure

theorem orFail_untouched (failure : Failure) (answer? : Option Answer) :
    Keeps Untouched (orFail failure answer?) := by
  cases answer? with
  | some answer => exact Keeps.pure answer
  | none => exact Keeps.throw failure

theorem remember_untouched (account : Account) : Keeps Untouched (remember account) := by
  intro before
  cases found : before.shown.find? fun shown => shown.id = account.id with
  | some shown =>
      simp only [remember, found]
      exact .refl before
  | none =>
      simp only [remember, found]
      exact ⟨rfl, rfl, rfl, rfl, rfl, rfl, fun _ => rfl, id⟩

theorem refresh_untouched (account : Account) : Keeps Untouched (refresh account) :=
  fun _ => ⟨rfl, rfl, rfl, rfl, rfl, rfl, fun _ => rfl, id⟩

theorem keepGiven_untouched (id : Identifier) (fields : List (String × Value)) :
    Keeps Untouched (keepGiven id fields) := by
  intro before
  rw [keepGiven]
  split
  · exact .refl before
  · exact ⟨rfl, rfl, rfl, rfl, rfl, rfl, fun _ => rfl, fun own => own⟩

theorem seen_untouched {Row : Type} (id : Identifier) (row : Row) :
    Keeps Untouched (seen id row) :=
  fun before => .refl before

/-- Work that looks at the database at most lets the session go on. -/
theorem reading_continued
    {work : Work Answer}
    (keeps : Keeps Untouched work) :
    Keeps Continued work :=
  keeps.mono fun _ _ => Untouched.continued

/-- Work that looks at the database at most evolves the session by nothing. -/
theorem reading_evolved
    {work : Work Answer}
    (keeps : Keeps Untouched work) :
    Keeps (Evolved []) work :=
  keeps.mono fun _ _ => Untouched.evolved

theorem ofExcept_ok_iff
    {outcome : Except Failure Answer}
    {answer : Answer} :
    ofExcept outcome before = .ok answer after ↔ outcome = .ok answer ∧ before = after := by
  cases outcome with
  | ok given => simp [ofExcept]
  | error failure => simp [ofExcept]

theorem ofExcept_error_iff
    {outcome : Except Failure Answer}
    {failure : Failure} :
    ofExcept outcome before = .error failure after ↔ outcome = .error failure ∧ before = after := by
  cases outcome with
  | ok given => simp [ofExcept]
  | error met => simp [ofExcept]

theorem orFail_ok_iff
    {failure : Failure}
    {answer? : Option Answer}
    {answer : Answer} :
    orFail failure answer? before = .ok answer after ↔ answer? = some answer ∧ before = after := by
  cases answer? with
  | some given => simp [orFail]
  | none => simp [orFail]

/-- Keeping texts as they were given never fails, and shows no other accounts. -/
theorem keepGiven_answers (id : Identifier) (fields : List (String × Value)) (session : Session) :
    ∃ after, keepGiven id fields session = .ok () after ∧ after.shown = session.shown := by
  rw [keepGiven]
  split
  · exact ⟨_, rfl, rfl⟩
  · exact ⟨_, rfl, rfl⟩

/-- Remembering an account never fails. -/
theorem remember_answers (account : Account) (session : Session) :
    ∃ shown after, remember account session = .ok shown after := by
  rw [remember]
  split
  · exact ⟨_, _, rfl⟩
  · exact ⟨_, _, rfl⟩

/-! ## Drawing from the sources -/

/-- A session that differs in its sources, which have advanced, has evolved by no writes. -/
theorem evolved_of_sources
    {sources : Sources}
    (precedes : before.sources.Precedes sources)
    (bank : after.desk.bank = { before.desk.bank with sources := sources })
    (pending : after.pending = before.pending)
    (undoneBy : after.undoneBy = before.undoneBy)
    (locked : after.locked = before.locked) :
    Evolved [] before after := by
  have drawn : after.sources = sources := by rw [Session.sources, bank]
  apply Evolved.of_sameTables
  · exact
      { bank := by rw [bank, drawn]
        sources := by rwa [drawn]
        locked := locked
        undone := fun undone => by rwa [undoneBy]
        barred := fun _ none => by rwa [pending]
        held := fun own _ => by rwa [pending] }
  · rw [Session.tables, Session.tables, pending, bank]

theorem make_evolved (kind : Identifier.Kind) : Keeps (Evolved []) (make kind) := by
  intro before
  by_cases early :
      before.desk.bank.sources.clock.microseconds < Timestamp.lastSecond.microseconds
  · simp only [make, early, if_true]
    exact evolved_of_sources (.afterMaking before.sources kind) rfl rfl rfl rfl
  · simp only [make, early, if_false]
    exact evolved_of_sources (.advance before.sources kind) rfl rfl rfl rfl

theorem make_spared (kind : Identifier.Kind) : Keeps Spared (make kind) := by
  intro before
  refine ⟨make_evolved kind before, fun _ => ?_⟩
  rw [make]
  split
  · rfl
  · rfl

theorem make_ok
    {kind : Identifier.Kind}
    {id : Identifier}
    {time : Timestamp}
    (made : make kind before = .ok (id, time) after) :
    id = before.sources.upcoming kind ∧ time = before.sources.clock ∧
      after.sources = before.sources.afterMaking kind ∧ after.tables = before.tables ∧
      after.staged = before.staged ∧ after.undoneBy = before.undoneBy ∧
      after.shown = before.shown := by
  simp only [make] at made
  split at made
  · cases made
    exact ⟨rfl, rfl, rfl, rfl, rfl, rfl, rfl⟩
  · cases made

theorem make_error_eq
    {kind : Identifier.Kind}
    {failure : Failure}
    (made : make kind before = .error failure after) :
    failure = .calendarEnd := by
  rw [make] at made
  split at made
  · cases made
  · cases made
    rfl

theorem drawGroup_evolved : Keeps (Evolved []) drawGroup :=
  fun before => evolved_of_sources (.advance before.sources .group) rfl rfl rfl rfl

theorem drawGroup_ok
    {group : Identifier}
    (drawn : drawGroup before = .ok group after) :
    group = before.sources.upcoming .group ∧
      after.sources = before.sources.advance .group ∧ after.staged = before.staged := by
  cases drawn
  exact ⟨rfl, rfl, rfl⟩

/-- What is put on record changes neither the tables nor the sources. -/
theorem announce_evolved (announcement : Announcement) :
    Keeps (Evolved []) (announce announcement) :=
  fun before => evolved_of_sources (.refl before.sources) rfl rfl rfl rfl

/-! ## Inserting rows -/

section Flush

variable
  {rows : List UserDraft → List Revision → Tables → Except Failure (Answer × Tables)}

theorem flush_ok
    {answer : Answer}
    (flushed : flush rows before = .ok answer after) :
    before.undoneBy = none ∧ (before.locked = true → before.pending.isSome) ∧
      ∃ tables,
        rows before.staged before.revised before.tables = .ok (answer, tables) ∧
          after = { before with pending := some tables, staged := [], revised := [] } := by
  rw [flush] at flushed
  cases viewed : view before with
  | error failure session =>
      rw [viewed] at flushed
      cases flushed
  | ok seen session =>
      rcases view_ok viewed with ⟨usable, rfl, rfl, open?⟩
      simp only [viewed] at flushed
      split at flushed
      · rename_i given tables inserted
        cases flushed
        exact ⟨usable, open?, tables, inserted, rfl⟩
      · cases flushed

/-- An insertion that fails undoes the session. -/
theorem flush_error
    {failure : Failure}
    (flushed : flush rows before = .error failure after) :
    after = before.undone failure := by
  rw [flush] at flushed
  cases viewed : view before with
  | error met session =>
      rw [viewed] at flushed
      cases flushed
      rw [view_error viewed]
  | ok seen session =>
      rcases view_ok viewed with ⟨usable, rfl, rfl, open?⟩
      simp only [viewed] at flushed
      split at flushed
      · cases flushed
      · cases flushed
        simp [Session.undone, usable]

theorem undone_isSome (session : Session) (failure : Failure) :
    (session.undone failure).undoneBy.isSome := by
  rw [Session.undone]
  split
  · simp [*]
  · rfl

theorem undone_continued (session : Session) (failure : Failure) :
    Continued session (session.undone failure) := by
  rw [Session.undone]
  split
  · exact .refl session
  · exact ⟨rfl, .refl _, rfl, fun _ => rfl, fun _ _ => rfl, fun _ usable => by cases usable⟩

theorem flush_error_undone
    {failure : Failure}
    (flushed : flush rows before = .error failure after) :
    after.undoneBy.isSome := by
  rw [flush_error flushed]
  exact undone_isSome before failure

theorem flush_error_spared
    {failure : Failure}
    (flushed : flush rows before = .error failure after) :
    Spared before after := by
  rw [flush_error flushed]
  exact .of_undone (undone_continued before failure) (undone_isSome before failure)

end Flush

/-- A session gets tables of its own only where no lock bars it. -/
theorem continued_of_pending
    (open? : before.locked = true → before.pending.isSome)
    (tables : Tables)
    (staged : List UserDraft)
    (revised : List Revision) :
    Continued before
      { before with pending := some tables, staged := staged, revised := revised } where
  bank := rfl
  sources := .refl _
  locked := rfl
  undone := id
  barred locked none := by
    have own := open? locked
    simp [none] at own
  held _ _ := rfl

/-- A session whose tables were changed by writes has evolved by them. -/
theorem evolved_of_pending
    {writes : List Write}
    {tables : Tables}
    (staged : List UserDraft)
    (revised : List Revision)
    (open? : before.locked = true → before.pending.isSome)
    (written : Written writes before.tables tables)
    (drawn : ∀ write ∈ writes, write.Drawn before.sources) :
    Evolved writes before
      { before with pending := some tables, staged := staged, revised := revised } where
  toContinued := continued_of_pending open? tables staged revised
  applied _ := written.eq_foldl
  written _ _ := ⟨written, drawn⟩

section Insert

variable {rows : Tables → Except Failure (Answer × Tables)} {answer : Answer}

/-- What is inserted after the staged users comes after them in the tables. -/
theorem insert_ok
    (inserted : insert rows before = .ok answer after) :
    before.undoneBy = none ∧ before.revised = [] ∧
      (before.locked = true → before.pending.isSome) ∧
      ∃ middle tables : Tables,
        Written (before.joining.map .user) before.tables middle ∧
          rows middle = .ok (answer, tables) ∧
          after = { before with pending := some tables, staged := [], revised := [] } := by
  rcases flush_ok inserted with ⟨usable, open?, last, all, rfl⟩
  rcases attempt_ok_iff.mp all with ⟨updated, updating, rest⟩
  rcases attempt_ok_iff.mp rest with ⟨middle, joined, rest⟩
  rcases attempt_ok_iff.mp rest with ⟨⟨given, tables⟩, accepted, rest⟩
  rcases attempt_ok_iff.mp rest with ⟨deleted, deleting, answered⟩
  rcases Tables.updateEntries_ok updating with ⟨noUpdate, rfl⟩
  rcases Tables.deleteEntries_ok deleting with ⟨noDeletion, rfl⟩
  cases answered
  exact
    ⟨usable, Revision.eq_nil noUpdate noDeletion, open?, middle, _,
      Tables.insertUsers_ok joined, accepted, rfl⟩

/-- What is inserted ahead of the staged users comes before them in the tables. -/
theorem insertAhead_ok
    (inserted : insertAhead rows before = .ok answer after) :
    before.undoneBy = none ∧ before.revised = [] ∧
      (before.locked = true → before.pending.isSome) ∧
      ∃ middle tables : Tables,
        rows before.tables = .ok (answer, middle) ∧
          Written (before.joining.map .user) middle tables ∧
          after = { before with pending := some tables, staged := [], revised := [] } := by
  rcases flush_ok inserted with ⟨usable, open?, last, all, rfl⟩
  rcases attempt_ok_iff.mp all with ⟨updated, updating, rest⟩
  rcases attempt_ok_iff.mp rest with ⟨⟨given, middle⟩, accepted, rest⟩
  rcases attempt_ok_iff.mp rest with ⟨tables, joined, rest⟩
  rcases attempt_ok_iff.mp rest with ⟨deleted, deleting, answered⟩
  rcases Tables.updateEntries_ok updating with ⟨noUpdate, rfl⟩
  rcases Tables.deleteEntries_ok deleting with ⟨noDeletion, rfl⟩
  cases answered
  exact
    ⟨usable, Revision.eq_nil noUpdate noDeletion, open?, middle, _, accepted,
      Tables.insertUsers_ok joined, rfl⟩

/-- Without revised entries it is the same whether rows come ahead of the updates or behind. -/
theorem insertBetween_eq (unrevised : before.revised = []) :
    insertBetween rows before = insert rows before := by
  rw [insertBetween, insert, flush, flush]
  cases viewed : view before with
  | error failure session => rfl
  | ok seen session =>
      rcases view_ok viewed with ⟨-, -, rfl, -⟩
      simp only [unrevised, Revision.updates, List.filterMap_nil, Tables.updateEntries_nil]
      rfl

theorem insertBetween_ok
    (inserted : insertBetween rows before = .ok answer after) :
    insert rows before = .ok answer after := by
  rcases flush_ok inserted with ⟨-, -, last, all, -⟩
  rcases attempt_ok_iff.mp all with ⟨middle, -, rest⟩
  rcases attempt_ok_iff.mp rest with ⟨⟨given, tables⟩, -, rest⟩
  rcases attempt_ok_iff.mp rest with ⟨updated, updating, rest⟩
  rcases attempt_ok_iff.mp rest with ⟨deleted, deleting, -⟩
  have unrevised : before.revised = [] :=
    Revision.eq_nil (Tables.updateEntries_ok updating).1 (Tables.deleteEntries_ok deleting).1
  rwa [insertBetween_eq unrevised] at inserted

end Insert

/-! ## What waits to be written -/

/-- Staging a user evolves the session by no writes. -/
theorem stage_evolved (draft : UserDraft) : Keeps (Evolved []) (stage draft) := by
  intro before
  exact evolved_of_sources (.refl before.sources) rfl rfl rfl rfl

/-- Revising an entry is not yet writing. -/
theorem revise_spared (entry : Identifier) (amendment : Amendment) :
    Keeps Spared (revise entry amendment) := by
  intro before
  exact ⟨evolved_of_sources (.refl before.sources) rfl rfl rfl rfl, fun _ => rfl⟩

/-- What waits can be written if it is no revision, and then nothing waits any more. -/
theorem flushWaiting_ok
    (written : flushWaiting before = .ok () after) :
    after.undoneBy = before.undoneBy ∧ before.revised = [] ∧
      (before.staged = [] → after = before) ∧ after.staged = [] ∧ after.revised = [] ∧
      Evolved (before.joining.map .user) before after := by
  rw [flushWaiting] at written
  split at written
  · rename_i clean
    cases written
    rw [isClean, Bool.and_eq_true, List.isEmpty_iff, List.isEmpty_iff] at clean
    rw [joining_eq_nil clean.1]
    exact ⟨rfl, clean.2, fun _ => rfl, clean.1, clean.2, .refl before⟩
  · rename_i waits
    rcases insert_ok written with ⟨usable, unrevised, open?, middle, tables, joined, same, rfl⟩
    cases same
    refine ⟨rfl, unrevised, ?_, rfl, rfl, evolved_of_pending _ _ open? joined ?_⟩
    · intro nothingStaged
      rw [isClean, nothingStaged, unrevised] at waits
      exact absurd rfl waits
    · intro write member
      rcases List.mem_map.mp member with ⟨user, -, rfl⟩
      trivial

theorem flushWaiting_error
    {failure : Failure}
    (refused : flushWaiting before = .error failure after) :
    Spared before after ∧ after.undoneBy.isSome := by
  rw [flushWaiting] at refused
  split at refused
  · cases refused
  · exact ⟨flush_error_spared refused, flush_error_undone refused⟩

/-- Where nothing waits, nothing is written. -/
theorem flushWaiting_answers
    (nothingStaged : before.staged = [])
    (unrevised : before.revised = []) :
    flushWaiting before = .ok () before := by
  rw [flushWaiting, isClean, nothingStaged, unrevised]
  rfl

end Bookkeeping.Work
