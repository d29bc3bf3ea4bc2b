import Bookkeeping.Proofs.Outcomes
import Bookkeeping.Proofs.Prospect

/-!
# Addresses that are taken

Whoever registers an address is told that it is taken in two ways.  A look at the tables finds
those users who were inserted before.  Those who are only staged are inserted along with the new
user, and if they have the address, the database refuses the new one.

The second way does not tell which of the users was refused.  As long as the staged users violate
no constraint among themselves and with the tables, it can only be the new one, and the address
is told as taken exactly if somebody has it.  But when one of them is refused, whatever the
reason, it is the new address that is told as taken, even if nobody has it.
-/

namespace Bookkeeping

open Session Work

/-! ## Staged users who can be inserted -/

/-- The staged users violate no constraint, neither with the tables nor among themselves. -/
structure Tables.Admits (tables : Tables) (drafts : List UserDraft) : Prop where
  kept : ∀ draft ∈ drafts, ∃ email, draft.email.kept? = some email
  distinct : (drafts.map fun draft => draft.email.kept?).Nodup
  free : ∀ draft ∈ drafts, ∀ user ∈ tables.users, draft.email.kept? ≠ some user.email

namespace Tables

variable {tables : Tables}

theorem userWithEmail?_isSome_iff (email : String) :
    (tables.userWithEmail? email).isSome = true ↔ ∃ user ∈ tables.users, user.email = email := by
  simp [userWithEmail?, List.find?_isSome]

theorem insertUser_of_free
    {draft : UserDraft}
    {email : String}
    (kept : draft.email.kept? = some email)
    (free : ¬ ∃ user ∈ tables.users, user.email = email) :
    tables.insertUser draft =
      .ok (⟨draft.id, email, draft.createdAt⟩,
        tables.joined [⟨draft.id, email, draft.createdAt⟩]) := by
  rw [← userWithEmail?_isSome_iff] at free
  rw [insertUser, Value.storedText_of_kept? kept]
  simp only [bind, Except.bind, free, Bool.false_eq_true, if_false]
  rfl

theorem insertUser_of_taken
    {draft : UserDraft}
    {email : String}
    (kept : draft.email.kept? = some email)
    (taken : ∃ user ∈ tables.users, user.email = email) :
    tables.insertUser draft = .error (.violated .distinctEmail) := by
  rw [← userWithEmail?_isSome_iff] at taken
  rw [insertUser, Value.storedText_of_kept? kept]
  simp only [bind, Except.bind, taken, if_true]

/-- Refused users are not told as taken addresses by the tables themselves. -/
theorem insertUsers_ne_taken
    {drafts : List UserDraft}
    {email : Value} :
    tables.insertUsers drafts ≠ .error (.userAlreadyExists email) := by
  induction drafts generalizing tables with
  | nil => simp [insertUsers]
  | cons draft rest hypothesis =>
      intro refused
      rw [insertUsers] at refused
      split at refused
      · exact hypothesis refused
      · rename_i failure first
        cases refused
        rw [insertUser] at first
        cases stored : storedText 2 draft.email with
        | error failure =>
            rw [stored] at first
            cases first
            exact (storedText_error stored).2 email rfl
        | ok email? =>
            rw [stored] at first
            cases email? with
            | none => cases first
            | some text =>
                simp only [bind, Except.bind] at first
                split at first
                · cases first
                · cases first

theorem admits_nil : tables.Admits [] where
  kept := by simp
  distinct := List.nodup_nil
  free := by simp

/-- The first of several users can be inserted, and the others after it. -/
theorem admits_cons_iff
    {draft : UserDraft}
    {rest : List UserDraft} :
    tables.Admits (draft :: rest) ↔
      ∃ email,
        draft.email.kept? = some email ∧ (¬ ∃ user ∈ tables.users, user.email = email) ∧
          (tables.joined [⟨draft.id, email, draft.createdAt⟩]).Admits rest := by
  constructor
  · rintro ⟨kept, distinct, free⟩
    rcases kept draft List.mem_cons_self with ⟨email, keptFirst⟩
    rw [List.map_cons, List.nodup_cons, keptFirst] at distinct
    refine ⟨email, keptFirst, ?_, ?_, distinct.2, ?_⟩
    · rintro ⟨user, member, rfl⟩
      exact free draft List.mem_cons_self user member keptFirst
    · exact fun other member => kept other (List.mem_cons_of_mem _ member)
    · intro other member user present same
      rcases List.mem_append.mp present with old | new
      · exact free other (List.mem_cons_of_mem _ member) user old same
      · rw [List.mem_singleton.mp new] at same
        exact distinct.1 (List.mem_map.mpr ⟨other, member, same⟩)
  · rintro ⟨email, keptFirst, freeFirst, kept, distinct, free⟩
    refine ⟨?_, ?_, ?_⟩
    · exact List.forall_mem_cons.mpr ⟨⟨email, keptFirst⟩, kept⟩
    · rw [List.map_cons, List.nodup_cons, keptFirst]
      refine ⟨?_, distinct⟩
      intro again
      rcases List.mem_map.mp again with ⟨other, member, same⟩
      exact free other member _ (List.mem_append_right _ (List.mem_singleton.mpr rfl)) same
    · refine List.forall_mem_cons.mpr ⟨?_, ?_⟩
      · intro user member same
        exact freeFirst ⟨user, member, Option.some.inj (same.symm.trans keptFirst)⟩
      · exact fun other member user old => free other member user (List.mem_append_left _ old)

/-- Users can be inserted exactly if they violate no constraint, and then they come last. -/
theorem insertUsers_iff
    {drafts : List UserDraft}
    {after : Tables} :
    tables.insertUsers drafts = .ok after ↔
      tables.Admits drafts ∧ after = tables.joined (drafts.filterMap UserDraft.row?) := by
  induction drafts generalizing tables with
  | nil =>
      have same : tables.joined [] = tables := by simp [joined]
      constructor
      · rintro ⟨⟩
        exact ⟨admits_nil, same.symm⟩
      · rintro ⟨-, rfl⟩
        exact congrArg Except.ok same.symm
  | cons draft rest hypothesis =>
      rw [admits_cons_iff]
      constructor
      · intro inserted
        rw [insertUsers] at inserted
        cases first : tables.insertUser draft with
        | error failure =>
            rw [first] at inserted
            cases inserted
        | ok result =>
            rcases result with ⟨user, middle⟩
            rw [first] at inserted
            rcases insertUser_ok first with ⟨sameId, sameTime, kept, fits, rfl⟩
            have row := UserDraft.row?_eq_some sameId sameTime kept
            rcases hypothesis.mp inserted with ⟨admits, rfl⟩
            refine ⟨⟨user.email, Value.kept?_eq kept, ?_, ?_⟩, ?_⟩
            · have free : tables.userWithEmail? user.email = none := fits
              rw [← userWithEmail?_isSome_iff, free]
              exact Bool.false_ne_true
            · rw [← sameId, ← sameTime]
              exact admits
            · rw [List.filterMap_cons_some row]
              simp [joined, Write.apply]
      · rintro ⟨⟨email, kept, free, admits⟩, rfl⟩
        rw [insertUsers, insertUser_of_free kept free]
        simp only
        rw [hypothesis]
        refine ⟨admits, ?_⟩
        simp [UserDraft.row?, kept, joined]

end Tables

/-! ## Who has an address -/

namespace Session

variable {session : Session} {email : String}

/-- Somebody has an address: in the tables that the session sees, or among those it has staged. -/
def Holds (session : Session) (email : String) : Prop :=
  (∃ user ∈ session.tables.users, user.email = email) ∨
    ∃ draft ∈ session.staged, draft.email.kept? = some email

/-- Who has an address is somebody in the prospect of the session. -/
theorem holds_iff : session.Holds email ↔ ∃ user ∈ session.prospect.users, user.email = email := by
  simp only [Holds, prospect, Tables.joined, joining, List.mem_append, or_and_right, exists_or,
    List.mem_filterMap, UserDraft.row?, Option.map_eq_some_iff]
  constructor
  · rintro (inserted | ⟨draft, member, kept⟩)
    · exact Or.inl inserted
    · exact Or.inr ⟨⟨draft.id, email, draft.createdAt⟩, ⟨draft, member, email, kept, rfl⟩, rfl⟩
  · rintro (inserted | ⟨_, ⟨draft, member, text, kept, rfl⟩, rfl⟩)
    · exact Or.inl inserted
    · exact Or.inr ⟨draft, member, kept⟩

theorem not_holds_of_all (others : session.prospect.users.all (·.email != email) = true) :
    ¬ session.Holds email := by
  rw [holds_iff]
  rintro ⟨user, member, same⟩
  simpa [same] using List.all_eq_true.mp others user member

/-- A session can look at the tables: it was not undone, and nobody else holds the lock. -/
structure IsOpen (session : Session) : Prop where
  usable : session.undoneBy = none
  free : session.locked = true → session.pending.isSome

theorem IsOpen.view_answers (isOpen : session.IsOpen) :
    view session = .ok session.tables { session with pending := some session.tables } := by
  rcases session with
    ⟨desk, locked, isolation, pending, staged, revised, shown, given, written, undoneBy⟩
  rcases isOpen with ⟨rfl, free⟩
  cases pending with
  | some tables => rfl
  | none =>
      cases locked with
      | false => rfl
      | true => cases free rfl

/-- The user that is inserted behind those who are staged, among the revisions of entries. -/
def inserted (session : Session) (draft : UserDraft) : Except Failure (User × Tables) := do
  let tables ← session.tables.updateEntries (Revision.updates session.revised)
  let (user, tables) ← (← tables.insertUsers session.staged).insertUser draft
  return (user, ← tables.deleteEntries (Revision.deletions session.revised))

/-- What registering an address comes to, in a session that can look at the tables. -/
def registration (session : Session) (email : String) : Except Failure User :=
  if (session.tables.userWithEmail? email).isSome then .error (.userAlreadyExists (.text email))
  else if session.sources.clock.microseconds < Timestamp.lastSecond.microseconds then
    ((session.inserted
          ⟨session.sources.upcoming .user, .text email, session.sources.clock⟩).map
        Prod.fst).mapError
      (asTaken (.text email))
  else .error .calendarEnd

/-- An object can be made as long as the calendar goes on; nothing else of the session changes. -/
theorem make_user_answers
    (session : Session)
    (early : session.sources.clock.microseconds < Timestamp.lastSecond.microseconds) :
    ∃ made,
      make .user session = .ok (session.sources.upcoming .user, session.sources.clock) made ∧
        made.pending = session.pending ∧ made.staged = session.staged ∧
        made.revised = session.revised ∧ made.undoneBy = session.undoneBy := by
  have soon : session.desk.bank.sources.clock.microseconds < Timestamp.lastSecond.microseconds :=
    early
  simp only [make, soon, if_true]
  exact ⟨_, rfl, rfl, rfl, rfl, rfl⟩

theorem make_user_late
    (session : Session)
    (late : ¬ session.sources.clock.microseconds < Timestamp.lastSecond.microseconds) :
    ∃ made, make .user session = .error .calendarEnd made := by
  have ended :
      ¬ session.desk.bank.sources.clock.microseconds < Timestamp.lastSecond.microseconds := late
  simp only [make, ended, if_false]
  exact ⟨_, rfl⟩

theorem answerOf_rewording
    {Answer : Type}
    (words : Failure → Failure)
    (work : Work Answer) :
    answerOf (rewording words work session) = (answerOf (work session)).mapError words := by
  rw [rewording]
  cases work session with
  | ok answer after => rfl
  | error failure after => rfl

/-- What is kept of an answer afterwards does not change it. -/
theorem answerOf_kept
    {Answer : Type}
    (work : Work Answer)
    (id : Identifier)
    (fields : List (String × Value)) :
    answerOf
        ((do
          let answer ← work
          keepGiven id fields
          return answer : Work Answer) session) =
      answerOf (work session) := by
  cases answered : work session with
  | error failure after => rw [sequence_error_iff.mpr (Or.inl answered)]
  | ok answer after =>
      rcases keepGiven_answers id fields after with ⟨last, kept, -⟩
      rw [sequence_after answered, sequence_after kept]
      rfl

/-- Inserting users is all that an insertion does in a session that has its own tables. -/
theorem answerOf_insert
    {tables : Tables}
    (usable : session.undoneBy = none)
    (own : session.pending = some tables)
    (draft : UserDraft) :
    answerOf (Work.insert (fun tables => tables.insertUser draft) session) =
      (session.inserted draft).map Prod.fst := by
  have viewed : view session = .ok tables session := by
    rw [view, usable, own]
  have sameTables : session.tables = tables := by
    rw [Session.tables, own]
    rfl
  rw [inserted, sameTables, Work.insert, flush, viewed]
  simp only
  split
  · rename_i inserting
    rw [inserting]
    rfl
  · rename_i refusing
    rw [refusing]
    rfl

theorem createUser_registers
    (isOpen : session.IsOpen)
    (kept : storedText 1 (.text email) = .ok (some email)) :
    answerOf (createUser (.text email) session) = session.registration email := by
  let viewing := { session with pending := some session.tables }
  have asked :
      isTaken (.text email) session =
        .ok (session.tables.userWithEmail? email).isSome viewing := by
    rw [isTaken, sequence_after isOpen.view_answers, kept]
    rfl
  rw [createUser_eq, sequence_after asked, registration]
  cases taken : (session.tables.userWithEmail? email).isSome with
  | true => rfl
  | false =>
      simp only [Bool.false_eq_true, if_false]
      split
      · rename_i early
        rcases make_user_answers viewing early with ⟨made, making, own, staged, revised, usable⟩
        have inserting :=
          answerOf_insert (usable.trans isOpen.usable) own
            ⟨session.sources.upcoming .user, .text email, session.sources.clock⟩
        have sameTables : made.tables = session.tables := by
          rw [Session.tables, own]
          rfl
        rw [inserted, staged, revised, sameTables] at inserting
        rw [sequence_after making]
        refine (answerOf_kept _ _ _).trans ?_
        rw [answerOf_rewording]
        exact congrArg (Except.mapError (asTaken (.text email))) inserting
      · rename_i late
        rcases make_user_late viewing late with ⟨made, ended⟩
        rw [sequence_error_iff.mpr (Or.inl ended)]
        rfl

/-- With an address in the tables nobody asks for those who are staged. -/
theorem registration_of_inserted
    (inserted : ∃ user ∈ session.tables.users, user.email = email) :
    session.registration email = .error (.userAlreadyExists (.text email)) := by
  rw [registration, (Tables.userWithEmail?_isSome_iff email).mpr inserted, if_pos rfl]

section Inserting

variable (draft : UserDraft)

/-- An entry that is to be described anew is refused before anybody is inserted. -/
theorem inserted_of_updates (waiting : Revision.updates session.revised ≠ []) :
    ∃ entry, session.inserted draft = .error (.immutableEntry entry .update) := by
  rcases Tables.updateEntries_refused waiting session.tables with ⟨entry, refused⟩
  exact ⟨entry, attempt_error_iff.mpr (Or.inl refused)⟩

variable (noUpdate : Revision.updates session.revised = [])

include noUpdate

theorem inserted_of_noUpdate :
    session.inserted draft = do
      let (user, tables) ← (← session.tables.insertUsers session.staged).insertUser draft
      return (user, ← tables.deleteEntries (Revision.deletions session.revised)) := by
  rw [inserted, noUpdate]
  rfl

theorem inserted_of_refused
    {failure : Failure}
    (refused : session.tables.insertUsers session.staged = .error failure) :
    session.inserted draft = .error failure := by
  rw [inserted_of_noUpdate draft noUpdate, refused]
  rfl

/-- Where all who are staged can be inserted, the new user is inserted into the prospect. -/
theorem inserted_of_admits (admits : session.tables.Admits session.staged) :
    session.inserted draft = do
      let (user, tables) ← session.prospect.insertUser draft
      return (user, ← tables.deleteEntries (Revision.deletions session.revised)) := by
  rw [inserted_of_noUpdate draft noUpdate, Tables.insertUsers_iff.mpr ⟨admits, rfl⟩]
  rfl

theorem inserted_of_holds
    (admits : session.tables.Admits session.staged)
    (kept : draft.email.kept? = some email)
    (holds : session.Holds email) :
    session.inserted draft = .error (.violated .distinctEmail) := by
  rw [inserted_of_admits draft noUpdate admits,
    Tables.insertUser_of_taken kept (holds_iff.mp holds)]
  rfl

/-- Nobody has the address, so the user is inserted, unless an entry is to be deleted besides. -/
theorem inserted_of_free
    (admits : session.tables.Admits session.staged)
    (kept : draft.email.kept? = some email)
    (free : ¬ session.Holds email) :
    (∃ tables, session.inserted draft = .ok (⟨draft.id, email, draft.createdAt⟩, tables)) ∨
      session.revised ≠ [] ∧
        ∃ entry, session.inserted draft = .error (.immutableEntry entry .delete) := by
  rw [inserted_of_admits draft noUpdate admits,
    Tables.insertUser_of_free kept fun present => free (holds_iff.mpr present)]
  by_cases noDeletion : Revision.deletions session.revised = []
  · refine Or.inl ⟨session.prospect.joined [⟨draft.id, email, draft.createdAt⟩], ?_⟩
    simp only [bind, Except.bind, noDeletion, Tables.deleteEntries_nil]
    rfl
  · refine Or.inr ⟨?_, ?_⟩
    · intro unrevised
      rw [unrevised] at noDeletion
      exact noDeletion rfl
    · rcases Tables.deleteEntries_refused noDeletion
          (session.prospect.joined [⟨draft.id, email, draft.createdAt⟩]) with
        ⟨entry, refused⟩
      refine ⟨entry, ?_⟩
      simp only [bind, Except.bind, refused]

end Inserting

theorem asTaken_eq_taken
    {failure : Failure}
    {email : Value}
    (told : asTaken email failure = .userAlreadyExists email) :
    (∃ constraint, failure = .violated constraint) ∨ failure = .userAlreadyExists email := by
  cases failure with
  | violated constraint => exact Or.inl ⟨constraint, rfl⟩
  | _ => exact Or.inr told

section Telling

variable
  (kept : storedText 1 (.text email) = .ok (some email))
  (early : session.sources.clock.microseconds < Timestamp.lastSecond.microseconds)

include early

/-- A constraint that is violated is told as a taken address, whoever violates it. -/
theorem registration_of_violated
    {constraint : Constraint}
    (violated :
      session.inserted ⟨session.sources.upcoming .user, .text email, session.sources.clock⟩ =
        .error (.violated constraint)) :
    session.registration email = .error (.userAlreadyExists (.text email)) := by
  rw [registration, if_pos early, violated]
  split
  · rfl
  · rfl

include kept

/-- Somebody has the address, so it is told as taken. -/
theorem registration_of_holds
    (noUpdate : Revision.updates session.revised = [])
    (admits : session.tables.Admits session.staged)
    (holds : session.Holds email) :
    session.registration email = .error (.userAlreadyExists (.text email)) :=
  registration_of_violated early
    (inserted_of_holds _ noUpdate admits (Value.kept?_eq kept) holds)

/-- Nobody has the address, so it is registered. -/
theorem registration_of_free
    (unrevised : session.revised = [])
    (admits : session.tables.Admits session.staged)
    (free : ¬ session.Holds email) :
    session.registration email =
      .ok ⟨session.sources.upcoming .user, email, session.sources.clock⟩ := by
  have absent : (session.tables.userWithEmail? email).isSome = false := by
    rw [Bool.eq_false_iff, ne_eq, Tables.userWithEmail?_isSome_iff]
    exact fun present => free (Or.inl present)
  have noUpdate : Revision.updates session.revised = [] := by
    rw [unrevised]
    rfl
  rw [registration, absent, if_neg Bool.false_ne_true, if_pos early]
  rcases inserted_of_free ⟨session.sources.upcoming .user, .text email, session.sources.clock⟩
      noUpdate admits (Value.kept?_eq kept) free with
    ⟨tables, answered⟩ | ⟨revised, -⟩
  · rw [answered]
    rfl
  · exact absurd unrevised revised

end Telling

/--
An address is told as taken if somebody who was inserted has it, and otherwise only if no entry
is to be described anew, and a staged user violates a constraint or the new one does.
-/
theorem told_cases
    (kept : storedText 1 (.text email) = .ok (some email))
    (told : session.registration email = .error (.userAlreadyExists (.text email))) :
    (∃ user ∈ session.tables.users, user.email = email) ∨
      Revision.updates session.revised = [] ∧
        ((∃ constraint,
            session.tables.insertUsers session.staged = .error (.violated constraint)) ∨
          session.tables.Admits session.staged ∧ session.Holds email) := by
  rw [registration] at told
  split at told
  · rename_i taken
    exact Or.inl ((Tables.userWithEmail?_isSome_iff email).mp taken)
  split at told
  · right
    by_cases noUpdate : Revision.updates session.revised = []
    · refine ⟨noUpdate, ?_⟩
      cases staged : session.tables.insertUsers session.staged with
      | error failure =>
          rw [inserted_of_refused _ noUpdate staged] at told
          rcases asTaken_eq_taken (Except.error.inj told) with ⟨constraint, rfl⟩ | rfl
          · exact Or.inl ⟨constraint, rfl⟩
          · exact (Tables.insertUsers_ne_taken staged).elim
      | ok after =>
          have admits := (Tables.insertUsers_iff.mp staged).1
          refine Or.inr ⟨admits, ?_⟩
          by_contra free
          rcases inserted_of_free
              ⟨session.sources.upcoming .user, .text email, session.sources.clock⟩
              noUpdate admits (Value.kept?_eq kept) free with
            ⟨tables, answered⟩ | ⟨-, entry, refused⟩
          · rw [answered] at told
            cases told
          · rw [refused] at told
            cases told
    · rcases inserted_of_updates
          ⟨session.sources.upcoming .user, .text email, session.sources.clock⟩ noUpdate with
        ⟨entry, refused⟩
      rw [refused] at told
      cases told
  · cases told

end Session

/-! ## When an address is told as taken -/

namespace Work

variable {session : Session} {email : String}

/-- The look for an address fails as a registration of it. -/
theorem createUser_unasked
    {failure : Failure}
    {after : Session}
    (unasked : isTaken (.text email) session = .error failure after) :
    answerOf (createUser (.text email) session) = .error failure := by
  rw [createUser_eq, sequence_error_iff.mpr (Or.inl unasked)]
  rfl

/-- An address is told as taken only after a look at the tables, and only if it can be kept. -/
theorem isOpen_of_taken
    (told :
      answerOf (createUser (.text email) session) = .error (.userAlreadyExists (.text email))) :
    session.IsOpen ∧ storedText 1 (.text email) = .ok (some email) := by
  cases asked : isTaken (.text email) session with
  | error failure after =>
      rw [createUser_unasked asked] at told
      cases told
      exact ((isTaken_error asked).2 _ rfl).elim
  | ok taken after =>
      rcases sequence_ok_iff.mp asked with ⟨tables, first, viewed, rest⟩
      rcases sequence_ok_iff.mp rest with ⟨text?, second, stored, -⟩
      rcases view_ok viewed with ⟨usable, -, -, free⟩
      refine ⟨⟨usable, free⟩, ?_⟩
      have kept := (ofExcept_ok_iff.mp stored).1
      rw [storedText, storedString] at kept ⊢
      split at kept
      · rfl
      · cases kept

/--
In every session that can look at the tables, and for every address that can be kept: if all
users whom it has staged can be inserted, the address is told as taken exactly if somebody has
it, inserted or staged, and otherwise it is registered.  If a staged user violates a constraint,
the address is told as taken in any case.  If one is refused for another reason, it is told as
taken exactly if somebody with it was inserted, and so it is where an entry is to be described
anew, which is refused before.  Nowhere else it is told as taken.
-/
theorem createUser_tells_taken (session : Session) (email : String) :
    let told :=
      answerOf (createUser (.text email) session) = .error (.userAlreadyExists (.text email))
    (told →
        session.IsOpen ∧ storedText 1 (.text email) = .ok (some email) ∧
          (session.Holds email ∨
            ∃ constraint,
              session.tables.insertUsers session.staged = .error (.violated constraint))) ∧
      (session.IsOpen → storedText 1 (.text email) = .ok (some email) →
        session.sources.clock.microseconds < Timestamp.lastSecond.microseconds →
          (Revision.updates session.revised = [] →
            (session.tables.Admits session.staged →
                (told ↔ session.Holds email) ∧
                  (¬ session.Holds email → session.revised = [] →
                    answerOf (createUser (.text email) session) =
                      .ok ⟨session.sources.upcoming .user, email, session.sources.clock⟩)) ∧
              (∀ constraint,
                session.tables.insertUsers session.staged = .error (.violated constraint) →
                  told) ∧
              ∀ failure,
                session.tables.insertUsers session.staged = .error failure →
                  (∀ constraint, failure ≠ .violated constraint) →
                    (told ↔ ∃ user ∈ session.tables.users, user.email = email)) ∧
            (Revision.updates session.revised ≠ [] →
              (told ↔ ∃ user ∈ session.tables.users, user.email = email))) := by
  intro told
  constructor
  · intro isTold
    rcases isOpen_of_taken isTold with ⟨isOpen, kept⟩
    refine ⟨isOpen, kept, ?_⟩
    rcases told_cases kept ((createUser_registers isOpen kept).symm.trans isTold) with
      inserted | ⟨-, violated | ⟨-, holds⟩⟩
    · exact Or.inl (Or.inl inserted)
    · exact Or.inr violated
    · exact Or.inl holds
  · intro isOpen kept early
    have same := createUser_registers isOpen kept
    refine ⟨fun noUpdate => ⟨fun admits => ⟨⟨?_, ?_⟩, ?_⟩, ?_, ?_⟩, ?_⟩
    · intro isTold
      rcases told_cases kept (same.symm.trans isTold) with
        inserted | ⟨-, ⟨constraint, violated⟩ | ⟨-, holds⟩⟩
      · exact Or.inl inserted
      · cases violated.symm.trans (Tables.insertUsers_iff.mpr ⟨admits, rfl⟩)
      · exact holds
    · intro holds
      exact same.trans (registration_of_holds kept early noUpdate admits holds)
    · intro free unrevised
      exact same.trans (registration_of_free kept early unrevised admits free)
    · intro constraint violated
      exact same.trans (registration_of_violated early (inserted_of_refused _ noUpdate violated))
    · intro failure refused other
      refine ⟨fun isTold => ?_, fun inserted => same.trans (registration_of_inserted inserted)⟩
      rcases told_cases kept (same.symm.trans isTold) with
        inserted | ⟨-, ⟨constraint, violated⟩ | ⟨admits, -⟩⟩
      · exact inserted
      · exact absurd (Except.error.inj (refused.symm.trans violated)) (other constraint)
      · cases refused.symm.trans (Tables.insertUsers_iff.mpr ⟨admits, rfl⟩)
    · intro waiting
      refine ⟨fun isTold => ?_, fun inserted => same.trans (registration_of_inserted inserted)⟩
      rcases told_cases kept (same.symm.trans isTold) with inserted | ⟨noUpdate, -⟩
      · exact inserted
      · exact absurd noUpdate waiting

end Work

namespace Sample

/-- A unit of work at a desk that has staged Ada. -/
def staging (desk : Desk) : Session :=
  stateOf (addUser (.text "ada@example.com") (idle .calm .serializable desk))

/-- The rule at work: Ada is staged, so she is told as taken, and another address is registered. -/
theorem staged_address_told_taken :
    answerOf (createUser (.text "ada@example.com") (staging opened)) =
        .error (.userAlreadyExists (.text "ada@example.com")) ∧
      answerOf (createUser (.text "bo@example.com") (staging opened)) =
        .ok ⟨.drawn .user 2, "bo@example.com", (staging opened).sources.clock⟩ := by
  have isOpen : (staging opened).IsOpen := ⟨rfl, nofun⟩
  have early :
      (staging opened).sources.clock.microseconds < Timestamp.lastSecond.microseconds := by
    decide +kernel
  have inserted :
      (staging opened).tables.insertUsers (staging opened).staged =
        .ok (staging opened).prospect :=
    rfl
  have admits := (Tables.insertUsers_iff.mp inserted).1
  have free : ¬ (staging opened).Holds "bo@example.com" := by
    apply not_holds_of_all
    decide +kernel
  constructor
  · rcases createUser_tells_taken (staging opened) "ada@example.com" with ⟨-, tells⟩
    have alreadyThere : (staging opened).Holds "ada@example.com" :=
      Or.inr ⟨_, List.mem_singleton.mpr rfl, rfl⟩
    exact (((tells isOpen rfl early).1 rfl).1 admits).1.mpr alreadyThere
  · rcases createUser_tells_taken (staging opened) "bo@example.com" with ⟨-, tells⟩
    exact (((tells isOpen rfl early).1 rfl).1 admits).2 free rfl

/-- Ada is registered and staged once more; then an address that nobody has is told as taken. -/
theorem free_address_told_taken :
    let session :=
      staging (Opening.after settings true [.call (.createUser (.text "ada@example.com"))])
    session.IsOpen ∧
      answerOf (createUser (.text "bo@example.com") session) =
        .error (.userAlreadyExists (.text "bo@example.com")) ∧
      ¬ session.Holds "bo@example.com" := by
  intro session
  refine ⟨⟨rfl, nofun⟩, rfl, ?_⟩
  apply not_holds_of_all
  decide +kernel

end Sample

end Bookkeeping
