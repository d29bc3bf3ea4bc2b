import Bookkeeping.Proofs.Primitives
import Bookkeeping.Proofs.Rounding
import Bookkeeping.Unit.Queries

/-!
# What queries do

Queries that read leave the session untouched.  Each of the others evolves the
session by the rows that it inserts or by the balance that it moves; if it fails,
it evolves the session by nothing.  Users that had been staged before are inserted
along with the next row.
-/

namespace Bookkeeping.Work

open Session

variable {Answer : Type} {before after : Session}

/-! ## Reading -/

theorem read_untouched (forUpdate : Bool) (account : Account) :
    Keeps Untouched (read forUpdate account) := by
  cases forUpdate with
  | true => exact refresh_untouched account
  | false => exact remember_untouched account

theorem account_untouched (id : Identifier) (forUpdate : Bool) :
    Keeps Untouched (account id forUpdate) :=
  view_untouched.bind fun _ =>
    (orFail_untouched _ _).bind fun found => read_untouched forUpdate found

theorem settlementNamed_untouched (name : Value) : Keeps Untouched (settlementNamed name) :=
  view_untouched.bind fun _ => (ofExcept_untouched _).bind fun _ => Keeps.pure _

theorem settlement_untouched (name : Value) (forUpdate : Bool) :
    Keeps Untouched (settlement name forUpdate) :=
  (settlementNamed_untouched name).bind fun _ =>
    (orFail_untouched _ _).bind fun found => read_untouched forUpdate found

theorem findSettlement_untouched (name : Value) : Keeps Untouched (findSettlement name) := by
  refine (settlementNamed_untouched name).bind fun found? => ?_
  cases found? with
  | some found => exact (remember_untouched found).bind fun shown => Keeps.pure (some shown)
  | none => exact Keeps.pure none

theorem accounts_untouched : Keeps Untouched accounts :=
  view_untouched.bind fun tables => Keeps.mapM remember_untouched tables.accountsByAge

theorem accountsOf_untouched (owner : Identifier) : Keeps Untouched (accountsOf owner) :=
  view_untouched.bind fun tables => Keeps.mapM remember_untouched (tables.accountsOf owner)

theorem user_untouched (id : Identifier) : Keeps Untouched (user id) :=
  view_untouched.bind fun _ => orFail_untouched _ _

theorem isTaken_untouched (email : Value) : Keeps Untouched (isTaken email) :=
  view_untouched.bind fun _ => (ofExcept_untouched _).bind fun _ => Keeps.pure _

theorem pageInteger_untouched (value : Value) : Keeps Untouched (pageInteger value) := by
  rw [pageInteger.eq_def]
  split
  · exact Keeps.pure none
  · exact ofExcept_untouched _

theorem history_untouched (account : Identifier) (limit offset : Value) :
    Keeps Untouched (history account limit offset) := by
  refine (pageInteger_untouched limit).bind fun limit => ?_
  refine (pageInteger_untouched offset).bind fun offset => ?_
  refine view_untouched.bind fun tables => ?_
  split
  · exact Keeps.pure _
  · exact Keeps.throw _

theorem entriesOfGroup_untouched (group : Identifier) :
    Keeps Untouched (entriesOfGroup group) :=
  view_untouched.bind fun _ => Keeps.pure _

theorem calculatedBalance_untouched (account : Identifier) :
    Keeps Untouched (calculatedBalance account) :=
  view_untouched.bind fun _ => ofExcept_untouched _

theorem calculatedBalances_untouched : Keeps Untouched calculatedBalances :=
  view_untouched.bind fun _ => ofExcept_untouched _

theorem comparedBalance_untouched (account : Account) :
    Keeps Untouched (comparedBalance account) :=
  ofExcept_untouched _

/-- A balance that can be compared is compared as it is. -/
theorem comparedBalance_answers
    {account : Account}
    (comparable : account.balance.IsComparable) :
    comparedBalance account before = .ok account.balance before := by
  rw [comparedBalance, Money.fixed_eq, if_pos comparable]
  rfl

/-- A balance that is too large to be compared is refused. -/
theorem comparedBalance_refuses
    {account : Account}
    (large : ¬account.balance.IsComparable) :
    comparedBalance account before = .error (.mismatched .decimalOutOfRange) before := by
  rw [comparedBalance, Money.fixed_eq, if_neg large]
  rfl

theorem comparedBalance_ok
    {account : Account}
    {available : Money}
    (compared : comparedBalance account before = .ok available after) :
    account.balance.IsComparable ∧ available = account.balance ∧ after = before := by
  by_cases comparable : account.balance.IsComparable
  · rw [comparedBalance_answers comparable] at compared
    cases compared
    exact ⟨comparable, rfl, rfl⟩
  · rw [comparedBalance_refuses comparable] at compared
    cases compared

theorem isolationInForce_untouched : Keeps Untouched isolationInForce :=
  view_untouched.bind fun _ =>
    Keeps.bind (fun session => .refl session) fun _ => Keeps.pure _

/-! ## Accounts as they are shown -/

/-- A locking read answers the account as it is. -/
theorem account_locking_ok
    {id : Identifier}
    {found : Account}
    (answered : account id true before = .ok found after) :
    before.undoneBy = none ∧ before.tables.account? id = some found := by
  rcases sequence_ok_iff.mp answered with ⟨tables, first, viewed, rest⟩
  rcases sequence_ok_iff.mp rest with ⟨row, second, looked, refreshed⟩
  rcases view_ok viewed with ⟨usable, rfl, -, -⟩
  rcases orFail_ok_iff.mp looked with ⟨present, -⟩
  cases refreshed
  exact ⟨usable, present⟩

/-- Every account that a session shows is shown as it is. -/
def ShowsRows (session : Session) : Prop :=
  ∀ shown ∈ session.shown, session.tables.account? shown.id = some shown

/-- As long as a session shows its accounts as they are, it shows a row as it is. -/
theorem remember_row
    {row shown : Account}
    (shows : ShowsRows before)
    (present : before.tables.account? row.id = some row)
    (remembered : remember row before = .ok shown after) :
    shown = row ∧ ShowsRows after := by
  rw [remember] at remembered
  split at remembered
  · rename_i known
    cases remembered
    have sameId : shown.id = row.id := by simpa using List.find?_some known
    have shownRow := shows shown (List.mem_of_find?_eq_some known)
    rw [sameId, present] at shownRow
    cases shownRow
    exact ⟨rfl, shows⟩
  · cases remembered
    refine ⟨rfl, ?_⟩
    intro other member
    rcases List.mem_append.mp member with old | new
    · exact shows other old
    · rw [List.mem_singleton.mp new]
      exact present

/-- As long as a session shows its accounts as they are, plain reads answer them so. -/
theorem account_plain_ok
    {id : Identifier}
    {found : Account}
    (shows : ShowsRows before)
    (answered : account id false before = .ok found after) :
    before.undoneBy = none ∧ before.tables.account? id = some found ∧ ShowsRows after := by
  rcases sequence_ok_iff.mp answered with ⟨tables, first, viewed, rest⟩
  rcases sequence_ok_iff.mp rest with ⟨row, second, looked, remembered⟩
  rcases view_ok viewed with ⟨usable, rfl, rfl, -⟩
  rcases orFail_ok_iff.mp looked with ⟨present, rfl⟩
  have sameId : row.id = id := (Tables.account?_eq_some present).2
  change remember row _ = _ at remembered
  have showsViewed : ShowsRows { before with pending := some before.tables } := shows
  rcases remember_row showsViewed (by rwa [sameId]) remembered with ⟨rfl, showsThen⟩
  exact ⟨usable, present, showsThen⟩

/-- A locking read of a settlement account answers the first one as it is. -/
theorem settlement_locking_ok
    {name : Value}
    {found : Account}
    (answered : settlement name true before = .ok found after) :
    before.undoneBy = none ∧
      ∃ text,
        storedText 1 name = .ok (some text) ∧ before.tables.settlement? text = some found := by
  rcases sequence_ok_iff.mp answered with ⟨found?, first, named, rest⟩
  rcases sequence_ok_iff.mp named with ⟨tables, second, viewed, converted⟩
  rcases view_ok viewed with ⟨usable, rfl, -, -⟩
  rcases sequence_ok_iff.mp converted with ⟨text?, third, kept, looked⟩
  rcases ofExcept_ok_iff.mp kept with ⟨kept, -⟩
  rcases pure_ok_iff.mp looked with ⟨rfl, -⟩
  rcases sequence_ok_iff.mp rest with ⟨row, fourth, present, refreshed⟩
  rcases orFail_ok_iff.mp present with ⟨present, -⟩
  cases refreshed
  rcases Option.bind_eq_some_iff.mp present with ⟨text, rfl, settled⟩
  exact ⟨usable, text, kept, settled⟩

/-- Where no settlement account is found, there is none with the text that is kept of the name. -/
theorem findSettlement_none
    {name : Value}
    (answered : findSettlement name before = .ok none after) :
    ∀ text, storedText 1 name = .ok (some text) → before.tables.settlement? text = none := by
  intro text keptText
  rcases sequence_ok_iff.mp answered with ⟨found?, first, named, rest⟩
  rcases sequence_ok_iff.mp named with ⟨tables, second, viewed, converted⟩
  rcases view_ok viewed with ⟨-, rfl, -, -⟩
  rcases sequence_ok_iff.mp converted with ⟨text?, third, kept, looked⟩
  rcases ofExcept_ok_iff.mp kept with ⟨kept, -⟩
  rcases pure_ok_iff.mp looked with ⟨rfl, -⟩
  rw [keptText] at kept
  cases kept
  cases settled : before.tables.settlement? text with
  | none => rfl
  | some row =>
      simp only [Option.bind_some, settled] at rest
      rcases sequence_ok_iff.mp rest with ⟨shown, fourth, -, wrong⟩
      simp at wrong

/-! ## Moving balances -/

theorem replaceTables_ok
    {tables : Tables}
    (replaced : replaceTables tables before = .ok () after) :
    after = { before with pending := some tables } := by
  cases replaced
  rfl

theorem moveBalance_ok
    {id : Identifier}
    {delta : Money}
    (moved : moveBalance id delta before = .ok () after) :
    Evolved [.balance id delta] before after ∧ before.undoneBy = none ∧
      after.staged = before.staged := by
  rcases sequence_ok_iff.mp moved with ⟨tables, first, viewed, rest⟩
  rcases view_ok viewed with ⟨usable, rfl, rfl, open?⟩
  rcases sequence_ok_iff.mp rest with ⟨changed, second, looked, replaced⟩
  rcases orFail_ok_iff.mp looked with ⟨accepted, rfl⟩
  rcases Tables.moveBalance_some accepted with ⟨fits, rfl⟩
  rw [replaceTables_ok replaced]
  refine ⟨evolved_of_pending _ _ open? (.single fits) ?_, usable, rfl⟩
  intro write member
  rw [List.mem_singleton.mp member]
  trivial

theorem moveBalance_error
    {id : Identifier}
    {delta : Money}
    {failure : Failure}
    (moved : moveBalance id delta before = .error failure after) :
    Untouched before after := by
  rcases sequence_error_iff.mp moved with viewed | ⟨tables, first, viewed, rest⟩
  · exact view_untouched.of_error viewed
  · have looked := view_untouched.of_ok viewed
    rcases sequence_error_iff.mp rest with refused | ⟨changed, second, accepted, replaced⟩
    · exact looked.trans ((orFail_untouched _ _).of_error refused)
    · cases replaced

theorem moveBalance_continued (id : Identifier) (delta : Money) :
    Keeps Continued (moveBalance id delta) :=
  Keeps.intro
    (fun _ _ _ moved => (moveBalance_ok moved).1.toContinued)
    (fun _ _ _ refused => (moveBalance_error refused).continued)

/-! ## Inserting rows -/

/-- Users were not drawn for accounts. -/
theorem users_drawn (users : List User) (sources : Sources) :
    ∀ write ∈ users.map Write.user, write.Drawn sources := by
  intro write member
  rcases List.mem_map.mp member with ⟨user, -, rfl⟩
  trivial

/-- Users do not make an account known. -/
theorem account?_of_users
    {users : List User}
    {first last : Tables}
    (written : Written (users.map .user) first last)
    (id : Identifier) :
    last.account? id = first.account? id := by
  induction users generalizing first with
  | nil => rw [Written.nil_iff.mp written]
  | cons user rest hypothesis =>
      cases written with
      | cons fits others =>
          rw [hypothesis others]
          exact Write.account?_user first user id

/--
An account that is inserted comes after the staged users.  It is answered as it
is unless the session has already shown another one in its place.
-/
theorem openAccount_ok
    {name currency : Value}
    {owner : Option Identifier}
    {isSystem : Bool}
    {answer : Account}
    (opened : openAccount name currency owner isSystem before = .ok answer after) :
    ∃ (row : Account) (keptName keptCurrency : String),
      storedText 3 name = .ok (some keptName) ∧
        storedText 5 (Tables.givenCurrency currency) = .ok (some keptCurrency) ∧
        row = Tables.accountRow
          ⟨before.sources.upcoming .account, owner, name, currency, isSystem, before.sources.clock⟩
          keptName keptCurrency ∧
        Evolved (before.joining.map .user ++ [.account row]) before after ∧
        before.undoneBy = none ∧ after.staged = [] ∧
        (before.shown = [] → answer = row) := by
  rcases sequence_ok_iff.mp opened with ⟨⟨id, time⟩, first, made, rest⟩
  rcases sequence_ok_iff.mp rest with ⟨row, second, inserted, rest⟩
  rcases sequence_ok_iff.mp rest with ⟨⟨⟩, third, kept, remembered⟩
  rcases make_ok made with ⟨rfl, rfl, sameSources, sameTables, sameStaged, sameUndone, sameShown⟩
  rcases insert_ok (insertBetween_ok inserted) with
    ⟨usable, -, open?, middle, tables, written, accepted, rfl⟩
  have sameJoining : first.joining = before.joining := by rw [joining, joining, sameStaged]
  rcases Tables.insertAccount_ok accepted with
    ⟨⟨keptName, keptCurrency, nameKept, currencyKept, sameRow⟩, owned, rfl⟩
  have drawing := (make_evolved .account).of_ok made
  have keeping := (keepGiven_untouched _ _).of_ok kept
  have showing := (remember_untouched row).of_ok remembered
  rw [sameTables, sameJoining] at written
  refine ⟨row, keptName, keptCurrency, nameKept, currencyKept, sameRow, ?_,
    sameUndone ▸ usable, ?_, ?_⟩
  · have inserting :
        Evolved (before.joining.map .user ++ [.account row]) before
          { first with
            pending := some ((Write.account row).apply middle)
            staged := []
            revised := [] } :=
      { toContinued := drawing.toContinued.trans (continued_of_pending open? _ _ _)
        applied := fun _ => by
          rw [List.foldl_append, ← written.eq_foldl]
          rfl
        written := by
          intro _ sound
          have absent : middle.account? row.id = none := by
            rw [account?_of_users written, sameRow]
            exact sound.account?_upcoming
          have fits : (Write.account row).Fits middle := ⟨absent, sameRow ▸ owned, sameRow ▸ rfl⟩
          refine ⟨written.append (.single fits), ?_⟩
          intro write member
          rcases List.mem_append.mp member with staged | new
          · exact users_drawn _ _ write staged
          · rw [List.mem_singleton.mp new]
            change (Write.account row).Drawn first.sources
            rw [sameSources]
            exact Write.drawn_of_upcoming (by rw [sameRow]; rfl) }
    simpa using (inserting.trans keeping.evolved).trans showing.evolved
  · rw [showing.staged, keeping.staged]
  · intro nothingShown
    rcases keepGiven_answers _ _ _ with ⟨last, keptSame, sameLast⟩
    rw [keptSame] at kept
    cases kept
    have nothingYet : third.shown = [] := sameLast.trans (sameShown.trans nothingShown)
    simp only [remember, nothingYet, List.find?_nil] at remembered
    cases remembered
    rfl

/-- An account that is not opened leaves nothing behind, and undoes the session if it was refused. -/
theorem openAccount_error
    {name currency : Value}
    {owner : Option Identifier}
    {isSystem : Bool}
    {failure : Failure}
    (refused : openAccount name currency owner isSystem before = .error failure after) :
    Spared before after ∧ (failure = .calendarEnd ∨ after.undoneBy.isSome) := by
  rcases sequence_error_iff.mp refused with made | ⟨⟨id, time⟩, first, made, rest⟩
  · exact ⟨(make_spared .account).of_error made, Or.inl (make_error_eq made)⟩
  have drawing := (make_spared .account).of_ok made
  rcases sequence_error_iff.mp rest with inserted | ⟨row, second, -, rest⟩
  · exact ⟨drawing.trans (flush_error_spared inserted), Or.inr (flush_error_undone inserted)⟩
  -- Once the row is inserted nothing can fail any more.
  rcases sequence_error_iff.mp rest with kept | ⟨⟨⟩, third, -, remembered⟩
  · rcases keepGiven_answers id [("name", name), ("currency", currency)] second with
      ⟨last, answered, -⟩
    rw [answered] at kept
    cases kept
  · rcases remember_answers row third with ⟨shown, last, answered⟩
    rw [answered] at remembered
    cases remembered

theorem openAccount_continued
    (name currency : Value)
    (owner : Option Identifier)
    (isSystem : Bool) :
    Keeps Continued (openAccount name currency owner isSystem) := by
  apply Keeps.intro
  · intro before answer after opened
    rcases openAccount_ok opened with ⟨row, _, _, -, -, -, evolved, -⟩
    exact evolved.toContinued
  · intro before failure after refused
    exact (openAccount_error refused).1.toContinued

/-- Making a user after the address was found free. -/
theorem createUser_eq (email : Value) :
    createUser email = (do
      let taken ← isTaken email
      if taken then throw (.userAlreadyExists email)
      else
        let (id, createdAt) ← make .user
        let user ← rewording (asTaken email) <| insert fun tables =>
          tables.insertUser ⟨id, email, createdAt⟩
        keepGiven id [("email", email)]
        return user) := by
  rfl

/-- Work whose failures are told in other words fails where it failed. -/
theorem rewording_error
    {work : Work Answer}
    {words : Failure → Failure}
    {failure : Failure}
    (refused : rewording words work before = .error failure after) :
    ∃ met, work before = .error met after := by
  rw [rewording] at refused
  cases outcome : work before with
  | ok given session =>
      rw [outcome] at refused
      cases refused
  | error met session =>
      rw [outcome] at refused
      cases refused
      exact ⟨met, rfl⟩

theorem rewording_ok_iff
    {work : Work Answer}
    {words : Failure → Failure}
    {answer : Answer} :
    rewording words work before = .ok answer after ↔ work before = .ok answer after := by
  rw [rewording]
  cases work before with
  | ok given session => rfl
  | error failure session => simp

/-- A user who is inserted comes after the staged ones. -/
theorem createUser_ok
    {email : Value}
    {user : User}
    (created : createUser email before = .ok user after) :
    Evolved (before.joining.map .user ++ [.user user]) before after ∧
      before.undoneBy = none ∧ after.staged = [] ∧
      user.id = before.sources.upcoming .user ∧ user.createdAt = before.sources.clock ∧
      storedText 2 email = .ok (some user.email) := by
  rw [createUser_eq] at created
  rcases sequence_ok_iff.mp created with ⟨taken, first, asked, rest⟩
  have asking := (isTaken_untouched email).of_ok asked
  cases taken with
  | true => simp at rest
  | false =>
      rcases sequence_ok_iff.mp rest with ⟨⟨id, time⟩, second, made, rest⟩
      rcases sequence_ok_iff.mp rest with ⟨row, third, inserted, rest⟩
      rcases sequence_ok_iff.mp rest with ⟨⟨⟩, fourth, kept, answered⟩
      rcases pure_ok_iff.mp answered with ⟨rfl, rfl⟩
      rcases insert_ok (rewording_ok_iff.mp inserted) with
        ⟨usable, -, open?, middle, tables, written, accepted, rfl⟩
      rcases Tables.insertUser_ok accepted with ⟨sameId, sameTime, keptEmail, fits, rfl⟩
      rcases make_ok made with ⟨rfl, rfl, sameSources, sameTables, sameStaged, sameUndone, -⟩
      have drawing := (make_evolved .user).of_ok made
      have keeping := (keepGiven_untouched _ _).of_ok kept
      have sameJoining : second.joining = before.joining := by
        rw [joining, joining, sameStaged, asking.staged]
      rw [sameJoining] at written
      have drawn :
          ∀ write ∈ before.joining.map Write.user ++ [.user row], write.Drawn second.sources := by
        intro write member
        rcases List.mem_append.mp member with staged | new
        · exact users_drawn _ _ write staged
        · rw [List.mem_singleton.mp new]
          trivial
      have inserting := evolved_of_pending [] [] open? (written.append (.single fits)) drawn
      refine ⟨?_, ?_, keeping.staged, ?_, ?_, keptEmail⟩
      · simpa using ((asking.evolved.trans drawing).trans inserting).trans keeping.evolved
      · rw [← asking.undoneBy, ← sameUndone, usable]
      · rw [sameId, Session.sources, asking.desk]
        rfl
      · rw [sameTime, Session.sources, asking.desk]
        rfl

/--
A user who is not inserted leaves nothing behind, and undoes the session unless it was
refused before: by the look for its address, which fails or finds somebody.
-/
theorem createUser_error
    {email : Value}
    {failure : Failure}
    (refused : createUser email before = .error failure after) :
    Spared before after ∧
      ((∃ middle, isTaken email before = .error failure middle) ∨
        (failure = .userAlreadyExists email ∧ ∃ middle, isTaken email before = .ok true middle) ∨
        failure = .calendarEnd ∨ after.undoneBy.isSome) := by
  rw [createUser_eq] at refused
  rcases sequence_error_iff.mp refused with asked | ⟨taken, first, asked, rest⟩
  · exact ⟨((isTaken_untouched email).of_error asked).spared, Or.inl ⟨after, asked⟩⟩
  have asking := ((isTaken_untouched email).of_ok asked).spared
  cases taken with
  | true =>
      rcases throw_error_iff.mp rest with ⟨rfl, rfl⟩
      exact ⟨asking, Or.inr (Or.inl ⟨rfl, first, asked⟩)⟩
  | false =>
      rcases sequence_error_iff.mp rest with made | ⟨⟨id, time⟩, second, made, rest⟩
      · have drawing := (make_spared .user).of_error made
        exact ⟨asking.trans drawing, Or.inr (Or.inr (Or.inl (make_error_eq made)))⟩
      have drawing := (make_spared .user).of_ok made
      rcases sequence_error_iff.mp rest with inserted | ⟨row, third, -, rest⟩
      · rcases rewording_error inserted with ⟨met, inserted⟩
        have undone := flush_error_undone inserted
        exact
          ⟨(asking.trans drawing).trans (flush_error_spared inserted),
            Or.inr (Or.inr (Or.inr undone))⟩
      rcases sequence_error_iff.mp rest with kept | ⟨⟨⟩, fourth, -, answered⟩
      · rcases keepGiven_answers id [("email", email)] third with ⟨last, answered, -⟩
        rw [answered] at kept
        cases kept
      · simp at answered

theorem createUser_continued (email : Value) : Keeps Continued (createUser email) := by
  apply Keeps.intro
  · intro before user after created
    exact (createUser_ok created).1.toContinued
  · intro before failure after refused
    exact (createUser_error refused).1.toContinued

theorem addUser_evolved (email : Value) : Keeps (Evolved []) (addUser email) :=
  (make_evolved .user).bind fun _ => stage_evolved _

/-- The entry that a posting becomes when it is drawn from sources. -/
def Posting.entry (posting : Posting) (sources : Sources) : Entry :=
  Tables.entryRow (posting.draft (sources.upcoming .entry) sources.clock) posting.description.kept?

/-- An entry that is inserted comes before the staged users. -/
theorem post_ok
    {posting : Posting}
    {entry : Entry}
    (posted : post posting before = .ok entry after) :
    entry = posting.entry before.sources ∧
      Evolved (.entry entry :: before.joining.map .user) before after ∧
      before.undoneBy = none ∧ after.staged = [] ∧
      after.sources = before.sources.afterMaking .entry ∧
      storedText 7 posting.description = .ok posting.description.kept? := by
  rcases sequence_ok_iff.mp posted with ⟨⟨id, time⟩, first, made, rest⟩
  rcases sequence_ok_iff.mp rest with ⟨row, second, inserted, rest⟩
  rcases sequence_ok_iff.mp rest with ⟨⟨⟩, third, kept, answered⟩
  rcases pure_ok_iff.mp answered with ⟨rfl, rfl⟩
  rcases insertAhead_ok inserted with
    ⟨usable, -, open?, middle, tables, accepted, written, rfl⟩
  rcases Tables.insertEntry_ok accepted with ⟨⟨description, keptDescription, sameRow⟩, fits, rfl⟩
  rcases make_ok made with ⟨rfl, rfl, sameSources, -, sameStaged, sameUndone, -⟩
  have drawing := (make_evolved .entry).of_ok made
  have keeping := (keepGiven_untouched _ _).of_ok kept
  have sameJoining : first.joining = before.joining := by rw [joining, joining, sameStaged]
  rw [sameJoining] at written
  have drawn :
      ∀ write ∈ .entry row :: before.joining.map Write.user, write.Drawn first.sources := by
    intro write member
    rcases List.mem_cons.mp member with new | staged
    · rw [new]
      trivial
    · exact users_drawn _ _ write staged
  have inserting := evolved_of_pending [] [] open? (.cons fits written) drawn
  have keptText : posting.description.kept? = description := Value.kept?_eq keptDescription
  refine ⟨?_, ?_, sameUndone ▸ usable, keeping.staged, ?_, ?_⟩
  · rw [sameRow, Posting.entry, keptText]
  · simpa using (drawing.trans inserting).trans keeping.evolved
  · rw [← sameSources, Session.sources, keeping.desk]
    rfl
  · rw [keptText]
    exact keptDescription

/-- An entry that is not inserted leaves nothing behind, and undoes the session if it was refused. -/
theorem post_error
    {posting : Posting}
    {failure : Failure}
    (refused : post posting before = .error failure after) :
    Spared before after ∧ (failure = .calendarEnd ∨ after.undoneBy.isSome) := by
  rcases sequence_error_iff.mp refused with made | ⟨⟨id, time⟩, first, made, rest⟩
  · exact ⟨(make_spared .entry).of_error made, Or.inl (make_error_eq made)⟩
  have drawing := (make_spared .entry).of_ok made
  rcases sequence_error_iff.mp rest with inserted | ⟨row, second, -, rest⟩
  · exact ⟨drawing.trans (flush_error_spared inserted), Or.inr (flush_error_undone inserted)⟩
  rcases sequence_error_iff.mp rest with kept | ⟨⟨⟩, third, -, answered⟩
  · rcases keepGiven_answers id [("description", posting.description)] second with
      ⟨last, answered, -⟩
    rw [answered] at kept
    cases kept
  · simp at answered

theorem post_continued (posting : Posting) : Keeps Continued (post posting) := by
  apply Keeps.intro
  · intro before entry after posted
    exact (post_ok posted).2.1.toContinued
  · intro before failure after refused
    exact (post_error refused).1.toContinued

/-- Work that looks at the database at most spares the session. -/
theorem reading_spared
    {work : Work Answer}
    (keeps : Keeps Untouched work) :
    Keeps Spared work :=
  keeps.mono fun _ _ => Untouched.spared

/-- Revising an entry of a group is not yet writing. -/
theorem reviseEntry_spared (group : Identifier) (index : Value) (amendment : Amendment) :
    Keeps Spared (reviseEntry group index amendment) :=
  (reading_spared (entriesOfGroup_untouched group)).bind fun _ =>
    (reading_spared (ofExcept_untouched _)).bind fun _ =>
      (reading_spared (orFail_untouched _ _)).bind fun _ => revise_spared _ _

theorem reviseEntry_ok
    {group : Identifier}
    {index : Value}
    {amendment : Amendment}
    (revised : reviseEntry group index amendment before = .ok () after) :
    after.revised ≠ [] := by
  rcases sequence_ok_iff.mp revised with ⟨entries, first, -, rest⟩
  rcases sequence_ok_iff.mp rest with ⟨position, second, -, rest⟩
  rcases sequence_ok_iff.mp rest with ⟨entry, third, -, revising⟩
  cases revising
  exact Revision.recorded_ne_nil _ _

/-- No attempt to change an entry is answered. -/
theorem changeEntry_ne_ok
    {group : Identifier}
    {index : Value}
    {amendment : Amendment} :
    changeEntry group index amendment before ≠ .ok () after := by
  intro changed
  rcases sequence_ok_iff.mp changed with ⟨⟨⟩, middle, revised, written⟩
  exact reviseEntry_ok revised (flushWaiting_ok written).2.1

/-- No attempt to change an entry changes anything. -/
theorem changeEntry_spared (group : Identifier) (index : Value) (amendment : Amendment) :
    Keeps Spared (changeEntry group index amendment) := by
  apply Keeps.intro
  · intro before answer after changed
    exact absurd changed changeEntry_ne_ok
  · intro before failure after refused
    have revising := reviseEntry_spared group index amendment
    rcases sequence_error_iff.mp refused with unfound | ⟨⟨⟩, middle, revised, written⟩
    · exact revising.of_error unfound
    · exact (revising.of_ok revised).trans (flushWaiting_error written).1

end Bookkeeping.Work
