import Bookkeeping.Bank
import Bookkeeping.Ledger.Record
import Bookkeeping.Ledger.Revision
import Bookkeeping.Text.Uppercase

/-!
# Sessions

A session is the inside of a unit of work.  From its first look at the database
until its end it holds the lock for writing and works on tables of its own,
which start as the committed ones.

Users can be staged, and posted entries can be revised in memory.  Both are
written with the next insertion, or when the unit of work commits.  Writing that
fails undoes the whole session at once: its tables and its lock are gone, and
whatever it is asked afterwards fails with a reference to that failure.

A session shows each account with the balance that it had when the session
first read it; only a locking read looks again.  Of the rows that it inserted
itself it shows the texts as they were given, whatever the database has kept.
-/

namespace Bookkeeping

/-- How far units of work are kept apart. -/
inductive Isolation where
  | readUncommitted
  | serializable
  | autocommit
deriving DecidableEq

namespace Isolation

/-- A level as its name is compared: in capitals and with blanks for underscores. -/
def normalized (level : String) : String :=
  Text.upper
    (String.ofList (level.toList.map fun character => if character = '_' then ' ' else character))

def ofText? (level : String) : Option Isolation :=
  match normalized level with
  | "READ UNCOMMITTED" => some .readUncommitted
  | "SERIALIZABLE" => some .serializable
  | "AUTOCOMMIT" => some .autocommit
  | _ => none

/-- The level that a value asks for. -/
def ofValue (level : Value) : Except Failure Isolation :=
  match level with
  | .text name =>
    match ofText? name with
    | some isolation => .ok isolation
    | none => .error (.unknownIsolation (normalized name))
  | _ => .error (.mismatched (.lacks level "replace"))

/-- The level that the database reports to be in force. -/
def inForce : Isolation → String
  | .readUncommitted => "READ UNCOMMITTED"
  | .serializable | .autocommit => "SERIALIZABLE"

end Isolation

/-- The inside of a unit of work. -/
structure Session where
  /-- The committed state, which other activities may still change. -/
  desk : Desk
  /-- Whether another unit of work holds the lock. -/
  locked : Bool
  /-- The level of isolation. -/
  isolation : Isolation
  /-- The tables of the session's own, if it holds the lock. -/
  pending : Option Tables
  /-- The users to be inserted with the next insertion. -/
  staged : List UserDraft
  /-- The posted entries that are revised in memory, and not yet in the tables. -/
  revised : List Revision
  /-- The accounts as the session has first read them. -/
  shown : List Account
  /-- The texts of the rows that the session inserted, where they were given as no texts. -/
  given : List (Identifier × List (String × Value))
  /-- The sides of the entries that the session wrote, as they were given. -/
  written : List (Identifier × Decimal × Decimal)
  /-- The failure that has undone the session. -/
  undoneBy : Option Failure

/-- Work inside of a session: it answers or fails, and leaves a session either way. -/
abbrev Work (Answer : Type) := EStateM Failure Session Answer

namespace Session

/-- A session that has not looked at the database yet. -/
def idle (surroundings : Surroundings) (isolation : Isolation) (desk : Desk) : Session where
  desk := desk
  locked := surroundings.locked
  isolation := isolation
  pending := none
  staged := []
  revised := []
  shown := []
  given := []
  written := []
  undoneBy := none

/-- The session after a failure has undone it; only the first such failure is kept. -/
def undone (session : Session) (failure : Failure) : Session :=
  match session.undoneBy with
  | some _ => session
  | none =>
    { session with pending := none, staged := [], revised := [], undoneBy := some failure }

/-- Whether nothing waits to be written. -/
def isClean (session : Session) : Bool :=
  session.staged.isEmpty && session.revised.isEmpty

/-- What an activity of others meets while the session is open. -/
def surroundings (session : Session) (fault : Fault) : Surroundings where
  locked := session.locked || session.pending.isSome
  fault := fault

end Session

namespace Work

/-- The tables of the session; the first look takes the lock. -/
def view : Work Tables := fun session =>
  match session.undoneBy, session.pending with
  | some failure, _ => .error (.undone failure) session
  | none, some tables => .ok tables session
  | none, none =>
    if session.locked then .error .locked session
    else
      let tables := session.desk.bank.tables
      .ok tables { session with pending := some tables }

/-- Puts something on record. -/
def announce (announcement : Announcement) : Work Unit := fun session =>
  let desk := session.desk
  .ok () { session with desk := { desk with log := desk.log ++ [announcement] } }

/-- The policy in force. -/
def policy : Work Policy := fun session =>
  .ok session.desk.bank.policy session

/-- The session with other sources. -/
def withSources (session : Session) (sources : Sources) : Session :=
  let desk := session.desk
  { session with desk := { desk with bank := { desk.bank with sources := sources } } }

/-- The time of the clock as it is given to objects, where that is more than is kept of it. -/
def givenTime (sources : Sources) : List (String × Value) :=
  match sources.zone with
  | none => []
  | some distance =>
    [("created_at", .text (sources.clock.text ++ Timestamp.zoneText distance))]

/-- Draws an identifier and takes a second for an object of a kind. -/
def make (kind : Identifier.Kind) : Work (Identifier × Timestamp) := fun session =>
  let sources := session.desk.bank.sources
  let id := sources.upcoming kind
  if sources.clock.microseconds < Timestamp.lastSecond.microseconds then
    let given := match givenTime sources with
      | [] => session.given
      | time => session.given ++ [(id, time)]
    .ok (id, sources.clock)
      { withSources session (sources.afterMaking kind) with given := given }
  else .error .calendarEnd (withSources session (sources.advance kind))

/-- Draws the identifier of a group, which takes no time. -/
def drawGroup : Work Identifier := fun session =>
  let sources := session.desk.bank.sources
  .ok (sources.upcoming .group) (withSources session (sources.advance .group))

/--
Changes the tables of the session by all that waits to be written, and by more
rows.  If any of it is refused, nothing is written and the session is undone.
-/
def flush {Answer : Type}
    (rows : List UserDraft → List Revision → Tables → Except Failure (Answer × Tables)) :
    Work Answer := fun session =>
  match view session with
  | .error failure session => .error failure (session.undone failure)
  | .ok tables session =>
    match rows session.staged session.revised tables with
    | .ok (answer, tables) =>
      .ok answer { session with pending := some tables, staged := [], revised := [] }
    | .error failure => .error failure (session.undone failure)

/-- Inserts the staged users and then more rows, behind the updates of entries. -/
def insert {Answer : Type} (rows : Tables → Except Failure (Answer × Tables)) : Work Answer :=
  flush fun staged revised tables => do
    let tables ← tables.updateEntries (Revision.updates revised)
    let (answer, tables) ← rows (← tables.insertUsers staged)
    return (answer, ← tables.deleteEntries (Revision.deletions revised))

/-- Inserts entries and then the staged users, behind the updates of other entries. -/
def insertAhead {Answer : Type} (rows : Tables → Except Failure (Answer × Tables)) :
    Work Answer :=
  flush fun staged revised tables => do
    let (answer, tables) ← rows (← tables.updateEntries (Revision.updates revised))
    let tables ← tables.insertUsers staged
    return (answer, ← tables.deleteEntries (Revision.deletions revised))

/-- Inserts the staged users and then accounts, ahead of the updates of entries. -/
def insertBetween {Answer : Type} (rows : Tables → Except Failure (Answer × Tables)) :
    Work Answer :=
  flush fun staged revised tables => do
    let (answer, tables) ← rows (← tables.insertUsers staged)
    let tables ← tables.updateEntries (Revision.updates revised)
    return (answer, ← tables.deleteEntries (Revision.deletions revised))

/-- Writes what waits to be written; where nothing waits, the database is not asked. -/
def flushWaiting : Work Unit := fun session =>
  if session.isClean then .ok () session
  else insert (fun tables => .ok ((), tables)) session

/-- Replaces the tables of the session. -/
def replaceTables (tables : Tables) : Work Unit := fun session =>
  .ok () { session with pending := some tables }

/-- Keeps a user to be for the next insertion. -/
def stage (draft : UserDraft) : Work Unit := fun session =>
  .ok () { session with staged := session.staged ++ [draft] }

/-- Revises a posted entry in memory; a new description is shown from now on. -/
def revise (entry : Identifier) (amendment : Amendment) : Work Unit := fun session =>
  let given :=
    match amendment with
    | .describe description => (entry, [("description", description)]) :: session.given
    | .remove => session.given
  .ok () { session with
    revised := Revision.recorded ⟨entry, amendment⟩ session.revised
    given := given }

/-- The account as the session shows it: as it was when the session first read it. -/
def remember (account : Account) : Work Account := fun session =>
  match session.shown.find? fun shown => shown.id = account.id with
  | some shown => .ok shown session
  | none => .ok account { session with shown := session.shown ++ [account] }

/-- The account as it is now, which is what the session shows from now on. -/
def refresh (account : Account) : Work Account := fun session =>
  let others := session.shown.filter fun shown => shown.id ≠ account.id
  .ok account { session with shown := others ++ [account] }

/-- Whether a value is shown as it was given, since the database keeps only its text. -/
def isShownAsGiven : Value → Bool
  | .null | .text _ => false
  | _ => true

/-- Keeps the texts of a row that the session inserted, where they were given as no texts. -/
def keepGiven (id : Identifier) (fields : List (String × Value)) : Work Unit := fun session =>
  match fields.filter fun (_, value) => isShownAsGiven value with
  | [] => .ok () session
  | unkept => .ok () { session with given := session.given ++ [(id, unkept)] }

/-- A row as the session sees it. -/
def seen {Row : Type} (id : Identifier) (row : Row) : Work (Seen Row) := fun session =>
  let given := session.given.filter fun (other, _) => other = id
  .ok ⟨row, given.flatMap fun (_, fields) => fields⟩ session

/-- The outcome of something that needs no session. -/
def ofExcept {Answer : Type} : Except Failure Answer → Work Answer
  | .ok answer => pure answer
  | .error failure => throw failure

/-- The answer, or a failure where there is none. -/
def orFail {Answer : Type} (failure : Failure) : Option Answer → Work Answer
  | some answer => pure answer
  | none => throw failure

end Work

end Bookkeeping
