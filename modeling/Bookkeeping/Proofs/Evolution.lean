import Bookkeeping.Proofs.Rows
import Bookkeeping.Proofs.Sequence

/-!
# How sessions evolve

The tables that a session sees are its own ones, or the committed ones as long as
it has none.  Four relations between a session and the same session later say what
work may have done in between.

* The session is untouched: it has looked at the database at most.
* The session was spared: it has neither written nor staged anything, unless it was
  undone.  That is what becomes of a session in which a query fails.
* The session has evolved by writes: they lead from the tables that it saw to those
  that it sees, unless it was undone.
* The session has continued: sources were drawn from, and the committed tables and
  the policy are what they were.

A session that was undone stays undone, and one that meets the lock of another unit
of work never gets tables of its own.
-/

namespace Bookkeeping

/-- One state of the sources comes before another: nothing drawn is given back. -/
def Sources.Precedes (earlier later : Sources) : Prop :=
  ∀ kind, earlier.count kind ≤ later.count kind

namespace Sources.Precedes

theorem refl (sources : Sources) : sources.Precedes sources :=
  fun _ => Nat.le_refl _

theorem trans
    {first second third : Sources}
    (early : first.Precedes second)
    (late : second.Precedes third) :
    first.Precedes third :=
  fun kind => Nat.le_trans (early kind) (late kind)

theorem advance (sources : Sources) (kind : Identifier.Kind) :
    sources.Precedes (sources.advance kind) := by
  intro other
  cases kind <;> cases other <;> simp [Sources.count, Sources.advance]

theorem afterMaking (sources : Sources) (kind : Identifier.Kind) :
    sources.Precedes (sources.afterMaking kind) :=
  advance sources kind

theorem accounts
    {earlier later : Sources}
    (precedes : earlier.Precedes later) :
    earlier.accounts ≤ later.accounts :=
  precedes .account

end Sources.Precedes

namespace Write

theorem Drawn.mono
    {write : Write}
    {earlier later : Sources}
    (drawn : write.Drawn earlier)
    (precedes : earlier.Precedes later) :
    write.Drawn later := by
  cases write with
  | account row =>
      rcases drawn with ⟨count, bound, same⟩
      exact ⟨count, Nat.le_trans bound precedes.accounts, same⟩
  | user row => trivial
  | entry row => trivial
  | balance id delta => trivial

/-- An account under the identifier that was upcoming is drawn once it has been made. -/
theorem drawn_of_upcoming
    {sources : Sources}
    {row : Account}
    (upcoming : row.id = sources.upcoming .account) :
    (Write.account row).Drawn (sources.afterMaking .account) :=
  ⟨sources.accounts + 1, Nat.le_refl _, upcoming⟩

end Write

namespace Session

/-- The tables that a session sees: its own, or the committed ones as long as it has none. -/
def tables (session : Session) : Tables :=
  session.pending.getD session.desk.bank.tables

/-- The sources from which the session draws. -/
def sources (session : Session) : Sources :=
  session.desk.bank.sources

/-- The users who are inserted along with the next row. -/
def joining (session : Session) : List User :=
  session.staged.filterMap UserDraft.row?

theorem joining_eq_nil
    {session : Session}
    (nothingStaged : session.staged = []) :
    session.joining = [] := by
  rw [joining, nothingStaged, List.filterMap_nil]

/-! ## Untouched sessions -/

/-- A session has looked at the database at most. -/
structure Untouched (before after : Session) : Prop where
  desk : after.desk = before.desk
  tables : after.tables = before.tables
  staged : after.staged = before.staged
  revised : after.revised = before.revised
  undoneBy : after.undoneBy = before.undoneBy
  locked : after.locked = before.locked
  barred : before.locked = true → after.pending = before.pending
  held : before.pending.isSome → after.pending.isSome

namespace Untouched

theorem refl (session : Session) : Untouched session session :=
  ⟨rfl, rfl, rfl, rfl, rfl, rfl, fun _ => rfl, id⟩

theorem trans
    {first second third : Session}
    (early : Untouched first second)
    (late : Untouched second third) :
    Untouched first third where
  desk := late.desk.trans early.desk
  tables := late.tables.trans early.tables
  staged := late.staged.trans early.staged
  revised := late.revised.trans early.revised
  undoneBy := late.undoneBy.trans early.undoneBy
  locked := late.locked.trans early.locked
  barred locked := (late.barred (early.locked.trans locked)).trans (early.barred locked)
  held own := late.held (early.held own)

instance : IsPreorder Session Untouched where
  refl := refl
  trans _ _ _ := trans

end Untouched

/-! ## Continued sessions -/

/-- A session has gone on without changing what is committed. -/
structure Continued (before after : Session) : Prop where
  bank : after.desk.bank = { before.desk.bank with sources := after.sources }
  sources : before.sources.Precedes after.sources
  locked : after.locked = before.locked
  undone : before.undoneBy.isSome → after.undoneBy.isSome
  barred : before.locked = true → before.pending = none → after.pending = none
  held : before.pending.isSome → after.undoneBy = none → after.pending.isSome

/-- What was undone stays so, and a session that was not undone had not been undone before. -/
theorem usable_before
    {before after : Session}
    (stays : before.undoneBy.isSome → after.undoneBy.isSome)
    (usable : after.undoneBy = none) :
    before.undoneBy = none := by
  cases undone : before.undoneBy with
  | none => rfl
  | some failure =>
      have undoneLater := stays (by simp [undone])
      simp [usable] at undoneLater

namespace Continued

theorem refl (session : Session) : Continued session session :=
  ⟨rfl, .refl _, rfl, id, fun _ none => none, fun own _ => own⟩

theorem trans
    {first second third : Session}
    (early : Continued first second)
    (late : Continued second third) :
    Continued first third where
  bank := by rw [late.bank, early.bank]
  sources := early.sources.trans late.sources
  locked := late.locked.trans early.locked
  undone undone := late.undone (early.undone undone)
  barred locked none := late.barred (early.locked.trans locked) (early.barred locked none)
  held own usable := late.held (early.held own (usable_before late.undone usable)) usable

instance : IsPreorder Session Continued where
  refl := refl
  trans _ _ _ := trans

theorem committed
    {before after : Session}
    (continued : Continued before after) :
    after.desk.bank.tables = before.desk.bank.tables := by
  rw [continued.bank]

end Continued

theorem Untouched.continued
    {before after : Session}
    (untouched : Untouched before after) :
    Continued before after where
  bank := by rw [Session.sources, untouched.desk]
  sources := by
    rw [Session.sources, Session.sources, untouched.desk]
    exact .refl _
  locked := untouched.locked
  undone undone := by rwa [untouched.undoneBy]
  barred locked none := (untouched.barred locked).trans none
  held own _ := untouched.held own

/-! ## Evolved sessions -/

/-- The tables that a session sees are sound with respect to its sources. -/
def Sound (session : Session) : Prop :=
  session.tables.Sound session.sources

/-- A session has evolved by writes, if it was not undone. -/
structure Evolved (writes : List Write) (before after : Session) : Prop
    extends Continued before after where
  applied : after.undoneBy = none → after.tables = writes.foldl Write.apply before.tables
  written :
    after.undoneBy = none → before.Sound →
      Written writes before.tables after.tables ∧ ∀ write ∈ writes, write.Drawn after.sources

namespace Evolved

theorem sound
    {writes : List Write}
    {before after : Session}
    (evolved : Evolved writes before after)
    (usable : after.undoneBy = none)
    (sound : before.Sound) :
    after.Sound := by
  rcases evolved.written usable sound with ⟨written, drawn⟩
  exact Tables.Sound.written (sound.mono evolved.sources.accounts) written drawn

theorem trans
    {early late : List Write}
    {first second third : Session}
    (before : Evolved early first second)
    (after : Evolved late second third) :
    Evolved (early ++ late) first third where
  toContinued := before.toContinued.trans after.toContinued
  applied usable := by
    rw [List.foldl_append, after.applied usable, before.applied (usable_before after.undone usable)]
  written usable sound := by
    have usableBetween := usable_before after.undone usable
    rcases before.written usableBetween sound with ⟨earlyWritten, earlyDrawn⟩
    rcases after.written usable (before.sound usableBetween sound) with ⟨lateWritten, lateDrawn⟩
    refine ⟨earlyWritten.append lateWritten, ?_⟩
    intro write member
    rcases List.mem_append.mp member with inEarly | inLate
    · exact (earlyDrawn write inEarly).mono after.sources
    · exact lateDrawn write inLate

/-- A session that was undone has evolved by whatever writes. -/
theorem of_undone
    {before after : Session}
    (continued : Continued before after)
    (undone : after.undoneBy.isSome)
    (writes : List Write) :
    Evolved writes before after where
  toContinued := continued
  applied usable := by simp [usable] at undone
  written usable := by simp [usable] at undone

/-- A session that sees the same tables has evolved by no writes. -/
theorem of_sameTables
    {before after : Session}
    (continued : Continued before after)
    (same : after.tables = before.tables) :
    Evolved [] before after where
  toContinued := continued
  applied _ := same
  written _ _ := ⟨Written.nil_iff.mpr same, by simp⟩

theorem refl (session : Session) : Evolved [] session session :=
  of_sameTables (.refl session) rfl

instance : IsPreorder Session (Evolved []) where
  refl := refl
  trans _ _ _ := trans

end Evolved

theorem Untouched.evolved
    {before after : Session}
    (untouched : Untouched before after) :
    Evolved [] before after :=
  .of_sameTables untouched.continued untouched.tables

/-! ## Spared sessions -/

/-- A session has neither written nor staged anything, if it was not undone. -/
structure Spared (before after : Session) : Prop extends Evolved [] before after where
  staged : after.undoneBy = none → after.staged = before.staged

namespace Spared

theorem trans
    {first second third : Session}
    (early : Spared first second)
    (late : Spared second third) :
    Spared first third where
  toEvolved := early.toEvolved.trans late.toEvolved
  staged usable :=
    (late.staged usable).trans (early.staged (usable_before late.undone usable))

/-- A session that was undone holds nothing any more. -/
theorem of_undone
    {before after : Session}
    (continued : Continued before after)
    (undone : after.undoneBy.isSome) :
    Spared before after where
  toEvolved := .of_undone continued undone []
  staged usable := by simp [usable] at undone

end Spared

theorem Untouched.spared
    {before after : Session}
    (untouched : Untouched before after) :
    Spared before after where
  toEvolved := untouched.evolved
  staged _ := untouched.staged

instance : IsPreorder Session Spared where
  refl session := (Untouched.refl session).spared
  trans _ _ _ := Spared.trans

end Session

end Bookkeeping
