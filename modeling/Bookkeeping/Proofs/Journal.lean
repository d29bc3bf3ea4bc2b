import Bookkeeping.Proofs.Groups
import Bookkeeping.Proofs.Run

/-!
# The journal

The entries of a ledger on which only calls and requests were performed are those of
movements, one after the other.  Each movement has a group of its own, since the
identifier of the group was drawn for it, and its two entries were inserted together
or not at all.  So the entries that share a group are the two of one movement, and
what was true of its accounts when they were written is true of them ever after.
-/

namespace Bookkeeping

/-- The entries of tables are those of proper movements, each of which has a group of its own. -/
structure Tables.Journaled
    (tables : Tables)
    (sources : Sources)
    (movements : List Movement) : Prop
    extends Tables.Grouped Movement.group Movement.entries tables sources movements where
  proper : ∀ movement ∈ movements, movement.Proper tables

/-- Both entries of a proper movement bear its group. -/
theorem Movement.Proper.group_of_mem
    {movement : Movement}
    {tables : Tables}
    (proper : movement.Proper tables)
    {entry : Entry}
    (member : entry ∈ movement.entries) :
    entry.group = movement.group := by
  have either : entry = movement.debited ∨ entry = movement.credited := by
    rw [entries] at member
    split at member
    · rcases List.mem_pair.mp member with same | same
      · exact Or.inr same
      · exact Or.inl same
    · exact List.mem_pair.mp member
  rcases either with rfl | rfl
  · rfl
  · exact proper.group

namespace Tables.Journaled

variable {tables : Tables} {sources : Sources} {movements : List Movement}

/-- The entries that share the group of an entry are those of one movement. -/
theorem movement_of_entry
    (journaled : tables.Journaled sources movements)
    {entry : Entry}
    (posted : entry ∈ tables.entries) :
    ∃ movement ∈ movements,
      (tables.entries.filter fun other => other.group = entry.group) = movement.entries := by
  rw [journaled.entries] at posted
  rcases List.mem_flatMap.mp posted with ⟨movement, member, inMovement⟩
  refine ⟨movement, member, ?_⟩
  rw [journaled.shared movement member entry inMovement]
  exact journaled.filter_present member

/-! ## What every deed keeps -/

/-- Writes that insert no entry leave the journal as it is. -/
theorem written
    {writes : List Write}
    {after : Tables}
    {later : Sources}
    (journaled : tables.Journaled sources movements)
    (written : Written writes tables after)
    (precedes : sources.Precedes later)
    (sameEntries : after.entries = tables.entries) :
    after.Journaled later movements where
  toGrouped := journaled.continued precedes sameEntries
  proper movement member := (journaled.proper movement member).written written

/-- A movement under a group that was just drawn continues the journal. -/
theorem moved
    {movement : Movement}
    {after : Tables}
    {later : Sources}
    (journaled : tables.Journaled sources movements)
    (proper : movement.Proper tables)
    (drawn : movement.group = sources.upcoming .group)
    (advanced : (sources.advance .group).Precedes later)
    (written : Written movement.writes tables after) :
    after.Journaled later (movements ++ [movement]) where
  toGrouped := by
    apply journaled.added (fun entry => proper.group_of_mem) drawn advanced
    rw [proper.after_eq written]
  proper other member := by
    rcases List.mem_append.mp member with old | new
    · exact (journaled.proper other old).written written
    · rw [List.mem_singleton.mp new]
      exact proper.written written

end Tables.Journaled

/-- Every deed continues the journal by one movement at most. -/
theorem Deed.journaled
    {before after : Tables}
    {earlier later : Sources}
    {writes : List Write}
    {movements : List Movement}
    (deed : Deed before earlier later writes)
    (written : Written writes before after)
    (precedes : earlier.Precedes later)
    (journaled : before.Journaled earlier movements) :
    ∃ movements, after.Journaled later movements := by
  cases deed with
  | nothing => exact ⟨movements, journaled.written written precedes (by simp [written.entries])⟩
  | registration row =>
      exact
        ⟨movements,
          journaled.written written precedes (by simp [written.entries, Write.posted?])⟩
  | opening serves owned =>
      exact
        ⟨movements,
          journaled.written written precedes (by simp [written.entries, Write.posted?])⟩
  | seeding settles unowned absent =>
      exact
        ⟨movements,
          journaled.written written precedes (by simp [written.entries, Write.posted?])⟩
  | @movement movement proper covered drawn advanced =>
      exact ⟨movements ++ [movement], journaled.moved proper drawn advanced written⟩

/-! ## Every run -/

namespace Opening

theorem bank_journaled (settings : Settings) (isMigrated : Bool) :
    (bank settings isMigrated).tables.Journaled (bank settings isMigrated).sources [] where
  toGrouped := .nil (bank_entries settings isMigrated)
  proper := by simp

/-- After every run of ordinary steps the entries are those of proper movements. -/
theorem after_journaled
    (settings : Settings)
    (isMigrated : Bool)
    {steps : List Step}
    (ordinary : ∀ step ∈ steps, step.isOrdinary = true) :
    ∃ movements,
      (after settings isMigrated steps).bank.tables.Journaled
        (after settings isMigrated steps).bank.sources movements := by
  have kept :
      Bank.IsKept fun bank => ∃ movements, bank.tables.Journaled bank.sources movements := by
    rintro before after writes - ⟨movements, journaled⟩ deed progress
    exact deed.journaled progress.written progress.sources journaled
  exact after_keeps kept settings isMigrated ⟨[], bank_journaled settings isMigrated⟩ ordinary

/--
After every run of ordinary steps the entries that share the group of an entry are
the two of one movement, and that movement is proper.
-/
theorem entries_of_one_group
    (settings : Settings)
    (isMigrated : Bool)
    {steps : List Step}
    (ordinary : ∀ step ∈ steps, step.isOrdinary = true)
    {entry : Entry}
    (posted : entry ∈ (after settings isMigrated steps).bank.tables.entries) :
    ∃ movement : Movement,
      ((after settings isMigrated steps).bank.tables.entries.filter fun other =>
          other.group = entry.group) = movement.entries ∧
        movement.Proper (after settings isMigrated steps).bank.tables := by
  have kept :
      Bank.IsKept fun bank => ∃ movements, bank.tables.Journaled bank.sources movements := by
    intro before after writes sound holds deed progress
    rcases holds with ⟨movements, journaled⟩
    exact deed.journaled progress.written progress.sources journaled
  rcases after_keeps kept settings isMigrated ⟨[], bank_journaled settings isMigrated⟩ ordinary with
    ⟨movements, journaled⟩
  rcases journaled.movement_of_entry posted with ⟨movement, member, same⟩
  exact ⟨movement, same, journaled.proper movement member⟩

/-- The rule at work: the deposit of the sample is a movement of two entries. -/
theorem entries_of_sample :
    ∃ entry ∈ (after Sample.settings true Sample.steps).bank.tables.entries,
      entry.account = Sample.savings ∧ entry.operation = .deposit ∧
        ∃ movement : Movement,
          ((after Sample.settings true Sample.steps).bank.tables.entries.filter fun other =>
              other.group = entry.group) = movement.entries ∧
            movement.Proper (after Sample.settings true Sample.steps).bank.tables := by
  have deposited :
      ∃ entry ∈ (after Sample.settings true Sample.steps).bank.tables.entries,
        entry.account = Sample.savings ∧ entry.operation = .deposit := by
    decide +kernel
  rcases deposited with ⟨entry, posted, saved, deposits⟩
  exact
    ⟨entry, posted, saved, deposits,
      entries_of_one_group Sample.settings true Sample.steps_ordinary posted⟩

end Opening

end Bookkeeping
