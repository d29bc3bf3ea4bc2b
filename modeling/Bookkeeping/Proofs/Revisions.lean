import Bookkeeping.Ledger.Revision
import Bookkeeping.Proofs.Sequence

/-!
# What becomes of revisions

Both listeners refuse whatever they hear of.  Updates and deletions of entries that
are written are therefore none at all, and they leave the tables as they are; and a
list of revisions of which neither is left is empty.
-/

namespace Bookkeeping

namespace Revision

/-- Each revision is an update or a deletion. -/
theorem eq_nil
    {revisions : List Revision}
    (noUpdate : updates revisions = [])
    (noDeletion : deletions revisions = []) :
    revisions = [] := by
  cases revisions with
  | nil => rfl
  | cons revision rest =>
      rcases revision with ⟨entry, description | _⟩
      · cases noUpdate
      · cases noDeletion

/-- What is recorded is never nothing. -/
theorem recorded_ne_nil (revision : Revision) (revisions : List Revision) :
    recorded revision revisions ≠ [] := by
  cases revisions with
  | nil => simp [recorded]
  | cons first rest =>
      rw [recorded]
      split
      · simp
      · split
        · simp
        · simp

end Revision

namespace Tables

/-- Without updates the tables stay. -/
@[simp]
theorem updateEntries_nil (tables : Tables) : tables.updateEntries [] = .ok tables :=
  rfl

/-- Without deletions the tables stay. -/
@[simp]
theorem deleteEntries_nil (tables : Tables) : tables.deleteEntries [] = .ok tables := by
  rcases tables with ⟨users, accounts, entries⟩
  simp [deleteEntries, bind, Except.bind, pure, Except.pure]

/-- The listener refuses the first of some updates. -/
theorem updateEntries_cons
    (tables : Tables)
    (entry : Identifier)
    (description : Value)
    (rest : List (Identifier × Value)) :
    tables.updateEntries ((entry, description) :: rest) =
      .error (.immutableEntry entry .update) :=
  rfl

/-- The listener refuses the first of some deletions. -/
theorem deleteEntries_cons (tables : Tables) (entry : Identifier) (rest : List Identifier) :
    tables.deleteEntries (entry :: rest) = .error (.immutableEntry entry .delete) :=
  rfl

theorem updateEntries_refused
    {updates : List (Identifier × Value)}
    (waiting : updates ≠ [])
    (tables : Tables) :
    ∃ entry, tables.updateEntries updates = .error (.immutableEntry entry .update) := by
  rcases List.exists_cons_of_ne_nil waiting with ⟨⟨entry, description⟩, rest, rfl⟩
  exact ⟨entry, tables.updateEntries_cons entry description rest⟩

theorem deleteEntries_refused
    {deletions : List Identifier}
    (waiting : deletions ≠ [])
    (tables : Tables) :
    ∃ entry, tables.deleteEntries deletions = .error (.immutableEntry entry .delete) := by
  rcases List.exists_cons_of_ne_nil waiting with ⟨entry, rest, rfl⟩
  exact ⟨entry, tables.deleteEntries_cons entry rest⟩

theorem updateEntries_ok
    {tables later : Tables}
    {updates : List (Identifier × Value)}
    (written : tables.updateEntries updates = .ok later) :
    updates = [] ∧ later = tables := by
  cases updates with
  | nil => exact ⟨rfl, (Except.ok.inj written).symm⟩
  | cons first rest => cases written

theorem deleteEntries_ok
    {tables later : Tables}
    {deletions : List Identifier}
    (written : tables.deleteEntries deletions = .ok later) :
    deletions = [] ∧ later = tables := by
  cases deletions with
  | nil =>
      rw [deleteEntries_nil] at written
      exact ⟨rfl, (Except.ok.inj written).symm⟩
  | cons first rest => cases written

end Tables

end Bookkeeping
