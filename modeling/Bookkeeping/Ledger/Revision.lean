import Bookkeeping.Ledger.Tables

/-!
# Revisions of posted entries

A posted entry can be described anew or marked for removal in memory.  Such a
revision is meant to reach the database with the next rows that are written: as an
update of the entry or as its deletion.  A listener is asked before either of
them, and both listeners refuse, so that an entry stays as it was posted.
-/

namespace Bookkeeping

/-- What is done to a posted entry in memory. -/
inductive Amendment where
  /-- It is described anew. -/
  | describe (description : Value)
  /-- It is marked for removal. -/
  | remove

/-- What two amendments come to: what is marked for removal stays so. -/
def Amendment.followedBy : Amendment → Amendment → Amendment
  | .describe _, later => later
  | .remove, _ => .remove

/-- A posted entry with what is done to it. -/
structure Revision where
  entry : Identifier
  amendment : Amendment

namespace Revision

/-- Revisions with one more of them, in the order of the entries and one for each entry. -/
def recorded (revision : Revision) : List Revision → List Revision
  | [] => [revision]
  | first :: rest =>
    if first.entry = revision.entry then
      ⟨first.entry, first.amendment.followedBy revision.amendment⟩ :: rest
    else if first.entry.number < revision.entry.number then first :: recorded revision rest
    else revision :: first :: rest

/-- The entries that are to be updated, with their descriptions. -/
def updates (revisions : List Revision) : List (Identifier × Value) :=
  revisions.filterMap fun revision =>
    match revision.amendment with
    | .describe description => some (revision.entry, description)
    | .remove => none

/-- The entries that are to be deleted. -/
def deletions (revisions : List Revision) : List Identifier :=
  revisions.filterMap fun revision =>
    match revision.amendment with
    | .describe _ => none
    | .remove => some revision.entry

/-! ## Listeners -/

/-- What listens before an update of a posted entry. -/
def beforeUpdate (entry : Identifier) : Except Failure Unit :=
  .error (.immutableEntry entry .update)

/-- What listens before a deletion of a posted entry. -/
def beforeDelete (entry : Identifier) : Except Failure Unit :=
  .error (.immutableEntry entry .delete)

end Revision

/-! ## Writing revisions -/

namespace Tables

/-- The tables with another description of an entry. -/
def describeEntry (tables : Tables) (id : Identifier) (description : Value) :
    Except Failure Tables := do
  let kept ← storedText 1 description
  let described (entry : Entry) : Entry :=
    if entry.id = id then { entry with description := kept } else entry
  return { tables with entries := tables.entries.map described }

/-- The tables with some entries updated; first all of the updates are listened to. -/
def updateEntries (tables : Tables) (updates : List (Identifier × Value)) :
    Except Failure Tables := do
  updates.forM fun (entry, _) => Revision.beforeUpdate entry
  updates.foldlM (fun tables (entry, description) => tables.describeEntry entry description) tables

/-- The tables with some entries deleted; first all of the deletions are listened to. -/
def deleteEntries (tables : Tables) (deletions : List Identifier) : Except Failure Tables := do
  deletions.forM Revision.beforeDelete
  return { tables with
    entries := tables.entries.filter fun entry => !deletions.contains entry.id }

end Tables

end Bookkeeping
