import Bookkeeping.Timestamp

/-!
# Lists in order

Rows are listed by the time at which they were made, and rows of the same time
stay in the order in which they were inserted.  The main statements are that
sorting only rearranges, and that no row stands behind one that it has to precede.
-/

namespace Bookkeeping

variable {Row : Type}

/-- Puts a row before the first one that does not have to precede it. -/
def insertSorted (precedes : Row → Row → Bool) (row : Row) : List Row → List Row
  | [] => [row]
  | first :: rest =>
    if precedes first row then first :: insertSorted precedes row rest else row :: first :: rest

/-- The rows in order; rows of which neither has to precede the other keep their order. -/
def sorted (precedes : Row → Row → Bool) (rows : List Row) : List Row :=
  rows.foldr (insertSorted precedes) []

/-- The rows from the earliest to the latest. -/
def oldestFirst (time : Row → Timestamp) (rows : List Row) : List Row :=
  sorted (fun left right => (time left).microseconds < (time right).microseconds) rows

/-- The rows from the latest to the earliest. -/
def newestFirst (time : Row → Timestamp) (rows : List Row) : List Row :=
  sorted (fun left right => (time right).microseconds < (time left).microseconds) rows

theorem insertSorted_perm (precedes : Row → Row → Bool) (row : Row) (rows : List Row) :
    (insertSorted precedes row rows).Perm (row :: rows) := by
  induction rows with
  | nil => exact .refl _
  | cons first rest hypothesis =>
    rw [insertSorted]
    split
    · exact (hypothesis.cons first).trans (.swap row first rest)
    · exact .refl _

/-- Sorting rearranges the rows, and neither loses nor repeats any. -/
theorem sorted_perm (precedes : Row → Row → Bool) (rows : List Row) :
    (sorted precedes rows).Perm rows := by
  induction rows with
  | nil => exact .refl _
  | cons row rest hypothesis =>
    exact (insertSorted_perm precedes row _).trans (hypothesis.cons row)

/-! ## Rows by a key -/

section Key

variable
  {precedes : Row → Row → Bool}
  (key : Row → Int)
  (compares : ∀ left right, precedes left right = true ↔ key left < key right)

include compares in
theorem insertSorted_pairwise
    (row : Row)
    {rows : List Row}
    (inOrder : rows.Pairwise fun earlier later => key earlier ≤ key later) :
    (insertSorted precedes row rows).Pairwise fun earlier later => key earlier ≤ key later := by
  induction rows with
  | nil => exact List.pairwise_singleton _ row
  | cons first rest hypothesis =>
    rcases List.pairwise_cons.mp inOrder with ⟨before, restInOrder⟩
    rw [insertSorted]
    split
    · rename_i goesBehind
      refine List.pairwise_cons.mpr ⟨?_, hypothesis restInOrder⟩
      intro other member
      rcases List.mem_cons.mp ((insertSorted_perm precedes row rest).mem_iff.mp member) with
        rfl | old
      · exact Int.le_of_lt ((compares _ _).mp goesBehind)
      · exact before other old
    · rename_i goesAhead
      have ahead : key row ≤ key first := Int.not_lt.mp (mt (compares first row).mpr goesAhead)
      refine List.pairwise_cons.mpr ⟨?_, inOrder⟩
      intro other member
      rcases List.mem_cons.mp member with rfl | old
      · exact ahead
      · exact Int.le_trans ahead (before other old)

include compares in
/-- Rows that are sorted by a key are in the order of the key. -/
theorem sorted_pairwise (rows : List Row) :
    (sorted precedes rows).Pairwise fun earlier later => key earlier ≤ key later := by
  induction rows with
  | nil => exact List.Pairwise.nil
  | cons row rest hypothesis => exact insertSorted_pairwise key compares row hypothesis

end Key

theorem oldestFirst_pairwise (time : Row → Timestamp) (rows : List Row) :
    (oldestFirst time rows).Pairwise fun earlier later =>
      (time earlier).microseconds ≤ (time later).microseconds := by
  have inOrder := sorted_pairwise (fun row => (time row).microseconds)
    (fun _ _ => decide_eq_true_iff.trans Int.ofNat_lt.symm) rows
  exact inOrder.imp Int.ofNat_le.mp

theorem newestFirst_pairwise (time : Row → Timestamp) (rows : List Row) :
    (newestFirst time rows).Pairwise fun earlier later =>
      (time later).microseconds ≤ (time earlier).microseconds := by
  have inOrder := sorted_pairwise (fun row => -(time row).microseconds)
    (fun _ _ => decide_eq_true_iff.trans (Int.ofNat_lt.symm.trans Int.neg_lt_neg_iff.symm)) rows
  exact inOrder.imp fun ordered => Int.ofNat_le.mp (Int.neg_le_neg_iff.mp ordered)

/-- Two rows of which the second one is not the earlier one are in order. -/
theorem oldestFirst_of_le
    {time : Row → Timestamp}
    {early late : Row}
    (inOrder : (time early).microseconds ≤ (time late).microseconds) :
    oldestFirst time [early, late] = [early, late] := by
  simp [oldestFirst, sorted, insertSorted, Nat.not_lt.mpr inOrder]

end Bookkeeping
