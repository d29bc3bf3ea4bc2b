/-!
# Divided text

The parts of a text between the occurrences of a divider.  There is one part
more than there are dividers, and the parts with the divider between them give
the text back.
-/

namespace Bookkeeping.Text

/-- The parts of a text between dividers. -/
def divided (divider : Char) : List Char → List (List Char)
  | [] => [[]]
  | character :: rest =>
    if character = divider then [] :: divided divider rest
    else
      match divided divider rest with
      | [] => [[character]]
      | first :: others => (character :: first) :: others

theorem divided_ne_nil (divider : Char) (characters : List Char) :
    divided divider characters ≠ [] := by
  cases characters with
  | nil => simp [divided]
  | cons character rest =>
    rw [divided]
    split
    · simp
    · split <;> simp

/-- The parts with the divider between them give the text back. -/
theorem intercalate_divided (divider : Char) (characters : List Char) :
    List.intercalate [divider] (divided divider characters) = characters := by
  induction characters with
  | nil => rfl
  | cons character rest hypothesis =>
    rw [divided]
    split
    · rename_i same
      cases parts : divided divider rest with
      | nil => exact absurd parts (divided_ne_nil divider rest)
      | cons first others =>
        rw [parts] at hypothesis
        simp [List.intercalate_cons_cons, hypothesis, same]
    · split
      · rename_i parts
        exact absurd parts (divided_ne_nil divider rest)
      · rename_i first others parts
        rw [parts] at hypothesis
        cases others <;> simp_all [List.intercalate]

end Bookkeeping.Text
