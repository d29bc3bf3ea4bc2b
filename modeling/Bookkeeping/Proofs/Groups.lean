import Bookkeeping.Proofs.Evolution
import Mathlib.Data.List.Nodup

/-!
# Entries in groups

The entries of a ledger are written by things of some kind, each of which has a group
of its own: it was drawn for it, and all that it writes bears it.  As long as whatever
is added comes under the group that is upcoming, the entries of a group are those of
one thing, or there are none.
-/

namespace Bookkeeping

variable {Item : Type} {group : Item → Identifier} {rows : Item → List Entry}

/-- The entries of tables are those of items, each of which has a group of its own. -/
structure Tables.Grouped
    (group : Item → Identifier)
    (rows : Item → List Entry)
    (tables : Tables)
    (sources : Sources)
    (items : List Item) : Prop where
  entries : tables.entries = items.flatMap rows
  shared : ∀ item ∈ items, ∀ entry ∈ rows item, entry.group = group item
  drawn : ∀ item ∈ items, ∃ count ≤ sources.groups, group item = .drawn .group count
  distinct : (items.map group).Nodup

namespace Tables.Grouped

variable {tables after : Tables} {sources later : Sources} {items : List Item}

/-- Tables without entries are those of no items. -/
theorem nil (blank : tables.entries = []) : tables.Grouped group rows sources [] where
  entries := blank
  shared := by simp
  drawn := by simp
  distinct := List.nodup_nil

/-! ## The entries of one group -/

/-- An item has either all of its entries in a group, or none. -/
theorem filter_rows
    {item : Item}
    (shared : ∀ entry ∈ rows item, entry.group = group item)
    (wanted : Identifier) :
    ((rows item).filter fun entry => entry.group = wanted) =
      if group item = wanted then rows item else [] := by
  split
  · rename_i same
    apply List.filter_eq_self.mpr
    intro entry member
    rw [shared entry member, same]
    exact decide_eq_true rfl
  · rename_i different
    apply List.filter_eq_nil_iff.mpr
    intro entry member
    rw [shared entry member]
    simpa using different

theorem filter_absent
    (grouped : tables.Grouped group rows sources items)
    {wanted : Identifier}
    (absent : wanted ∉ items.map group) :
    (tables.entries.filter fun entry => entry.group = wanted) = [] := by
  rw [grouped.entries, List.filter_flatMap, List.flatMap_eq_nil_iff]
  intro item member
  rw [filter_rows (grouped.shared item member), if_neg]
  rintro rfl
  exact absent (List.mem_map_of_mem member)

/-- Of items with different groups, those of one group are the item that has it. -/
theorem flatMap_of_group
    {items : List Item}
    (distinct : (items.map group).Nodup)
    {item : Item}
    (member : item ∈ items) :
    (items.flatMap fun other => if group other = group item then rows other else []) =
      rows item := by
  induction items with
  | nil => cases member
  | cons first rest hypothesis =>
      rw [List.map_cons, List.nodup_cons] at distinct
      rcases distinct with ⟨fresh, distinctRest⟩
      rw [List.flatMap_cons]
      rcases List.mem_cons.mp member with rfl | later
      · have nothing :
            (rest.flatMap fun other => if group other = group item then rows other else []) =
              [] := by
          rw [List.flatMap_eq_nil_iff]
          intro other present
          rw [if_neg]
          intro same
          exact fresh (same ▸ List.mem_map_of_mem present)
        rw [if_pos rfl, nothing, List.append_nil]
      · have different : group first ≠ group item := by
          intro same
          exact fresh (same ▸ List.mem_map_of_mem later)
        rw [if_neg different, List.nil_append]
        exact hypothesis distinctRest later

/-- The entries of an item's group are its own. -/
theorem filter_present
    (grouped : tables.Grouped group rows sources items)
    {item : Item}
    (member : item ∈ items) :
    (tables.entries.filter fun entry => entry.group = group item) = rows item := by
  rw [grouped.entries, List.filter_flatMap]
  calc
    (items.flatMap fun other => (rows other).filter fun entry => entry.group = group item) =
        items.flatMap fun other => if group other = group item then rows other else [] := by
      apply List.flatMap_congr
      intro other present
      exact filter_rows (grouped.shared other present) _
    _ = rows item := flatMap_of_group grouped.distinct member

/-! ## What is added -/

/-- Where no entry is added, the entries stay those of the same items. -/
theorem continued
    (grouped : tables.Grouped group rows sources items)
    (precedes : sources.Precedes later)
    (same : after.entries = tables.entries) :
    after.Grouped group rows later items where
  entries := by rw [same, grouped.entries]
  shared := grouped.shared
  drawn item member := by
    rcases grouped.drawn item member with ⟨count, bound, drawn⟩
    exact ⟨count, Nat.le_trans bound (precedes .group), drawn⟩
  distinct := grouped.distinct

/-- An item under a group that was just drawn is added to the others. -/
theorem added
    {item : Item}
    (grouped : tables.Grouped group rows sources items)
    (shared : ∀ entry ∈ rows item, entry.group = group item)
    (drawn : group item = sources.upcoming .group)
    (advanced : (sources.advance .group).Precedes later)
    (continues : after.entries = tables.entries ++ rows item) :
    after.Grouped group rows later (items ++ [item]) where
  entries := by
    rw [continues, grouped.entries, List.flatMap_append, List.flatMap_singleton]
  shared other member := by
    rcases List.mem_append.mp member with old | new
    · exact grouped.shared other old
    · rw [List.mem_singleton.mp new]
      exact shared
  drawn other member := by
    rcases List.mem_append.mp member with old | new
    · rcases grouped.drawn other old with ⟨count, bound, drawnThen⟩
      have enough : sources.groups + 1 ≤ later.groups := advanced .group
      exact ⟨count, by omega, drawnThen⟩
    · rw [List.mem_singleton.mp new]
      exact ⟨sources.groups + 1, advanced .group, drawn⟩
  distinct := by
    rw [List.map_append, List.map_singleton]
    refine List.nodup_append.mpr ⟨grouped.distinct, List.nodup_singleton _, ?_⟩
    intro early old late new same
    rcases List.mem_map.mp old with ⟨earlier, member, rfl⟩
    rw [List.mem_singleton.mp new, drawn] at same
    rcases grouped.drawn earlier member with ⟨count, bound, drawnThen⟩
    have sameCount : count = sources.groups + 1 :=
      Identifier.drawn_injective .group (drawnThen.symm.trans same)
    omega

end Tables.Grouped

end Bookkeeping
