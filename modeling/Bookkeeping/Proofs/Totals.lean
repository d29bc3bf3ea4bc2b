import Bookkeeping.Proofs.Drift
import Bookkeeping.Proofs.Rounding

/-!
# Totals in groups and totals of one account

One pass over all entries counts each of them in the group of its account.  After any
entries every account that has some has exactly one group, whose totals are those of the
account's own entries, however many other entries stand between them.  So the balance
that is found among the groups is the one that is summed for the account alone, and where
no group is found the account has no entries and nothing to sum.

The totals are refused alike on both ways: where one side of them has too many digits to
be compared.
-/

namespace Bookkeeping

/-! ## Values under keys -/

section Keys

variable {Key Value Other : Type} [DecidableEq Key]

theorem lookup_cons_of_ne
    {key first : Key}
    (different : key ≠ first)
    (value : Value)
    (rest : List (Key × Value)) :
    ((first, value) :: rest).lookup key = rest.lookup key := by
  rw [List.lookup_cons, beq_false_of_ne different]

/-- Where no key repeats, a value is found under its key. -/
theorem lookup_eq_some_iff
    {pairs : List (Key × Value)}
    (distinct : (pairs.map Prod.fst).Nodup)
    (key : Key)
    (value : Value) :
    pairs.lookup key = some value ↔ (key, value) ∈ pairs := by
  induction pairs with
  | nil => simp
  | cons pair rest hypothesis =>
      rcases pair with ⟨first, held⟩
      rcases List.nodup_cons.mp distinct with ⟨unique, restDistinct⟩
      rw [List.mem_cons]
      by_cases same : key = first
      · subst same
        have absent : (key, value) ∉ rest :=
          fun member => unique (List.mem_map.mpr ⟨_, member, rfl⟩)
        simp [absent, eq_comm]
      · simp [lookup_cons_of_ne same, same, hypothesis restDistinct]

/-- Where no key repeats, the order of the pairs is of no account. -/
theorem lookup_of_perm
    {left right : List (Key × Value)}
    (rearranged : left.Perm right)
    (distinct : (right.map Prod.fst).Nodup)
    (key : Key) :
    left.lookup key = right.lookup key := by
  have distinctLeft := (rearranged.map Prod.fst).nodup_iff.mpr distinct
  ext value
  rw [lookup_eq_some_iff distinctLeft, lookup_eq_some_iff distinct, rearranged.mem_iff]

theorem lookup_map_value (convert : Value → Other) (pairs : List (Key × Value)) (key : Key) :
    (pairs.map fun pair => (pair.1, convert pair.2)).lookup key =
      (pairs.lookup key).map convert := by
  induction pairs with
  | nil => rfl
  | cons pair rest hypothesis =>
      rw [List.map_cons, List.lookup_cons, List.lookup_cons, hypothesis]
      split
      · rfl
      · rfl

end Keys

namespace Totals

/-! ## One more entry -/

/-- The totals of entries with one more behind them are theirs with that one added. -/
theorem ofEntries_append_singleton (entries : List Entry) (entry : Entry) :
    ofEntries (entries ++ [entry]) = (ofEntries entries).add entry := by
  simp [ofEntries, add, Money.total_eq_sum]

/-- Counting an entry changes the group of its account and no other one. -/
theorem lookup_counted
    (groups : List (Identifier × Totals))
    (entry : Entry)
    (account : Identifier) :
    (counted groups entry).lookup account =
      if account = entry.account then some (((groups.lookup account).getD zero).add entry)
      else groups.lookup account := by
  induction groups with
  | nil =>
      rw [counted]
      by_cases same : account = entry.account
      · simp [same]
      · simp [lookup_cons_of_ne same, same]
  | cons group rest hypothesis =>
      rcases group with ⟨first, totals⟩
      rw [counted]
      by_cases found : first = entry.account
      · rw [if_pos found]
        by_cases same : account = entry.account
        · simp [same, found]
        · have other : account ≠ first := fun first => same (first.trans found)
          simp [lookup_cons_of_ne other, same]
      · rw [if_neg found]
        by_cases same : account = first
        · simp [same, found]
        · rw [lookup_cons_of_ne same, lookup_cons_of_ne same, hypothesis]

/-- Counting an entry opens a group for its account, if there was none, at the end. -/
theorem keys_counted (groups : List (Identifier × Totals)) (entry : Entry) :
    (counted groups entry).map Prod.fst =
      if entry.account ∈ groups.map Prod.fst then groups.map Prod.fst
      else groups.map Prod.fst ++ [entry.account] := by
  induction groups with
  | nil => rfl
  | cons group rest hypothesis =>
      rcases group with ⟨first, totals⟩
      rw [counted]
      by_cases found : first = entry.account
      · simp [found]
      · have other : entry.account ≠ first := fun same => found same.symm
        rw [if_neg found]
        simp only [List.map_cons]
        rw [hypothesis]
        by_cases present : entry.account ∈ rest.map Prod.fst
        · rw [if_pos present, if_pos (List.mem_cons_of_mem _ present)]
        · have absent : entry.account ∉ first :: rest.map Prod.fst :=
            fun member => (List.mem_cons.mp member).elim other present
          rw [if_neg present, if_neg absent, List.cons_append]

/-- Counting an entry keeps the groups apart. -/
theorem counted_distinct
    {groups : List (Identifier × Totals)}
    (distinct : (groups.map Prod.fst).Nodup)
    (entry : Entry) :
    ((counted groups entry).map Prod.fst).Nodup := by
  rw [keys_counted]
  split
  · exact distinct
  · rename_i absent
    exact List.nodup_append.mpr
      ⟨distinct, List.nodup_singleton _, by
        intro first present second only same
        rw [List.mem_singleton.mp only] at same
        exact absent (same ▸ present)⟩

/-! ## All entries -/

/-- No account has two groups, whatever was counted. -/
theorem grouped_distinct (entries : List Entry) : ((grouped entries).map Prod.fst).Nodup := by
  have distinct : ((entries.foldl counted []).map Prod.fst).Nodup := by
    induction entries using List.reverseRecOn with
    | nil => exact List.nodup_nil
    | append_singleton earlier entry hypothesis =>
        rw [List.foldl_append]
        exact counted_distinct hypothesis entry
  exact ((sorted_perm _ _).map Prod.fst).nodup_iff.mpr distinct

/-- The group of an account has the totals of the account's own entries. -/
theorem lookup_foldl_counted (entries : List Entry) (account : Identifier) :
    (entries.foldl counted []).lookup account =
      if entries.filter (fun entry => entry.account = account) = [] then none
      else some (ofEntries (entries.filter fun entry => entry.account = account)) := by
  -- The induction is on the last entry, which is the last one to be counted.
  induction entries using List.reverseRecOn with
  | nil => rfl
  | append_singleton earlier entry hypothesis =>
      rw [List.foldl_append, List.foldl_cons, List.foldl_nil, lookup_counted, hypothesis,
        List.filter_append]
      by_cases same : account = entry.account
      · have own : [entry].filter (fun entry => entry.account = account) = [entry] := by
          simp [same]
        have some : earlier.filter (fun entry => entry.account = account) ++ [entry] ≠ [] :=
          List.append_ne_nil_of_right_ne_nil _ (List.cons_ne_nil _ _)
        rw [if_pos same, own, if_neg some, ofEntries_append_singleton]
        by_cases nothing : earlier.filter (fun entry => entry.account = account) = []
        · rw [if_pos nothing, nothing]
          rfl
        · rw [if_neg nothing]
          rfl
      · have none : [entry].filter (fun entry => entry.account = account) = [] := by
          simpa using fun found => same found.symm
        rw [if_neg same, none, List.append_nil]

/-! ## Balances -/

/-- Neither side of the totals is too large to be compared. -/
def AreComparable (totals : Totals) : Prop :=
  totals.credit.IsComparable ∧ totals.debit.IsComparable

instance (totals : Totals) : Decidable totals.AreComparable :=
  inferInstanceAs (Decidable (_ ∧ _))

/-- What is credited less what is debited, or a refusal of totals that are too large. -/
theorem balance_eq (totals : Totals) :
    totals.balance =
      if totals.AreComparable then .ok (totals.credit - totals.debit)
      else .error .decimalOutOfRange := by
  rw [balance, Money.fixed_eq, Money.fixed_eq]
  by_cases credit : totals.credit.IsComparable
  · by_cases debit : totals.debit.IsComparable
    · simp [AreComparable, credit, debit, bind, Except.bind, pure, Except.pure]
    · simp [AreComparable, credit, debit, bind, Except.bind]
  · simp [AreComparable, credit, bind, Except.bind]

/-- The balances of all groups, if none of them is refused. -/
theorem balances_eq (groups : List (Identifier × Totals)) :
    balances groups =
      if ∀ group ∈ groups, group.2.AreComparable then
        .ok (groups.map fun group => (group.1, group.2.credit - group.2.debit))
      else .error .decimalOutOfRange := by
  rw [balances]
  induction groups with
  | nil => rfl
  | cons group rest hypothesis =>
      rcases group with ⟨account, totals⟩
      rw [List.mapM_cons, hypothesis]
      simp only [balance_eq]
      by_cases first : totals.AreComparable
      · by_cases others : ∀ group ∈ rest, group.2.AreComparable
        · have all : ∀ group ∈ (account, totals) :: rest, group.2.AreComparable := by
            simpa [first] using others
          rw [if_pos first, if_pos others, if_pos all]
          rfl
        · have notAll : ¬∀ group ∈ (account, totals) :: rest, group.2.AreComparable := by
            simpa [first] using others
          rw [if_pos first, if_neg others, if_neg notAll]
          rfl
      · have notAll : ¬∀ group ∈ (account, totals) :: rest, group.2.AreComparable :=
          fun all => first (all _ List.mem_cons_self)
        rw [if_neg first, if_neg notAll]
        rfl

end Totals

namespace Tables

variable (tables : Tables)

/-- The group of an account that has entries has the totals of the account. -/
theorem lookup_grouped (account : Identifier) :
    (Totals.grouped tables.entries).lookup account =
      if tables.entriesOfAccount account = [] then none else some (tables.totalsOf account) := by
  have rearranged := sorted_perm
    (fun left right : Identifier × Totals => decide (left.1.number < right.1.number))
    (tables.entries.foldl Totals.counted [])
  have distinct :=
    (rearranged.map Prod.fst).nodup_iff.mp (Totals.grouped_distinct tables.entries)
  rw [Totals.grouped, lookup_of_perm rearranged distinct, Totals.lookup_foldl_counted]
  rfl

theorem totalsOf_of_no_entries
    {tables : Tables}
    {account : Identifier}
    (nothing : tables.entriesOfAccount account = []) :
    tables.totalsOf account = .zero := by
  rw [totalsOf, nothing]
  rfl

/-- All groups can be compared exactly if the totals of every account can be. -/
theorem groups_comparable_iff :
    (∀ group ∈ Totals.grouped tables.entries, group.2.AreComparable) ↔
      ∀ account, (tables.totalsOf account).AreComparable := by
  have found (account : Identifier) (totals : Totals) :=
    lookup_eq_some_iff (Totals.grouped_distinct tables.entries) account totals
  constructor
  · intro all account
    by_cases nothing : tables.entriesOfAccount account = []
    · rw [totalsOf_of_no_entries nothing]
      exact ⟨by decide, by decide⟩
    · have own := tables.lookup_grouped account
      rw [if_neg nothing] at own
      exact all _ ((found account _).mp own)
  · rintro all ⟨account, totals⟩ member
    have own := (found account totals).mpr member
    rw [lookup_grouped] at own
    split at own
    · cases own
    · cases own
      exact all account

/--
Among the balances of all groups is the one that is summed for the account alone; none is
found only where there is nothing to sum.
-/
theorem lookup_balances (account : Identifier) :
    (((Totals.grouped tables.entries).map fun group =>
        (group.1, group.2.credit - group.2.debit)).lookup account).getD 0 =
      tables.calculatedBalance account := by
  rw [lookup_map_value fun totals : Totals => totals.credit - totals.debit,
    lookup_grouped]
  by_cases nothing : tables.entriesOfAccount account = []
  · rw [if_pos nothing, calculatedBalance, totalsOf_of_no_entries nothing]
    rfl
  · rw [if_neg nothing]
    rfl

end Tables

end Bookkeeping
