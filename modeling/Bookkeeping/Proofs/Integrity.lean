import Bookkeeping.Proofs.Steps

/-!
# Integrity

Rows enter the tables through several doors: they are inserted at once, or staged and
inserted along with a later row, or inserted when the unit of work commits.  Whichever the
door, a row is a write that fits the tables as they are by then, with the rows that the same
unit of work has inserted before.  So the constraints of the tables hold of every row when it
enters, and they go on to hold: no row is ever removed, and of an account nothing but the
balance changes.

A unit of work that fails leaves no write at all, and therefore no row whose account or
whose owner has vanished.  None of this asks for ordinary steps: an operator may do to the
store whatever the store allows.
-/

namespace Bookkeeping

/-! ## The constraints -/

/-- Neither side is negative, and exactly one of them is positive. -/
structure Entry.OneSided (entry : Entry) : Prop where
  debit : 0 ≤ entry.debit
  credit : 0 ≤ entry.credit
  single : 0 < entry.debit ∧ entry.credit = 0 ∨ entry.debit = 0 ∧ 0 < entry.credit

/-- The constraints hold of all rows of the three tables. -/
structure Tables.Constrained (tables : Tables) : Prop where
  sided : ∀ entry ∈ tables.entries, entry.OneSided
  booked : ∀ entry ∈ tables.entries, ∃ account ∈ tables.accounts, account.id = entry.account
  owned :
    ∀ account ∈ tables.accounts,
      ∀ owner, account.owner = some owner → ∃ user ∈ tables.users, user.id = owner
  distinct : (tables.users.map User.email).Nodup

/-- One side is positive and the other one is zero, so neither is negative. -/
theorem Entry.oneSided_of_isSingleSided
    {entry : Entry}
    (single : Tables.isSingleSided entry = true) :
    entry.OneSided := by
  have sides : 0 < entry.debit ∧ entry.credit = 0 ∨ entry.debit = 0 ∧ 0 < entry.credit := by
    simpa [Tables.isSingleSided] using single
  rcases sides with ⟨positive, nothing⟩ | ⟨nothing, positive⟩
  · exact ⟨Int.le_of_lt positive, Int.le_of_eq nothing.symm, Or.inl ⟨positive, nothing⟩⟩
  · exact ⟨Int.le_of_eq nothing.symm, Int.le_of_lt positive, Or.inr ⟨nothing, positive⟩⟩

namespace Tables

variable {tables after : Tables}

/-- An entry that violates nothing is one-sided, and its account is there. -/
theorem oneSided_of_violation?
    {entry : Entry}
    (fits : tables.violation? entry = none) :
    entry.OneSided ∧ ∃ account ∈ tables.accounts, account.id = entry.account := by
  rw [violation?] at fits
  split at fits
  · cases fits
  split at fits
  · cases fits
  split at fits
  · cases fits
  rename_i single
  split at fits
  · cases fits
  rename_i known
  have sided : isSingleSided entry = true := by simpa using single
  rcases Option.ne_none_iff_exists'.mp (by simpa using known) with ⟨account, found⟩
  exact ⟨Entry.oneSided_of_isSingleSided sided, account, account?_eq_some found⟩

/-- The owner of an account that may be inserted is there. -/
theorem user_of_hasOwner
    {owner : Identifier}
    (has : tables.hasOwner (some owner) = true) :
    ∃ user ∈ tables.users, user.id = owner := by
  rcases Option.isSome_iff_exists.mp has with ⟨user, found⟩
  exact ⟨user, List.mem_of_find?_eq_some found, by simpa using List.find?_some found⟩

/-! ## What writes keep -/

namespace Constrained

theorem user
    {row : User}
    (constrained : tables.Constrained)
    (fits : (Write.user row).Fits tables) :
    ((Write.user row).apply tables).Constrained where
  sided := constrained.sided
  booked := constrained.booked
  owned account member owner owns := by
    rcases constrained.owned account member owner owns with ⟨user, present, same⟩
    exact ⟨user, List.mem_append_left _ present, same⟩
  distinct := by
    change ((tables.users ++ [row]).map User.email).Nodup
    rw [List.map_append, List.map_singleton]
    refine List.nodup_append.mpr ⟨constrained.distinct, List.nodup_singleton _, ?_⟩
    intro email taken other new same
    rcases List.mem_map.mp taken with ⟨user, member, rfl⟩
    rw [List.mem_singleton.mp new] at same
    have free := List.find?_eq_none.mp fits user member
    exact free (decide_eq_true same)

theorem account
    {row : Account}
    (constrained : tables.Constrained)
    (fits : (Write.account row).Fits tables) :
    ((Write.account row).apply tables).Constrained where
  sided := constrained.sided
  booked entry member := by
    rcases constrained.booked entry member with ⟨account, present, same⟩
    exact ⟨account, List.mem_append_left _ present, same⟩
  owned account member owner owns := by
    rcases List.mem_append.mp member with old | new
    · exact constrained.owned account old owner owns
    · rw [List.mem_singleton.mp new] at owns
      have exists? := fits.2.1
      rw [owns] at exists?
      exact user_of_hasOwner exists?
  distinct := constrained.distinct

theorem entry
    {row : Entry}
    (constrained : tables.Constrained)
    (fits : (Write.entry row).Fits tables) :
    ((Write.entry row).apply tables).Constrained where
  sided entry member := by
    rcases List.mem_append.mp member with old | new
    · exact constrained.sided entry old
    · rw [List.mem_singleton.mp new]
      exact (oneSided_of_violation? fits).1
  booked entry member := by
    rcases List.mem_append.mp member with old | new
    · exact constrained.booked entry old
    · rw [List.mem_singleton.mp new]
      exact (oneSided_of_violation? fits).2
  owned := constrained.owned
  distinct := constrained.distinct

/-- A balance that is moved leaves the identifier and the owner of its account alone. -/
theorem balance
    (constrained : tables.Constrained)
    (id : Identifier)
    (delta : Money) :
    ((Write.balance id delta).apply tables).Constrained where
  sided := constrained.sided
  booked entry member := by
    rcases constrained.booked entry member with ⟨account, present, same⟩
    exact
      ⟨movedAccount id delta account, List.mem_map_of_mem present,
        (movedAccount_id id delta account).trans same⟩
  owned account member owner owns := by
    rcases List.mem_map.mp member with ⟨earlier, present, rfl⟩
    rw [(movedAccount_continues id delta earlier).owner] at owns
    exact constrained.owned earlier present owner owns
  distinct := constrained.distinct

theorem apply
    {write : Write}
    (constrained : tables.Constrained)
    (fits : write.Fits tables) :
    (write.apply tables).Constrained := by
  cases write with
  | user row => exact constrained.user fits
  | account row => exact constrained.account fits
  | entry row => exact constrained.entry fits
  | balance id delta => exact constrained.balance id delta

theorem written
    {writes : List Write}
    (constrained : tables.Constrained)
    (written : Written writes tables after) :
    after.Constrained := by
  induction written with
  | nil => exact constrained
  | cons fits others hypothesis => exact hypothesis (constrained.apply fits)

end Constrained

end Tables

/-! ## Every run -/

/-- Whatever steps are taken, at a sound bank whose rows keep the constraints they go on to. -/
theorem Desk.after_constrained
    {desk : Desk}
    (sound : desk.bank.Sound)
    (constrained : desk.bank.tables.Constrained)
    (steps : List Step) :
    (desk.after steps).bank.tables.Constrained := by
  rcases desk.after_injects steps sound with ⟨writes, progress, -⟩
  exact constrained.written progress.written

namespace Opening

/-- A bank opens without users and entries, and nobody owns the account that it may have. -/
theorem bank_constrained (settings : Settings) (isMigrated : Bool) :
    (bank settings isMigrated).tables.Constrained where
  sided := by simp [bank_entries settings isMigrated]
  booked := by simp [bank_entries settings isMigrated]
  owned account member owner owns := by
    cases isMigrated with
    | false => cases member
    | true =>
        rw [List.mem_singleton.mp member] at owns
        cases owns
  distinct := by
    cases isMigrated with
    | false => exact List.nodup_nil
    | true => exact List.nodup_nil

/--
After every run, of steps of any kind, every entry is one-sided and belongs to an account,
every account that has an owner belongs to a user, and no two users share an address.
-/
theorem rows_keep_constraints (settings : Settings) (isMigrated : Bool) (steps : List Step) :
    let tables := (after settings isMigrated steps).bank.tables
    (∀ entry ∈ tables.entries,
        0 ≤ entry.debit ∧ 0 ≤ entry.credit ∧
          (0 < entry.debit ∧ entry.credit = 0 ∨ entry.debit = 0 ∧ 0 < entry.credit) ∧
          ∃ account ∈ tables.accounts, account.id = entry.account) ∧
      (∀ account ∈ tables.accounts,
        account.owner = none ∨ ∃ user ∈ tables.users, account.owner = some user.id) ∧
      (tables.users.map User.email).Nodup := by
  intro tables
  have constrained : tables.Constrained :=
    Desk.after_constrained (bank_sound settings isMigrated) (bank_constrained settings isMigrated)
      steps
  refine ⟨?_, ?_, constrained.distinct⟩
  · intro entry member
    have sided := constrained.sided entry member
    exact ⟨sided.debit, sided.credit, sided.single, constrained.booked entry member⟩
  · intro account member
    cases owns : account.owner with
    | none => exact Or.inl rfl
    | some owner =>
        rcases constrained.owned account member owner owns with ⟨user, present, rfl⟩
        exact Or.inr ⟨user, present, rfl⟩

end Opening

end Bookkeeping
