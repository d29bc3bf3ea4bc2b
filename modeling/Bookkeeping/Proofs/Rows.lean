import Bookkeeping.Proofs.Write
import Mathlib.Data.List.Nodup

/-!
# Rows that stay

What writes leave of the rows that were there before.  An account that can be
looked up can be looked up ever after, and it differs from what it was by its
balance at most; the entries are never anything but continued.

Identifiers of accounts are drawn from the sources, and none is drawn twice.
Tables in which this holds are called sound with respect to the sources.  In
sound tables each account is the one that is looked up by its identifier.
-/

namespace Bookkeeping

/-- One account is another one at a later time: it differs by its balance at most. -/
def Account.Continues (later earlier : Account) : Prop :=
  later = { earlier with balance := later.balance }

namespace Account.Continues

variable {first second third : Account}

@[simp]
theorem refl (account : Account) : account.Continues account :=
  rfl

theorem trans
    (late : third.Continues second)
    (early : second.Continues first) :
    third.Continues first := by
  rw [Account.Continues] at late early ⊢
  rw [late, early]

theorem id (continues : second.Continues first) : second.id = first.id := by
  rw [continues]

theorem owner (continues : second.Continues first) : second.owner = first.owner := by
  rw [continues]

theorem name (continues : second.Continues first) : second.name = first.name := by
  rw [continues]

theorem currency (continues : second.Continues first) :
    second.currency = first.currency := by
  rw [continues]

theorem isSystem (continues : second.Continues first) :
    second.isSystem = first.isSystem := by
  rw [continues]

end Account.Continues

namespace Tables

theorem movedAccount_continues
    (id : Identifier)
    (delta : Money)
    (account : Account) :
    (movedAccount id delta account).Continues account := by
  rw [movedAccount]
  split
  · rfl
  · rfl

@[simp]
theorem movedAccount_id
    (id : Identifier)
    (delta : Money)
    (account : Account) :
    (movedAccount id delta account).id = account.id :=
  (movedAccount_continues id delta account).id

/-- A movement of a balance adds to the balance of one account, and nothing to the others. -/
theorem movedAccount_eq
    (id : Identifier)
    (delta : Money)
    (account : Account) :
    movedAccount id delta account =
      { account with balance := account.balance + if account.id = id then delta else 0 } := by
  rw [movedAccount]
  split
  · rfl
  · simp

/-- Balances are moved by addition, so the order of two movements does not matter. -/
theorem movedAccount_comm
    (first second : Identifier)
    (firstDelta secondDelta : Money)
    (account : Account) :
    movedAccount first firstDelta (movedAccount second secondDelta account) =
      movedAccount second secondDelta (movedAccount first firstDelta account) := by
  simp only [movedAccount_eq]
  rw [Int.add_right_comm]

/-! ## Looking up accounts -/

theorem account?_eq_some
    {tables : Tables}
    {id : Identifier}
    {account : Account}
    (found : tables.account? id = some account) :
    account ∈ tables.accounts ∧ account.id = id :=
  ⟨List.mem_of_find?_eq_some found, by simpa using List.find?_some found⟩

/-- Where accounts have identifiers of their own, each is found under its identifier. -/
theorem account?_of_distinct
    {tables : Tables}
    (distinct : (tables.accounts.map Account.id).Nodup)
    {account : Account}
    (member : account ∈ tables.accounts) :
    tables.account? account.id = some account := by
  cases found : tables.account? account.id with
  | none =>
      have absent := List.find?_eq_none.mp found account member
      simp at absent
  | some other =>
      rcases account?_eq_some found with ⟨otherMember, sameId⟩
      rw [List.inj_on_of_nodup_map distinct otherMember member sameId]

theorem settlement?_eq_some
    {tables : Tables}
    {name : String}
    {account : Account}
    (found : tables.settlement? name = some account) :
    account ∈ tables.accounts ∧ account.isSystem = true ∧ account.name = name :=
  ⟨List.mem_of_find?_eq_some found, by simpa using List.find?_some found⟩

end Tables

namespace Write

@[simp]
theorem account?_user (tables : Tables) (row : User) (id : Identifier) :
    ((Write.user row).apply tables).account? id = tables.account? id :=
  rfl

@[simp]
theorem account?_entry (tables : Tables) (row : Entry) (id : Identifier) :
    ((Write.entry row).apply tables).account? id = tables.account? id :=
  rfl

theorem account?_account (tables : Tables) (row : Account) (id : Identifier) :
    ((Write.account row).apply tables).account? id =
      (tables.account? id).or (if row.id = id then some row else none) := by
  simp only [Write.apply, Tables.account?, List.find?_append]
  congr 1
  by_cases same : row.id = id <;> simp [same]

theorem account?_balance
    (tables : Tables)
    (moved id : Identifier)
    (delta : Money) :
    ((Write.balance moved delta).apply tables).account? id =
      (tables.account? id).map (Tables.movedAccount moved delta) := by
  simp only [Write.apply, Tables.account?, List.find?_map]
  congr 2
  funext account
  simp

/-- An account that can be looked up still can after a write, and is the same one. -/
theorem account?_continues
    (write : Write)
    {tables : Tables}
    {id : Identifier}
    {earlier : Account}
    (found : tables.account? id = some earlier) :
    ∃ later, (write.apply tables).account? id = some later ∧ later.Continues earlier := by
  cases write with
  | user row => exact ⟨earlier, found, .refl earlier⟩
  | account row => exact ⟨earlier, by simp [account?_account, found], .refl earlier⟩
  | entry row => exact ⟨earlier, found, .refl earlier⟩
  | balance moved delta =>
      exact
        ⟨Tables.movedAccount moved delta earlier, by simp [account?_balance, found],
          Tables.movedAccount_continues moved delta earlier⟩

/-- The entry that a write inserts, if it inserts one. -/
def posted? : Write → Option Entry
  | .entry row => some row
  | _ => none

theorem apply_entries (write : Write) (tables : Tables) :
    (write.apply tables).entries = tables.entries ++ write.posted?.toList := by
  cases write <;> simp [Write.apply, posted?]

end Write

namespace Written

variable {writes : List Write} {before after : Tables}

/-- An account that can be looked up still can after writes, and is the same one. -/
theorem account?_continues
    (written : Written writes before after)
    {id : Identifier}
    {earlier : Account}
    (found : before.account? id = some earlier) :
    ∃ later, after.account? id = some later ∧ later.Continues earlier := by
  induction written generalizing earlier with
  | nil tables => exact ⟨earlier, found, .refl earlier⟩
  | @cons write rest before after fits others hypothesis =>
      rcases write.account?_continues found with ⟨middle, foundThen, early⟩
      rcases hypothesis foundThen with ⟨later, foundLast, late⟩
      exact ⟨later, foundLast, late.trans early⟩

/-- The entries are continued by those that the writes insert. -/
theorem entries (written : Written writes before after) :
    after.entries = before.entries ++ writes.filterMap Write.posted? := by
  induction written with
  | nil tables => simp
  | @cons write rest before after fits others hypothesis =>
      rw [hypothesis, write.apply_entries, List.append_assoc, List.filterMap_cons]
      congr 1
      cases write.posted? <;> rfl

end Written

/-! ## Soundness -/

/-- The identifiers of the accounts were drawn from the sources, and each belongs to one. -/
structure Tables.Sound (sources : Sources) (tables : Tables) : Prop where
  drawn :
    ∀ account ∈ tables.accounts,
      ∃ count ≤ sources.accounts, account.id = .drawn .account count
  distinct : (tables.accounts.map Account.id).Nodup

namespace Tables.Sound

variable {sources : Sources} {tables : Tables}

theorem account?_of_mem
    (sound : tables.Sound sources)
    {account : Account}
    (member : account ∈ tables.accounts) :
    tables.account? account.id = some account :=
  account?_of_distinct sound.distinct member

/-- What the sources draw next belongs to no account. -/
theorem account?_upcoming (sound : tables.Sound sources) :
    tables.account? (sources.upcoming .account) = none := by
  cases found : tables.account? (sources.upcoming .account) with
  | none => rfl
  | some account =>
      rcases Tables.account?_eq_some found with ⟨member, sameId⟩
      rcases sound.drawn account member with ⟨count, bound, drawn⟩
      have sameCount : count = sources.accounts + 1 :=
        Identifier.drawn_injective .account (drawn.symm.trans sameId)
      omega

theorem mono
    (sound : tables.Sound sources)
    {later : Sources}
    (advanced : sources.accounts ≤ later.accounts) :
    tables.Sound later where
  drawn account member := by
    rcases sound.drawn account member with ⟨count, bound, drawn⟩
    exact ⟨count, Nat.le_trans bound advanced, drawn⟩
  distinct := sound.distinct

/-- A write that fits keeps tables sound if the sources drew what it inserts. -/
theorem apply
    (sound : tables.Sound sources)
    {write : Write}
    (fits : write.Fits tables)
    (drawn : write.Drawn sources) :
    (write.apply tables).Sound sources := by
  cases write with
  | user row => exact ⟨sound.drawn, sound.distinct⟩
  | entry row => exact ⟨sound.drawn, sound.distinct⟩
  | account row =>
      constructor
      · intro account member
        rcases List.mem_append.mp member with old | new
        · exact sound.drawn account old
        · rw [List.mem_singleton.mp new]
          exact drawn
      · simp only [Write.apply, List.map_append, List.map_cons, List.map_nil]
        refine List.nodup_append.mpr ⟨sound.distinct, List.nodup_singleton _, ?_⟩
        intro id member other single same
        rcases List.mem_map.mp member with ⟨account, old, rfl⟩
        rw [List.mem_singleton.mp single] at same
        have absent := List.find?_eq_none.mp fits.1 account old
        simp [same] at absent
  | balance id delta =>
      constructor
      · intro account member
        rcases List.mem_map.mp member with ⟨earlier, old, rfl⟩
        rw [Tables.movedAccount_id]
        exact sound.drawn earlier old
      · have sameIds :
            (tables.accounts.map (Tables.movedAccount id delta)).map Account.id =
              tables.accounts.map Account.id := by
          simp [Function.comp_def]
        simpa only [Write.apply, sameIds] using sound.distinct

theorem written
    {writes : List Write}
    {after : Tables}
    (sound : tables.Sound sources)
    (written : Written writes tables after)
    (drawn : ∀ write ∈ writes, write.Drawn sources) :
    after.Sound sources := by
  induction written with
  | nil tables => exact sound
  | cons fits others hypothesis =>
      exact
        hypothesis
          (sound.apply fits (drawn _ List.mem_cons_self))
          (fun write member => drawn write (List.mem_cons_of_mem _ member))

end Tables.Sound

end Bookkeeping
