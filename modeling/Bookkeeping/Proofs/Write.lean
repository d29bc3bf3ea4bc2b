import Bookkeeping.Ledger.Tables
import Bookkeeping.Sources

/-!
# Writes

The tables change by writes: a row is inserted, or the balance of an account is
moved.  Each insertion that the tables accept is one write that fits them, which
is to say that it keeps the constraints; an insertion that is refused is none.

Whatever happens to the ledger is a list of writes of which each fits the tables
that its predecessors have left.  Such a list never gives an identifier to a second
account and never changes anything of an account but its balance.
-/

namespace Bookkeeping

/-- One change of the tables: a row that is inserted, or a balance that is moved. -/
inductive Write where
  | user (row : User)
  | account (row : Account)
  | entry (row : Entry)
  | balance (id : Identifier) (delta : Money)

namespace Write

/-- The tables after a write. -/
def apply (tables : Tables) : Write → Tables
  | .user row => { tables with users := tables.users ++ [row] }
  | .account row => { tables with accounts := tables.accounts ++ [row] }
  | .entry row => { tables with entries := tables.entries ++ [row] }
  | .balance id delta =>
      { tables with accounts := tables.accounts.map (Tables.movedAccount id delta) }

/-- The condition under which tables accept a write. -/
def Fits (tables : Tables) : Write → Prop
  | .user row => tables.userWithEmail? row.email = none
  | .account row =>
      tables.account? row.id = none ∧ tables.hasOwner row.owner = true ∧ row.balance = 0
  | .entry row => tables.violation? row = none
  | .balance id _ => (tables.account? id).isSome

/-- The identifier of an account that a write inserts was drawn from the sources. -/
def Drawn (sources : Sources) : Write → Prop
  | .account row => ∃ count ≤ sources.accounts, row.id = .drawn .account count
  | _ => True

end Write

/-- Writes that lead from tables to others, each of them fitting what the former ones left. -/
inductive Written : List Write → Tables → Tables → Prop
  | nil (tables : Tables) : Written [] tables tables
  | cons
      {write : Write}
      {rest : List Write}
      {before after : Tables}
      (fits : write.Fits before)
      (others : Written rest (write.apply before) after) :
      Written (write :: rest) before after

namespace Written

@[simp]
theorem nil_iff {before after : Tables} : Written [] before after ↔ after = before := by
  constructor
  · rintro ⟨⟩
    rfl
  · rintro rfl
    exact .nil after

theorem single
    {write : Write}
    {before : Tables}
    (fits : write.Fits before) :
    Written [write] before (write.apply before) :=
  .cons fits (.nil _)

theorem append
    {first second : List Write}
    {before middle after : Tables}
    (early : Written first before middle)
    (late : Written second middle after) :
    Written (first ++ second) before after := by
  induction early with
  | nil tables => exact late
  | cons fits others hypothesis => exact .cons fits (hypothesis late)

/-- The tables after writes are those that result from applying each of them. -/
theorem eq_foldl
    {writes : List Write}
    {before after : Tables}
    (written : Written writes before after) :
    after = writes.foldl Write.apply before := by
  induction written with
  | nil tables => rfl
  | cons fits others hypothesis => exact hypothesis

end Written

/-! ## Texts that are kept -/

/-- Whether the text of a value is kept does not depend on its place in a statement. -/
theorem storedText_place
    {place other : Nat}
    {value : Value}
    {text? : Option String}
    (kept : storedText place value = .ok text?) :
    storedText other value = .ok text? := by
  cases value with
  | decimal number => cases kept
  | list items => cases kept
  | record fields => cases kept
  | _ => exact kept

/-- The text that the database keeps of a value, if it keeps any. -/
def Value.kept? (value : Value) : Option String :=
  match storedText 0 value with
  | .ok text? => text?
  | .error _ => none

theorem Value.kept?_eq
    {place : Nat}
    {value : Value}
    {text? : Option String}
    (kept : storedText place value = .ok text?) :
    value.kept? = text? := by
  have keptThere : storedText 0 value = .ok text? := storedText_place kept
  rw [kept?, keptThere]

/-- A value of which a text is kept is kept at every place of a statement. -/
theorem Value.storedText_of_kept?
    {value : Value}
    {text : String}
    (kept : value.kept? = some text)
    (place : Nat) :
    storedText place value = .ok (some text) := by
  cases stored : storedText 0 value with
  | ok text? =>
      rw [kept?, stored] at kept
      cases kept
      exact storedText_place stored
  | error failure => simp [kept?, stored] at kept

/-- The user that a draft becomes, if the database keeps its address. -/
def UserDraft.row? (draft : UserDraft) : Option User :=
  draft.email.kept?.map fun email => ⟨draft.id, email, draft.createdAt⟩

theorem UserDraft.row?_eq_some
    {draft : UserDraft}
    {user : User}
    (sameId : user.id = draft.id)
    (sameTime : user.createdAt = draft.createdAt)
    {place : Nat}
    (kept : storedText place draft.email = .ok (some user.email)) :
    draft.row? = some user := by
  rw [row?, Value.kept?_eq kept, ← sameId, ← sameTime]
  rfl

/-! ## Accepted insertions -/

namespace Tables

theorem insertUser_ok
    {before after : Tables}
    {draft : UserDraft}
    {user : User}
    (inserted : before.insertUser draft = .ok (user, after)) :
    user.id = draft.id ∧ user.createdAt = draft.createdAt ∧
      storedText 2 draft.email = .ok (some user.email) ∧
      (Write.user user).Fits before ∧ after = (Write.user user).apply before := by
  rw [insertUser] at inserted
  cases kept : storedText 2 draft.email with
  | error failure =>
      rw [kept] at inserted
      cases inserted
  | ok email? =>
      rw [kept] at inserted
      cases email? with
      | none => cases inserted
      | some email =>
          by_cases taken : (before.userWithEmail? email).isSome = true
          · simp [bind, Except.bind, taken] at inserted
          · simp only [bind, Except.bind, taken, Bool.false_eq_true, if_false, Except.ok.injEq,
              Prod.mk.injEq] at inserted
            rcases inserted with ⟨rfl, rfl⟩
            exact ⟨rfl, rfl, rfl, by simpa [Write.Fits] using taken, rfl⟩

/-- Users that are inserted one after the other are writes, one for each of the drafts. -/
theorem insertUsers_ok
    {drafts : List UserDraft}
    {before after : Tables}
    (inserted : before.insertUsers drafts = .ok after) :
    Written ((drafts.filterMap UserDraft.row?).map .user) before after := by
  induction drafts generalizing before with
  | nil =>
      cases inserted
      exact .nil _
  | cons draft rest hypothesis =>
      rw [insertUsers] at inserted
      cases first : before.insertUser draft with
      | error failure =>
          rw [first] at inserted
          cases inserted
      | ok result =>
          rcases result with ⟨user, middle⟩
          rw [first] at inserted
          rcases insertUser_ok first with ⟨sameId, sameTime, kept, fits, rfl⟩
          rw [List.filterMap_cons_some (UserDraft.row?_eq_some sameId sameTime kept)]
          exact .cons fits (hypothesis inserted)

theorem insertAccount_ok
    {before after : Tables}
    {draft : AccountDraft}
    {account : Account}
    (inserted : before.insertAccount draft = .ok (account, after)) :
    (∃ name currency,
      storedText 3 draft.name = .ok (some name) ∧
        storedText 5 (givenCurrency draft.currency) = .ok (some currency) ∧
        account = accountRow draft name currency) ∧
      before.hasOwner draft.owner = true ∧ after = (Write.account account).apply before := by
  rw [insertAccount] at inserted
  cases keptName : storedText 3 draft.name with
  | error failure =>
      rw [keptName] at inserted
      cases inserted
  | ok name? =>
      cases keptCurrency : storedText 5 (givenCurrency draft.currency) with
      | error failure =>
          rw [keptName, keptCurrency] at inserted
          cases inserted
      | ok currency? =>
          rw [keptName, keptCurrency] at inserted
          cases name? with
          | none => cases inserted
          | some name =>
              cases currency? with
              | none => cases inserted
              | some currency =>
                  by_cases owned : before.hasOwner draft.owner = true
                  · simp only [bind, Except.bind, owned, if_true, Except.ok.injEq,
                      Prod.mk.injEq] at inserted
                    rcases inserted with ⟨rfl, rfl⟩
                    exact ⟨⟨name, currency, rfl, rfl, rfl⟩, owned, rfl⟩
                  · simp [bind, Except.bind, owned] at inserted

theorem insertEntry_ok
    {before after : Tables}
    {draft : EntryDraft}
    {entry : Entry}
    (inserted : before.insertEntry draft = .ok (entry, after)) :
    (∃ description,
      storedText 7 draft.description = .ok description ∧ entry = entryRow draft description) ∧
      (Write.entry entry).Fits before ∧ after = (Write.entry entry).apply before := by
  rw [insertEntry] at inserted
  cases kept : storedText 7 draft.description with
  | error failure =>
      rw [kept] at inserted
      cases inserted
  | ok description =>
      rw [kept] at inserted
      simp only [bind, Except.bind] at inserted
      split at inserted
      · cases inserted
      · cases inserted
      · rename_i _ allowed
        simp only [Except.ok.injEq, Prod.mk.injEq] at inserted
        rcases inserted with ⟨rfl, rfl⟩
        exact ⟨⟨description, rfl, rfl⟩, allowed, rfl⟩

theorem moveBalance_some
    {before after : Tables}
    {account : Identifier}
    {delta : Money}
    (moved : before.moveBalance account delta = some after) :
    (Write.balance account delta).Fits before ∧
      after = (Write.balance account delta).apply before := by
  rw [moveBalance] at moved
  by_cases present : (before.account? account).isSome = true
  · simp only [present, if_true, Option.some.injEq] at moved
    exact ⟨present, moved.symm⟩
  · simp [present] at moved

end Tables

end Bookkeeping
