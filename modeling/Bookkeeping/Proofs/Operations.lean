import Bookkeeping.Proofs.Drift
import Bookkeeping.Proofs.Queries
import Bookkeeping.Scenario.Operation

/-!
# What operations on the store inject

An operator can move a balance without an entry and post an entry without moving a
balance, and so inject a drift that no service ever makes.  An operation that answers
has added to the drift of every account exactly what its arguments say; an operation
that fails has added nothing.  Users that had been staged before are inserted along
with its rows, which adds nothing either.
-/

namespace Bookkeeping

open Session Work

/-! ## What the arguments say -/

namespace StoreOperation

/-- The amount that is kept of a decimal number; there is none where nothing is kept. -/
def kept (decimal : Decimal) : Money :=
  match moneyOf decimal with
  | .ok (some units) => units
  | _ => 0

/-- What an operation adds to the stored balance of an account, if it answers. -/
def deltaOn (account : Identifier) : StoreOperation → Money
  | .moveBalance id delta => if id = account then kept delta else 0
  | _ => 0

/-- What the entry of an operation adds to the calculated balance of an account, if it answers. -/
def effectOn (account : Identifier) : StoreOperation → Money
  | .post id _ _ debit credit _ => if id = account then kept credit - kept debit else 0
  | _ => 0

/-- A number with at most four fractional places is kept as it is, or not at all. -/
theorem moneyOf_fourPlaces
    {negative : Bool}
    {coefficient : Nat}
    {exponent : Int}
    {money? : Option Money}
    (fourPlaces : -4 ≤ exponent)
    (accepted : moneyOf (.finite negative coefficient exponent) = .ok money?) :
    money? =
      some (if negative then -(coefficient * 10 ^ (exponent + 4).toNat : Int)
        else coefficient * 10 ^ (exponent + 4).toNat) := by
  rw [moneyOf, Decimal.fixed?] at accepted
  cases fixed : Decimal.tenThousandths? coefficient exponent with
  | none =>
      rw [fixed] at accepted
      cases accepted
  | some units =>
      rw [fixed] at accepted
      cases accepted
      have sameUnits : units = coefficient * 10 ^ (exponent + 4).toNat := by
        rw [Decimal.tenThousandths?] at fixed
        by_cases zero : coefficient = 0
        · simpa [zero, eq_comm] using fixed
        · simp only [zero, if_false, fourPlaces, if_true] at fixed
          split at fixed
          · cases fixed
          · exact (Option.some.inj fixed).symm
      rw [sameUnits, Money.ofUnits, Nat.cast_mul, Nat.cast_pow, Nat.cast_ofNat]

end StoreOperation

/-! ## Operations that only read -/

namespace StoreOperation

/-- Whether an operation looks at the database at most. -/
def isReading : StoreOperation → Bool
  | .moveBalance _ _ | .openAccount _ _ _ _ | .createUser _ | .addUser _
  | .post _ _ _ _ _ _ | .reviseEntry _ _ _ | .changeEntry _ _ _ | .flush => false
  | _ => true

theorem accountRecord_untouched (account : Account) : Keeps Untouched (accountRecord account) :=
  (seen_untouched account.id account).bind fun _ => Keeps.pure _

theorem entryRecord_untouched (entry : Entry) : Keeps Untouched (entryRecord entry) :=
  (seen_untouched entry.id entry).bind fun _ => Keeps.pure _

theorem userRecord_untouched (user : User) : Keeps Untouched (userRecord user) :=
  (seen_untouched user.id user).bind fun _ => Keeps.pure _

theorem lineOf_untouched (kind : RowKind) (id : Identifier) : Keeps Untouched (lineOf kind id) :=
  view_untouched.bind fun _ => Keeps.bind (fun session => .refl session) fun _ => Keeps.pure _

/-- An operation that only reads leaves the session untouched, whatever becomes of it. -/
theorem perform_untouched
    {operation : StoreOperation}
    (reads : operation.isReading = true) :
    Keeps Untouched operation.perform := by
  cases operation with
  | readAccount id forUpdate =>
      exact (account_untouched id forUpdate).bind accountRecord_untouched
  | readSettlement name forUpdate =>
      exact (settlement_untouched name forUpdate).bind accountRecord_untouched
  | findSettlement name =>
      refine (findSettlement_untouched name).bind fun found? => ?_
      cases found? with
      | some found => exact accountRecord_untouched found
      | none => exact Keeps.pure _
  | accounts =>
      exact accounts_untouched.bind fun rows =>
        (Keeps.mapM accountRecord_untouched rows).bind fun _ => Keeps.pure _
  | accountsOf owner =>
      exact (accountsOf_untouched owner).bind fun rows =>
        (Keeps.mapM accountRecord_untouched rows).bind fun _ => Keeps.pure _
  | readUser id => exact (user_untouched id).bind userRecord_untouched
  | history account limit offset =>
      exact (history_untouched account limit offset).bind fun rows =>
        (Keeps.mapM entryRecord_untouched rows).bind fun _ => Keeps.pure _
  | entriesOfGroup group =>
      exact (entriesOfGroup_untouched group).bind fun rows =>
        (Keeps.mapM entryRecord_untouched rows).bind fun _ => Keeps.pure _
  | calculatedBalance account => exact (calculatedBalance_untouched account).map _
  | calculatedBalances => exact calculatedBalances_untouched.map _
  | readIsolation => exact isolationInForce_untouched.map _
  | line kind id => exact (lineOf_untouched kind id).map _
  | fail failure tellsState => exact Keeps.throw failure
  | _ => cases reads

theorem operationOf_untouched (value : Value) : Keeps Untouched (operationOf value) := by
  rw [operationOf.eq_def]
  split
  · exact orFail_untouched _ _
  · exact (ofExcept_untouched _).bind fun _ => Keeps.throw _

/-- The amount that is kept of what a decimal number gives. -/
theorem kept_eq
    {decimal : Decimal}
    {money? : Option Money}
    (accepted : moneyOf decimal = .ok money?) :
    kept decimal = money?.getD 0 := by
  rw [kept, accepted]
  cases money? with
  | some units => rfl
  | none => rfl

end StoreOperation

/-! ## Work that injects a drift -/

namespace Work

variable {Answer Next : Type} {injected : Identifier → Money}

/-- A session has evolved by writes that inject a drift. -/
def Injected (injected : Identifier → Money) (before after : Session) : Prop :=
  ∃ writes,
    Evolved writes before after ∧ ∀ account, Write.driftOf writes account = injected account

/-- Work that answers has injected a drift, and work that fails has written nothing. -/
abbrev Injects (injected : Identifier → Money) (work : Work Answer) : Prop :=
  Ends (Injected injected) (Evolved []) work

theorem evolved_absorbs : Absorbs Untouched (Evolved []) where
  first looked evolved := looked.evolved.trans evolved
  last evolved looked := evolved.trans looked.evolved

theorem injected_absorbs (injected : Identifier → Money) :
    Absorbs Untouched (Injected injected) where
  first looked := by
    rintro ⟨writes, evolved, sums⟩
    exact ⟨writes, looked.evolved.trans evolved, sums⟩
  last := by
    rintro before middle after ⟨writes, evolved, sums⟩ looked
    have whole := evolved.trans looked.evolved
    rw [List.append_nil] at whole
    exact ⟨writes, whole, sums⟩

/-- Work that writes nothing injects nothing. -/
theorem Injects.of_evolved
    {work : Work Answer}
    (keeps : Keeps (Evolved []) work) :
    Injects (fun _ => 0) work where
  answers answered := ⟨[], keeps.of_ok answered, fun _ => rfl⟩
  fails failed := keeps.of_error failed

theorem moveBalance_injects (id : Identifier) (delta : Money) :
    Injects (fun account => if id = account then delta else 0) (moveBalance id delta) where
  answers moved := by
    refine ⟨[.balance id delta], (moveBalance_ok moved).1, ?_⟩
    intro account
    simp [Write.drift]
  fails failed := (moveBalance_error failed).evolved

theorem openAccount_injects
    (name currency : Value)
    (owner : Option Identifier)
    (isSystem : Bool) :
    Injects (fun _ => 0) (openAccount name currency owner isSystem) where
  answers opened := by
    rcases openAccount_ok opened with ⟨row, _, _, -, -, -, evolved, -⟩
    refine ⟨_, evolved, ?_⟩
    intro account
    simp [Write.drift]
  fails failed := (openAccount_error failed).1.toEvolved

theorem createUser_injects (email : Value) : Injects (fun _ => 0) (createUser email) where
  answers created := by
    refine ⟨_, (createUser_ok created).1, ?_⟩
    intro account
    simp [Write.drift]
  fails failed := (createUser_error failed).1.toEvolved

/-- An entry takes from the drift what its sides add to the calculated balance. -/
theorem post_injects (posting : Posting) :
    Injects
      (fun account =>
        if posting.account = account then -(posting.credit.getD 0 - posting.debit.getD 0) else 0)
      (post posting) where
  answers posted := by
    rcases post_ok posted with ⟨sameRow, evolved, -⟩
    refine ⟨_, evolved, ?_⟩
    intro account
    rw [sameRow, Write.driftOf_cons, Write.driftOf_users, Int.add_zero]
    rfl
  fails failed := (post_error failed).1.toEvolved

/-- The users that waited are not drawn for accounts, and an entry that waited is not written. -/
theorem flushWaiting_injects : Injects (fun _ => 0) flushWaiting where
  answers written := by
    rcases flushWaiting_ok written with ⟨-, -, -, -, -, evolved⟩
    exact ⟨_, evolved, Write.driftOf_users _⟩
  fails failed := (flushWaiting_error failed).1.toEvolved

/-- What comes first may look at the session, and may fail. -/
theorem Injects.reading_bind
    {first : Work Answer}
    {rest : Answer → Work Next}
    (reads : Keeps Untouched first)
    (injects :
      ∀ before answer after, first before = .ok answer after → Injects injected (rest answer)) :
    Injects injected (first >>= rest) :=
  Ends.looking_bind (injected_absorbs injected) evolved_absorbs reads injects

/-- What follows may only look at the session, and has to answer. -/
theorem Injects.bind_total
    {first : Work Answer}
    {rest : Answer → Work Next}
    (injects : Injects injected first)
    (total :
      ∀ answer before,
        ∃ result after, rest answer before = .ok result after ∧ Untouched before after) :
    Injects injected (first >>= rest) :=
  Ends.bind_total (injected_absorbs injected) injects total

end Work

/-! ## What operations inject -/

namespace StoreOperation

theorem movingBalance_injects (id : Identifier) (delta : Decimal) :
    Injects (fun account => if id = account then kept delta else 0) (movingBalance id delta) := by
  refine Injects.reading_bind (ofExcept_untouched _) ?_
  intro before money? after converted
  rcases ofExcept_ok_iff.mp converted with ⟨accepted, -⟩
  cases money? with
  | some units =>
      rw [kept, accepted]
      exact moveBalance_injects id units
  | none =>
      refine Injects.reading_bind view_untouched fun _ tables _ _ => ?_
      refine Injects.reading_bind (orFail_untouched _ _) fun _ found _ _ => ?_
      exact ⟨by simp, fun failed => by rw [(throw_error_iff.mp failed).2]; exact .refl _⟩

theorem posting_injects
    (account group : Identifier)
    (operation : Value)
    (debit credit : Decimal)
    (description : Value) :
    Injects (fun other => if account = other then -(kept credit - kept debit) else 0)
      (posting account group operation debit credit description) := by
  refine Injects.reading_bind (operationOf_untouched operation) fun _ kind _ _ => ?_
  refine Injects.reading_bind (ofExcept_untouched _) fun _ debit? _ convertedDebit => ?_
  refine Injects.reading_bind (ofExcept_untouched _) fun _ credit? _ convertedCredit => ?_
  rw [kept_eq (ofExcept_ok_iff.mp convertedDebit).1, kept_eq (ofExcept_ok_iff.mp convertedCredit).1]
  refine (post_injects ⟨account, group, kind, debit?, credit?, description⟩).bind_total ?_
  intro entry before
  exact ⟨entry, _, rfl, ⟨rfl, rfl, rfl, rfl, rfl, rfl, fun _ => rfl, id⟩⟩

/-- An operation that answers injects what its arguments say, and one that fails nothing. -/
theorem perform_injects (operation : StoreOperation) :
    Injects (fun account => operation.deltaOn account - operation.effectOn account)
      operation.perform := by
  have nothing {work : Work Value} (injects : Injects (fun _ => 0) work) :
      Injects (fun _ => (0 : Money) - 0) work := by
    simpa using injects
  cases operation with
  | moveBalance id delta =>
      have injects : Injects _ (StoreOperation.moveBalance id delta).perform :=
        (movingBalance_injects id delta).map fun _ => Value.null
      simpa [deltaOn, effectOn] using injects
  | openAccount name currency owner isSystem =>
      refine nothing <| (openAccount_injects name currency owner isSystem).bind_total ?_
      exact fun account before => ⟨_, before, rfl, .refl before⟩
  | createUser email =>
      refine nothing <| (createUser_injects email).bind_total ?_
      exact fun user before => ⟨_, before, rfl, .refl before⟩
  | addUser email =>
      exact nothing <| (Injects.of_evolved (addUser_evolved email)).map _
  | post account group operation debit credit description =>
      have injects :
          Injects _
            (StoreOperation.post account group operation debit credit description).perform :=
        (posting_injects account group operation debit credit description).bind_total
          fun entry before => ⟨_, before, rfl, .refl before⟩
      simpa [deltaOn, effectOn, apply_ite Neg.neg] using injects
  | reviseEntry group index amendment =>
      have evolves := (reviseEntry_spared group index amendment).mono fun _ _ => Spared.toEvolved
      exact nothing <| (Injects.of_evolved evolves).map _
  | changeEntry group index amendment =>
      have evolves := (changeEntry_spared group index amendment).mono fun _ _ => Spared.toEvolved
      exact nothing <| (Injects.of_evolved evolves).map _
  | flush => exact nothing <| flushWaiting_injects.map _
  | _ => exact nothing <| Injects.of_evolved (reading_evolved (perform_untouched rfl))

/-- Whatever becomes of an operation, the session goes on without changing what is committed. -/
theorem perform_continued (operation : StoreOperation) : Keeps Continued operation.perform := by
  apply Keeps.intro
  · intro before value after answered
    rcases operation.perform_injects.answers answered with ⟨writes, evolved, -⟩
    exact evolved.toContinued
  · intro before failure after failed
    exact (operation.perform_injects.fails failed).toContinued

end StoreOperation

end Bookkeeping
