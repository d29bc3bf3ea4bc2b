import Bookkeeping.Proofs.Operations
import Bookkeeping.Proofs.Units

/-!
# What a session holds in prospect

A session does not see the users that it has staged: they are inserted along with its
next row, or when the unit of work commits.  Its prospect is what would be committed
if it ended now, which is the tables that it sees and the staged users after them.

In the prospect it does not matter when the staged users are inserted.  An operation
that answers adds one write of its own to the prospect, which its arguments and the
sources determine, or none if it only reads.  One that fails adds nothing, and if it
failed because the database refused a row it has undone the session.  What a unit of
work commits in the end is the prospect of its session.
-/

namespace Bookkeeping

open Session Work

/-! ## Prospects -/

/-- The tables with more users at their end. -/
def Tables.joined (tables : Tables) (users : List User) : Tables :=
  { tables with users := tables.users ++ users }

theorem Tables.foldl_users (tables : Tables) (users : List User) :
    (users.map Write.user).foldl Write.apply tables = tables.joined users := by
  induction users generalizing tables with
  | nil => simp [joined]
  | cons user rest hypothesis =>
      rw [List.map_cons, List.foldl_cons, hypothesis]
      simp [joined, Write.apply]

namespace Session

variable {before middle after : Session} {writes : List Write}

/-- What the session would commit if it ended now. -/
def prospect (session : Session) : Tables :=
  session.tables.joined session.joining

theorem prospect_of_nothingStaged
    {session : Session}
    (nothingStaged : session.staged = []) :
    session.prospect = session.tables := by
  rw [prospect, joining_eq_nil nothingStaged]
  simp [Tables.joined]

/-- A session has added writes to its prospect, if it was not undone. -/
structure Adds (writes : List Write) (before after : Session) : Prop
    extends Continued before after where
  prospect :
    after.undoneBy = none → after.prospect = writes.foldl Write.apply before.prospect

namespace Adds

theorem trans
    {early late : List Write}
    (first : Adds early before middle)
    (second : Adds late middle after) :
    Adds (early ++ late) before after where
  toContinued := first.toContinued.trans second.toContinued
  prospect usable := by
    rw [List.foldl_append, second.prospect usable,
      first.prospect (usable_before second.undone usable)]

theorem refl (session : Session) : Adds [] session session where
  toContinued := .refl session
  prospect _ := rfl

instance : IsPreorder Session (Adds []) where
  refl := refl
  trans _ _ _ := trans

end Adds

/-- A session that was spared has the same prospect as before. -/
theorem Spared.adds (spared : Spared before after) : Adds [] before after where
  toContinued := spared.toContinued
  prospect usable := by
    have sameTables : after.tables = before.tables := spared.applied usable
    rw [prospect, prospect, joining, joining, spared.staged usable, sameTables]
    rfl

/-- A balance is moved no matter who joins later. -/
theorem Evolved.adds_balance
    {id : Identifier}
    {delta : Money}
    (evolved : Evolved [.balance id delta] before after)
    (sameStaged : after.staged = before.staged) :
    Adds [.balance id delta] before after where
  toContinued := evolved.toContinued
  prospect usable := by
    rw [prospect, joining, sameStaged, evolved.applied usable]
    rfl

/-- What is inserted after all who had been staged comes after them in the prospect. -/
theorem Evolved.adds_behind
    (evolved : Evolved (before.joining.map .user ++ writes) before after)
    (emptied : after.staged = []) :
    Adds writes before after where
  toContinued := evolved.toContinued
  prospect usable := by
    rw [prospect_of_nothingStaged emptied, evolved.applied usable, List.foldl_append,
      Tables.foldl_users]
    rfl

/-- An entry is inserted no matter who is inserted after it. -/
theorem Evolved.adds_ahead
    {entry : Entry}
    (evolved : Evolved (.entry entry :: before.joining.map .user) before after)
    (emptied : after.staged = []) :
    Adds [.entry entry] before after where
  toContinued := evolved.toContinued
  prospect usable := by
    rw [prospect_of_nothingStaged emptied, evolved.applied usable, List.foldl_cons,
      Tables.foldl_users]
    rfl

/-- What a unit of work commits is what the writes of its body have added. -/
theorem Adds.committed_tables
    {locked : Bool}
    {desk : Desk}
    {session final last : Session}
    (fresh : Fresh locked desk session)
    (adds : Adds writes session final)
    (completed : complete final = .ok () last) :
    last.committed.bank.tables = writes.foldl Write.apply desk.bank.tables := by
  rcases complete_ok completed with ⟨usable, usableLast, -, -, evolved⟩
  have whole := evolved.applied usableLast
  rw [Tables.foldl_users] at whole
  rw [Session.committed_tables, whole, ← fresh.tables, ← prospect_of_nothingStaged fresh.staged]
  exact adds.prospect usable

end Session

/-! ## What operations write -/

/-- Whether a failure is about a row that may not be written. -/
def Failure.isOfRow : Failure → Bool
  | .violated _ | .immutableEntry _ _ => true
  | _ => false

namespace StoreOperation

/-- The operation of the ledger that a text names. -/
def named? : Value → Option Operation
  | .text name => Operation.ofText? name
  | _ => none

/-- What an operation writes if it answers: a row that is drawn from the sources, or a balance. -/
def write? (sources : Sources) : StoreOperation → Option Write
  | .moveBalance id delta => some (.balance id (kept delta))
  | .openAccount name currency owner isSystem => do
    let keptName ← name.kept?
    let keptCurrency ← (Tables.givenCurrency currency).kept?
    some <| .account
      { id := sources.upcoming .account
        owner := owner
        name := keptName
        balance := 0
        currency := keptCurrency
        isSystem := isSystem
        createdAt := sources.clock }
  | .createUser email | .addUser email => do
    let keptEmail ← email.kept?
    some <| .user
      { id := sources.upcoming .user
        email := keptEmail
        createdAt := sources.clock }
  | .post account group operation debit credit description => do
    let kind ← named? operation
    some <| .entry
      { id := sources.upcoming .entry
        account := account
        debit := kept debit
        credit := kept credit
        group := group
        operation := kind
        description := description.kept?
        createdAt := sources.clock }
  | _ => none

/-- Whether an operation writes what waits to be written, with a row of its own or without one. -/
def isFlushing : StoreOperation → Bool
  | .openAccount _ _ _ _ | .createUser _ | .post _ _ _ _ _ _ | .changeEntry _ _ _ | .flush => true
  | _ => false

/-- Whether a failure tells that the database has refused to insert or to change a row. -/
def isRefusal (session : Session) : StoreOperation → Failure → Bool
  | .createUser email, .userAlreadyExists _ =>
    email.kept?.all fun email => (session.tables.userWithEmail? email).isNone
  | operation, failure => operation.isFlushing && failure.isOfRow

end StoreOperation

namespace Work

variable {Answer Next : Type} {before after : Session}

/-- A session has added the writes to its prospect that its sources determine. -/
def Wrote (writes : Sources → List Write) (before after : Session) : Prop :=
  Adds (writes before.sources) before after

/-- Work that answers has added writes to the prospect, and work that fails none. -/
abbrev Writes (writes : Sources → List Write) (work : Work Answer) : Prop :=
  Ends (Wrote writes) (Adds []) work

theorem adds_absorbs : Absorbs Untouched (Adds []) where
  first looked adds := looked.spared.adds.trans adds
  last adds looked := adds.trans looked.spared.adds

theorem wrote_absorbs (writes : Sources → List Write) : Absorbs Untouched (Wrote writes) where
  first := by
    intro before middle after looked wrote
    have sameSources : middle.sources = before.sources := by
      rw [Session.sources, Session.sources, looked.desk]
    rw [Wrote, sameSources] at wrote
    exact looked.spared.adds.trans wrote
  last := by
    intro before middle after wrote looked
    have whole := Adds.trans wrote looked.spared.adds
    rwa [List.append_nil] at whole

/-- Work that spares the session writes nothing. -/
theorem Writes.of_spared
    {work : Work Answer}
    (keeps : Keeps Spared work) :
    Writes (fun _ => []) work where
  answers answered := (keeps.of_ok answered).adds
  fails failed := (keeps.of_error failed).adds

theorem Writes.looking_bind
    {writes : Sources → List Write}
    {first : Work Answer}
    {rest : Answer → Work Next}
    (looks : Keeps Untouched first)
    (ends :
      ∀ before answer after, first before = .ok answer after → Writes writes (rest answer)) :
    Writes writes (first >>= rest) :=
  Ends.looking_bind (wrote_absorbs writes) adds_absorbs looks ends

theorem Writes.bind_total
    {writes : Sources → List Write}
    {first : Work Answer}
    {rest : Answer → Work Next}
    (ends : Writes writes first)
    (total :
      ∀ answer before,
        ∃ result after, rest answer before = .ok result after ∧ Untouched before after) :
    Writes writes (first >>= rest) :=
  Ends.bind_total (wrote_absorbs writes) ends total

/-- A user who is staged joins the others. -/
theorem addUser_writes (email : Value) :
    Writes
      (fun sources => ((StoreOperation.addUser email).write? sources).toList)
      (addUser email) where
  answers {before _ after} added := by
    have continued := ((addUser_evolved email).of_ok added).toContinued
    rcases sequence_ok_iff.mp added with ⟨⟨id, time⟩, first, made, staged⟩
    rcases make_ok made with ⟨rfl, rfl, -, sameTables, sameStaged, -, -⟩
    cases staged
    refine ⟨continued, fun _ => ?_⟩
    rw [prospect, joining, sameStaged, List.filterMap_append]
    change first.tables.joined (before.joining ++ _) = _
    rw [sameTables]
    cases kept : email.kept? with
    | none => simp [StoreOperation.write?, UserDraft.row?, kept, prospect]
    | some text =>
        simp [StoreOperation.write?, UserDraft.row?, kept, prospect, Tables.joined, Write.apply]
  fails failed := by
    rcases sequence_error_iff.mp failed with made | ⟨⟨id, time⟩, first, made, staged⟩
    · exact ((make_spared .user).of_error made).adds
    · cases staged

theorem openAccount_writes
    (name currency : Value)
    (owner : Option Identifier)
    (isSystem : Bool) :
    Writes
      (fun sources =>
        ((StoreOperation.openAccount name currency owner isSystem).write? sources).toList)
      (openAccount name currency owner isSystem) where
  answers opened := by
    rcases openAccount_ok opened with
      ⟨row, keptName, keptCurrency, nameKept, currencyKept, rfl, evolved, -, emptied, -⟩
    rw [Wrote, StoreOperation.write?, Value.kept?_eq nameKept, Value.kept?_eq currencyKept]
    exact evolved.adds_behind emptied
  fails failed := (openAccount_error failed).1.adds

theorem createUser_writes (email : Value) :
    Writes
      (fun sources => ((StoreOperation.createUser email).write? sources).toList)
      (createUser email) where
  answers {before user after} created := by
    rcases createUser_ok created with ⟨evolved, -, emptied, sameId, sameTime, kept⟩
    have row : user = ⟨before.sources.upcoming .user, user.email, before.sources.clock⟩ := by
      rw [← sameId, ← sameTime]
    rw [Wrote, StoreOperation.write?, Value.kept?_eq kept]
    change Adds [.user ⟨_, _, _⟩] before after
    rw [← row]
    exact evolved.adds_behind emptied
  fails failed := (createUser_error failed).1.adds

theorem post_writes (posting : Posting) :
    Writes (fun sources => [.entry (posting.entry sources)]) (post posting) where
  answers posted := by
    rcases post_ok posted with ⟨rfl, evolved, -, emptied, -⟩
    exact evolved.adds_ahead emptied
  fails failed := (post_error failed).1.adds

/-- Those who waited were in the prospect before. -/
theorem flushWaiting_writes : Writes (fun _ => []) flushWaiting where
  answers written := by
    rcases flushWaiting_ok written with ⟨-, -, -, emptied, -, evolved⟩
    rw [← List.append_nil (List.map _ _)] at evolved
    exact evolved.adds_behind emptied
  fails failed := (flushWaiting_error failed).1.adds

theorem moveBalance_writes (id : Identifier) (delta : Money) :
    Writes (fun _ => [.balance id delta]) (moveBalance id delta) where
  answers moved := by
    rcases moveBalance_ok moved with ⟨evolved, -, sameStaged⟩
    exact evolved.adds_balance sameStaged
  fails failed := (moveBalance_error failed).spared.adds

end Work

namespace StoreOperation

theorem movingBalance_writes (id : Identifier) (delta : Decimal) :
    Writes (fun _ => [.balance id (kept delta)]) (movingBalance id delta) := by
  refine Writes.looking_bind (ofExcept_untouched _) ?_
  intro before money? after converted
  rw [kept_eq (ofExcept_ok_iff.mp converted).1]
  cases money? with
  | some units => exact moveBalance_writes id units
  | none =>
      refine Writes.looking_bind view_untouched fun _ tables _ _ => ?_
      refine Writes.looking_bind (orFail_untouched _ _) fun _ found _ _ => ?_
      exact ⟨by simp, fun failed => by rw [(throw_error_iff.mp failed).2]; exact .refl _⟩

theorem operationOf_ok
    {value : Value}
    {operation : Operation}
    {before after : Session}
    (named : operationOf value before = .ok operation after) :
    named? value = some operation := by
  rw [operationOf.eq_def] at named
  split at named
  · exact (orFail_ok_iff.mp named).1
  · rcases sequence_ok_iff.mp named with ⟨text, middle, -, wrong⟩
    simp at wrong

theorem posting_writes
    (account group : Identifier)
    (operation : Value)
    (debit credit : Decimal)
    (description : Value) :
    Writes
      (fun sources =>
        ((StoreOperation.post account group operation debit credit description).write?
          sources).toList)
      (posting account group operation debit credit description) := by
  refine Writes.looking_bind (operationOf_untouched operation) fun _ kind _ named => ?_
  refine Writes.looking_bind (ofExcept_untouched _) fun _ debit? _ convertedDebit => ?_
  refine Writes.looking_bind (ofExcept_untouched _) fun _ credit? _ convertedCredit => ?_
  simp only [write?, operationOf_ok named, kept_eq (ofExcept_ok_iff.mp convertedDebit).1,
    kept_eq (ofExcept_ok_iff.mp convertedCredit).1]
  refine (post_writes ⟨account, group, kind, debit?, credit?, description⟩).bind_total ?_
  intro entry before
  exact ⟨entry, _, rfl, ⟨rfl, rfl, rfl, rfl, rfl, rfl, fun _ => rfl, id⟩⟩

/-- An operation that answers adds its write to the prospect, and one that fails nothing. -/
theorem perform_writes (operation : StoreOperation) :
    Writes (fun sources => (operation.write? sources).toList) operation.perform := by
  cases operation with
  | moveBalance id delta => exact (movingBalance_writes id delta).map fun _ => Value.null
  | openAccount name currency owner isSystem =>
      refine (openAccount_writes name currency owner isSystem).bind_total ?_
      exact fun account before => ⟨_, before, rfl, .refl before⟩
  | createUser email =>
      refine (createUser_writes email).bind_total ?_
      exact fun user before => ⟨_, before, rfl, .refl before⟩
  | addUser email => exact (addUser_writes email).map fun _ => Value.null
  | post account group operation debit credit description =>
      refine (posting_writes account group operation debit credit description).bind_total ?_
      exact fun entry before => ⟨_, before, rfl, .refl before⟩
  | reviseEntry group index amendment =>
      exact (Writes.of_spared (reviseEntry_spared group index amendment)).map fun _ => Value.null
  | changeEntry group index amendment =>
      exact (Writes.of_spared (changeEntry_spared group index amendment)).map fun _ => Value.null
  | flush => exact flushWaiting_writes.map fun _ => Value.null
  | _ => exact Writes.of_spared (reading_spared (perform_untouched rfl))

end StoreOperation

/-! ## Rows that are refused -/

namespace Work

variable {Answer : Type} {before after : Session} {failure : Failure}

/-- A text that cannot be kept is told neither as a taken address nor as a refused row. -/
theorem storedText_error
    {place : Nat}
    {value : Value}
    (stored : storedText place value = .error failure) :
    failure.isOfRow = false ∧ ∀ email, failure ≠ .userAlreadyExists email := by
  cases value with
  | text text =>
      rw [storedText, storedString] at stored
      split at stored
      · cases stored
      · cases stored
        exact ⟨rfl, by simp⟩
  | int number =>
      rw [storedText] at stored
      split at stored
      · cases stored
      · cases stored
        exact ⟨rfl, by simp⟩
  | null | bool | float => cases stored
  | decimal | list | record =>
      cases stored
      exact ⟨rfl, by simp⟩

/-- Where the look for an address is answered by yes, somebody has it. -/
theorem isTaken_ok
    {email : Value}
    (asked : isTaken email before = .ok true after) :
    ∃ text, email.kept? = some text ∧ (before.tables.userWithEmail? text).isSome := by
  rcases sequence_ok_iff.mp asked with ⟨tables, first, viewed, rest⟩
  rcases sequence_ok_iff.mp rest with ⟨text?, second, stored, answer⟩
  rcases view_ok viewed with ⟨-, rfl, -, -⟩
  rcases pure_ok_iff.mp answer with ⟨found, -⟩
  cases text? with
  | none => cases found
  | some text => exact ⟨text, Value.kept?_eq (ofExcept_ok_iff.mp stored).1, found⟩

/-- The look for an address does not tell by failing that it is taken, or that a row is refused. -/
theorem isTaken_error
    {email : Value}
    (asked : isTaken email before = .error failure after) :
    failure.isOfRow = false ∧ ∀ other, failure ≠ .userAlreadyExists other := by
  rcases sequence_error_iff.mp asked with viewed | ⟨tables, first, viewed, rest⟩
  · rcases view_error_eq viewed with rfl | ⟨cause, rfl⟩
    · exact ⟨rfl, by simp⟩
    · exact ⟨rfl, by simp⟩
  · rcases sequence_error_iff.mp rest with stored | ⟨text?, second, stored, answer⟩
    · exact storedText_error (ofExcept_error_iff.mp stored).1
    · simp at answer

/-- An entry that cannot be revised is not one that was refused. -/
theorem reviseEntry_error
    {group : Identifier}
    {index : Value}
    {amendment : Amendment}
    (failed : reviseEntry group index amendment before = .error failure after) :
    failure.isOfRow = false := by
  rcases sequence_error_iff.mp failed with listed | ⟨entries, first, -, rest⟩
  · rcases sequence_error_iff.mp listed with viewed | ⟨tables, second, -, answer⟩
    · rcases view_error_eq viewed with rfl | ⟨cause, rfl⟩
      · rfl
      · rfl
    · simp at answer
  rcases sequence_error_iff.mp rest with converted | ⟨position, second, -, rest⟩
  · cases known : index.index with
    | ok position =>
        rw [known] at converted
        cases converted
    | error mismatch =>
        rw [known] at converted
        rcases throw_error_iff.mp converted with ⟨rfl, -⟩
        rfl
  rcases sequence_error_iff.mp rest with looked | ⟨entry, third, -, revising⟩
  · cases found : member? entries position with
    | some entry =>
        rw [found] at looked
        cases looked
    | none =>
        rw [found] at looked
        rcases throw_error_iff.mp looked with ⟨rfl, -⟩
        rfl
  · cases revising

/-- An attempt to change an entry that fails by what it found in the database undoes the session. -/
theorem changeEntry_refused
    {group : Identifier}
    {index : Value}
    {amendment : Amendment}
    (changed : changeEntry group index amendment before = .error failure after)
    (refusal : failure.isOfRow = true) :
    after.undoneBy.isSome := by
  rcases sequence_error_iff.mp changed with unfound | ⟨⟨⟩, middle, -, written⟩
  · rw [reviseEntry_error unfound] at refusal
    cases refusal
  · exact (flushWaiting_error written).2

/-- A user whose row is refused undoes the session, unless the address was found taken before. -/
theorem createUser_refused
    {email : Value}
    (created : createUser email before = .error failure after)
    (refusal :
      failure.isOfRow = true ∨
        (∃ other, failure = .userAlreadyExists other) ∧
          ∀ text, email.kept? = some text → (before.tables.userWithEmail? text).isNone) :
    after.undoneBy.isSome := by
  rcases (createUser_error created).2 with
    ⟨middle, asked⟩ | ⟨rfl, middle, asked⟩ | rfl | undone
  · rcases isTaken_error asked with ⟨noRow, notTaken⟩
    rcases refusal with ofRow | ⟨⟨other, rfl⟩, -⟩
    · rw [noRow] at ofRow
      cases ofRow
    · exact absurd rfl (notTaken other)
  · rcases isTaken_ok asked with ⟨text, kept, present⟩
    rcases refusal with ofRow | ⟨-, absent⟩
    · cases ofRow
    · simp [Option.isNone_iff_eq_none.mp (absent text kept)] at present
  · rcases refusal with ofRow | ⟨⟨other, wrong⟩, -⟩
    · cases ofRow
    · cases wrong
  · exact undone

end Work

namespace StoreOperation

/-- A side that cannot be converted is not a row that was refused. -/
theorem moneyOf_error
    {decimal : Decimal}
    {failure : Failure}
    (converted : moneyOf decimal = .error failure) :
    failure.isOfRow = false := by
  rw [moneyOf] at converted
  split at converted
  · cases converted
  · cases converted
  · cases converted
    rfl

/-- A value that names no operation is not a row that was refused. -/
theorem operationOf_error
    {value : Value}
    {failure : Failure}
    {before after : Session}
    (named : operationOf value before = .error failure after) :
    failure.isOfRow = false := by
  rw [operationOf.eq_def] at named
  split at named
  · rename_i name
    cases known : Operation.ofText? name with
    | some kind =>
        rw [known] at named
        cases named
    | none =>
        rw [known] at named
        cases named
        rfl
  · rename_i other
    rcases sequence_error_iff.mp named with unwritten | ⟨text, middle, -, wrong⟩
    · cases written : value.written with
      | ok text =>
          rw [written] at unwritten
          cases unwritten
      | error mismatch =>
          rw [written] at unwritten
          rcases throw_error_iff.mp unwritten with ⟨rfl, -⟩
          rfl
    · rcases throw_error_iff.mp wrong with ⟨rfl, -⟩
      rfl

/-- A posting fails before its entry is inserted, or as its insertion fails. -/
theorem posting_error
    {account group : Identifier}
    {operation : Value}
    {debit credit : Decimal}
    {description : Value}
    {failure : Failure}
    {before after : Session}
    (refused :
      posting account group operation debit credit description before = .error failure after)
    (refusal : failure.isOfRow = true) :
    after.undoneBy.isSome := by
  rcases sequence_error_iff.mp refused with named | ⟨kind, first, -, rest⟩
  · rw [operationOf_error named] at refusal
    cases refusal
  rcases sequence_error_iff.mp rest with convertedDebit | ⟨debit?, second, -, rest⟩
  · rw [moneyOf_error (ofExcept_error_iff.mp convertedDebit).1] at refusal
    cases refusal
  rcases sequence_error_iff.mp rest with convertedCredit | ⟨credit?, third, -, rest⟩
  · rw [moneyOf_error (ofExcept_error_iff.mp convertedCredit).1] at refusal
    cases refusal
  rcases sequence_error_iff.mp rest with posted | ⟨entry, fourth, -, rest⟩
  · rcases (post_error posted).2 with rfl | undone
    · cases refusal
    · exact undone
  rcases sequence_error_iff.mp rest with kept | ⟨_, fifth, -, answer⟩
  · cases kept
  · cases answer

/-- An operation whose row the database has refused has undone the session. -/
theorem perform_refused
    {operation : StoreOperation}
    {before after : Session}
    {failure : Failure}
    (failed : operation.perform before = .error failure after)
    (refusal : operation.isRefusal before failure = true) :
    after.undoneBy.isSome := by
  rw [isRefusal.eq_def] at refusal
  split at refusal
  · rename_i email other
    rcases sequence_error_iff.mp failed with created | ⟨row, middle, -, seeing⟩
    · refine createUser_refused created (Or.inr ⟨⟨other, rfl⟩, ?_⟩)
      intro text kept
      rwa [kept] at refusal
    · cases seeing
  · rcases Bool.and_eq_true_iff.mp refusal with ⟨flushing, ofRow⟩
    cases operation with
    | openAccount name currency owner isSystem =>
        rcases sequence_error_iff.mp failed with opened | ⟨row, middle, -, seeing⟩
        · rcases (openAccount_error opened).2 with rfl | undone
          · cases ofRow
          · exact undone
        · cases seeing
    | createUser email =>
        rcases sequence_error_iff.mp failed with created | ⟨row, middle, -, seeing⟩
        · exact createUser_refused created (Or.inl ofRow)
        · cases seeing
    | post account group operation debit credit description =>
        rcases sequence_error_iff.mp failed with posted | ⟨row, middle, -, seeing⟩
        · exact posting_error posted ofRow
        · cases seeing
    | changeEntry group index amendment =>
        exact changeEntry_refused (map_error_iff.mp failed) ofRow
    | flush => exact (flushWaiting_error (map_error_iff.mp failed)).2
    | _ => cases flushing

end StoreOperation

end Bookkeeping
