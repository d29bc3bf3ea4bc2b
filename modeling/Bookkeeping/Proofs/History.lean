import Bookkeeping.Proofs.Keeping

/-!
# History only grows

Whatever happens at the desk of a bank, the ledger that is found afterwards extends the
one that was found before.  Its entries and its users are continued by others, and each
account stays in its place and keeps everything but its balance.

This needs no assumption about the bank: every write extends the tables to which it is
applied, and nothing but writes ever becomes of tables.  It holds for calls, requests and
operations on the store, and for units of work with bodies of steps, whether they are
committed or not, which may try to change entries, go on after they were refused, and
have other steps taken while they are open.
-/

namespace Bookkeeping

open Session

variable {Answer : Type}

/-! ## Tables that extend others -/

/-- Later tables extend earlier ones: nothing is gone, and only balances have changed. -/
structure Tables.Extends (later earlier : Tables) : Prop where
  entries : earlier.entries <+: later.entries
  users : earlier.users <+: later.users
  accounts :
    ∀ {place : Nat} {account : Account},
      earlier.accounts[place]? = some account →
        ∃ now, later.accounts[place]? = some now ∧ now.Continues account

namespace Tables.Extends

variable {first second third : Tables}

theorem refl (tables : Tables) : tables.Extends tables where
  entries := List.prefix_rfl
  users := List.prefix_rfl
  accounts := fun {_ account} found => ⟨account, found, .refl account⟩

theorem trans (late : third.Extends second) (early : second.Extends first) :
    third.Extends first where
  entries := early.entries.trans late.entries
  users := early.users.trans late.users
  accounts found := by
    rcases early.accounts found with ⟨between, foundBetween, same⟩
    rcases late.accounts foundBetween with ⟨now, foundNow, sameNow⟩
    exact ⟨now, foundNow, sameNow.trans same⟩

end Tables.Extends

theorem Write.apply_extends (write : Write) (tables : Tables) :
    (write.apply tables).Extends tables := by
  cases write with
  | user row => exact { Tables.Extends.refl tables with users := List.prefix_append _ _ }
  | entry row => exact { Tables.Extends.refl tables with entries := List.prefix_append _ _ }
  | account row =>
      refine { Tables.Extends.refl tables with accounts := ?_ }
      intro place account found
      refine ⟨account, ?_, .refl account⟩
      rw [apply, List.getElem?_append_left (List.getElem?_eq_some_iff.mp found).1]
      exact found
  | balance id delta =>
      refine { Tables.Extends.refl tables with accounts := ?_ }
      intro place account found
      have continues := Tables.movedAccount_continues id delta account
      refine ⟨Tables.movedAccount id delta account, ?_, continues⟩
      rw [apply, List.getElem?_map, found]
      rfl

theorem Tables.foldl_extends (writes : List Write) (tables : Tables) :
    (writes.foldl Write.apply tables).Extends tables := by
  induction writes generalizing tables with
  | nil => exact .refl tables
  | cons write rest hypothesis => exact (hypothesis _).trans (write.apply_extends tables)

/-! ## Desks and sessions -/

/-- The tables at a desk later extend those at the desk before. -/
def Desk.Extended (before after : Desk) : Prop :=
  after.bank.tables.Extends before.bank.tables

instance : IsPreorder Desk Desk.Extended where
  refl desk := .refl desk.bank.tables
  trans _ _ _ early late := Tables.Extends.trans late early

theorem Desk.Extended.of_sameBank {before after : Desk} (same : Desk.SameBank before after) :
    Desk.Extended before after := by
  rw [Desk.Extended, same]
  exact .refl before.bank.tables

/-- Both what is committed and what a session sees have been extended. -/
structure Session.Extended (before after : Session) : Prop where
  committed : Desk.Extended before.desk after.desk
  undone : before.undoneBy.isSome → after.undoneBy.isSome
  seen : after.undoneBy = none → after.tables.Extends before.tables

namespace Session.Extended

variable {first second third : Session}

theorem refl (session : Session) : Extended session session where
  committed := .refl session.desk.bank.tables
  undone := id
  seen _ := .refl session.tables

theorem trans (early : Extended first second) (late : Extended second third) :
    Extended first third where
  committed := Tables.Extends.trans late.committed early.committed
  undone undone := late.undone (early.undone undone)
  seen usable := (late.seen usable).trans (early.seen (usable_before late.undone usable))

instance : IsPreorder Session Extended where
  refl := refl
  trans _ _ _ := trans

/-- A session that has only grown has left alone what is committed. -/
theorem of_grown (grown : Grown first second) : Extended first second := by
  rcases grown with ⟨writes, evolved⟩
  constructor
  · rw [Desk.Extended, evolved.committed]
    exact .refl first.desk.bank.tables
  · exact evolved.undone
  · intro usable
    rw [evolved.applied usable]
    exact Tables.foldl_extends writes first.tables

/-- What other steps commit extends what a session sees, as long as that is what is committed. -/
theorem of_step {desk : Desk} (session : Session) (extended : Desk.Extended session.desk desk) :
    Extended session { session with desk := desk } where
  committed := extended
  undone := id
  seen _ := by
    rw [Session.tables, Session.tables]
    cases session.pending with
    | none => exact extended
    | some own => exact .refl own

end Session.Extended

/-! ## Units of work -/

namespace Work

/-- A unit of work extends the tables, whether it commits what it has seen last or nothing. -/
theorem conclude_extends
    {locked : Bool}
    {desk : Desk}
    {session : Session}
    (fresh : Fresh locked desk session)
    (fault : Fault)
    {result : EStateM.Result Failure Session Answer}
    (extended : Session.Extended session (stateOf result)) :
    Desk.Extended desk (stateOf (conclude fault result)) := by
  cases concluded : conclude fault result with
  | error failure later =>
      rcases conclude_error concluded with ⟨last, continued, same⟩
      have committed := extended.committed
      rw [Desk.Extended, ← continued.committed, fresh.desk, ← same] at committed
      exact committed
  | ok answer later =>
      rcases conclude_ok concluded with ⟨final, last, rfl, completed, rfl⟩
      rcases complete_ok completed with ⟨-, usable, -, -, evolved⟩
      have seen := (extended.trans (.of_grown ⟨_, evolved⟩)).seen usable
      change (last.committed).bank.tables.Extends desk.bank.tables
      rw [committed_tables, ← fresh.tables]
      exact seen

/--
A body may revise posted entries and end well without anything of it having been written.
Then the commit meets the listeners, so the unit of work fails and commits nothing.
-/
theorem conclude_revised
    (fault : Fault)
    (answer : Answer)
    {session : Session}
    (revised : session.revised ≠ []) :
    ∃ failure later,
      conclude fault (.ok answer session) = .error failure later ∧
        later.bank.tables = session.desk.bank.tables := by
  cases concluded : conclude fault (.ok answer session) with
  | error failure later =>
      rcases conclude_error concluded with ⟨last, continued, same⟩
      exact ⟨failure, later, rfl, (congrArg Bank.tables same).trans continued.committed⟩
  | ok given later =>
      rcases conclude_ok concluded with ⟨final, last, same, completed, -⟩
      cases same
      rw [complete] at completed
      split at completed
      · cases completed
      · rcases flushWaiting_ok completed with ⟨-, unrevised, -⟩
        exact absurd unrevised revised

end Work

/-! ## Every step -/

namespace Step

theorem extended_kept : Kept Desk.Extended Session.Extended where
  quiet := .of_sameBank
  clock desk _ _ := .refl desk.bank.tables
  configured desk _ := .refl desk.bank.tables
  grown := .of_grown
  beside session _ := .of_step session
  concluded fresh extended fault := Work.conclude_extends fresh fault extended

/-- Every step extends the tables that it finds. -/
theorem take_extends
    (surroundings : Surroundings)
    (step : Step)
    (desk : Desk) :
    Desk.Extended desk (step.take surroundings desk).2 :=
  extended_kept.take surroundings step desk

end Step

/--
History only grows.  After any step, and so after any run of steps, the tables extend
those that were found before it, whatever was found, whoever holds the lock and whatever
fails: no entry and no user is changed or gone, and no account differs in anything but
its balance.
-/
theorem Desk.history_only_grows (desk : Desk) :
    (∀ surroundings step,
      (Step.take surroundings step desk).2.bank.tables.Extends desk.bank.tables) ∧
      ∀ steps, (desk.after steps).bank.tables.Extends desk.bank.tables := by
  refine ⟨fun surroundings step => step.take_extends surroundings desk, ?_⟩
  intro steps
  induction steps generalizing desk with
  | nil => exact .refl desk.bank.tables
  | cons step rest hypothesis =>
      have taken := step.take_extends .calm { desk with log := [] }
      exact (hypothesis _).trans taken

end Bookkeeping
