import Bookkeeping.Proofs.Deed
import Bookkeeping.Scenario.Run

/-!
# Runs

A run takes steps one after the other, each with an empty record, as a scenario
does.  Ordinary steps are calls, requests and changes of the clock and the settings,
all of them with or without faults; only operations on the store and units of work
that an operator runs are not.

An ordinary step does one deed at most.  What a bank has when it opens, and what
every deed keeps, it therefore has after every run of ordinary steps.
-/

namespace Bookkeeping

/-! ## Taking steps one after the other -/

namespace Desk

/-- The desk after steps. -/
def after (desk : Desk) (steps : List Step) : Desk :=
  steps.foldl (fun desk step => (step.take .calm { desk with log := [] }).2) desk

@[simp]
theorem after_nil (desk : Desk) : desk.after [] = desk :=
  rfl

@[simp]
theorem after_cons (desk : Desk) (step : Step) (rest : List Step) :
    desk.after (step :: rest) = (step.take .calm { desk with log := [] }).2.after rest :=
  rfl

end Desk

/-! ## Ordinary steps -/

namespace Step

/-- Whether a step is neither an operation on the store nor a unit of work. -/
def isOrdinary : Step → Bool
  | .call _ | .request _ | .setClock _ _ | .configure _ | .fail _ _ => true
  | .store _ _ | .unit _ _ _ => false
  | .faulty _ step => step.isOrdinary

@[simp]
theorem outcomeOf_desk
    {Answer : Type}
    (value : Answer → Value)
    (result : EStateM.Result Failure Desk Answer) :
    (outcomeOf value result).2 = stateOf result := by
  cases result with
  | ok answer desk => rfl
  | error failure desk => rfl

/-- In a body, only operations on the store work in the session of the body. -/
theorem store_or_other (step : Step) :
    (∃ operation isGuarded, step = .store operation isGuarded) ∨
      ∀ operation isGuarded, step ≠ .store operation isGuarded := by
  cases step with
  | store operation isGuarded => exact Or.inl ⟨operation, isGuarded, rfl⟩
  | _ => exact Or.inr fun _ _ => Step.noConfusion

/-- Any other step of a body goes its own way, and the body goes on at the desk that it leaves. -/
theorem takeBody_other
    (surroundings : Surroundings)
    (raised : Option Failure)
    {step : Step}
    (rest : List Step)
    (session : Session)
    (other : ∀ operation isGuarded, step ≠ .store operation isGuarded) :
    takeBody surroundings raised (step :: rest) session =
      let taken := step.take (session.surroundings surroundings.fault) session.desk
      let later := { session with desk := taken.2 }
      (Outcome.record taken.1 :: (takeBody surroundings raised rest later).1,
        (takeBody surroundings raised rest later).2) := by
  rw [takeBody]
  exact other

/-- A bank with the same tables, from which no identifiers were drawn, has done nothing. -/
theorem does_of_sameTables
    {locked : Bool}
    {before after : Bank}
    (sources : before.sources.Precedes after.sources)
    (isolation : after.isolation = before.isolation)
    (tables : after.tables = before.tables) :
    Bank.Does locked before after :=
  fun _ => ⟨[], .nothing, .of_sameTables sources isolation tables, fun _ => rfl⟩

/-- An ordinary step does one deed at most. -/
theorem take_does
    (surroundings : Surroundings)
    (step : Step)
    (ordinary : step.isOrdinary = true)
    (desk : Desk) :
    Bank.Does surroundings.locked desk.bank (step.take surroundings desk).2.bank := by
  cases step with
  | call made =>
      rw [take, outcomeOf_desk]
      exact made.perform_does surroundings desk
  | request asked =>
      rw [take, outcomeOf_desk]
      exact Http.serve_does surroundings asked desk
  | setClock time zone =>
      rw [take]
      exact does_of_sameTables (fun _ => Nat.le_refl _) rfl rfl
  | configure changes =>
      rw [take]
      exact does_of_sameTables (.refl _) rfl rfl
  | store operation isGuarded => cases ordinary
  | unit level raised body => cases ordinary
  | fail met tellsState =>
      rw [take]
      exact does_of_sameTables (.refl _) rfl rfl
  | faulty fault step =>
      rw [take]
      exact take_does { surroundings with fault := fault } step ordinary desk

end Step

/-! ## What every run keeps -/

namespace Opening

/-- The desk of a bank that has opened and taken steps. -/
def after (settings : Settings) (isMigrated : Bool) (steps : List Step) : Desk :=
  (desk (bank settings isMigrated)).after steps

/-- A bank opens without entries. -/
theorem bank_entries (settings : Settings) (isMigrated : Bool) :
    (bank settings isMigrated).tables.entries = [] := by
  cases isMigrated with
  | false => rfl
  | true => rfl

/-- A bank opens with sound tables. -/
theorem bank_sound (settings : Settings) (isMigrated : Bool) :
    (bank settings isMigrated).Sound := by
  cases isMigrated with
  | false => exact ⟨by simp [bank, Tables.empty], by simp [bank, Tables.empty]⟩
  | true =>
      constructor
      · intro account member
        rw [List.mem_singleton.mp member]
        exact ⟨1, Nat.le_refl _, rfl⟩
      · exact List.nodup_singleton _

end Opening

/-! ## A run to look at -/

namespace Sample

/-- Settings that name a settlement account and a currency, and leave the rest open. -/
def settings : Settings :=
  (Settings.blank.set .settlementAccountName (.text "Settlement")).set .defaultCurrency
    (.text "NGN")

/-- A bank with a settlement account and nothing else. -/
def opened : Desk :=
  Opening.desk (Opening.bank settings true)

/-- A client's account in the currency of the settings. -/
def savings : Identifier :=
  .drawn .account 2

/-- Another one in the same currency. -/
def rent : Identifier :=
  .drawn .account 3

/-- A client's account in a currency in which the bank has none. -/
def dollars : Identifier :=
  .drawn .account 4

/--
Accounts, a deposit and one that is refused; then another settlement account, a
transfer, a withdrawal to that account, and a withdrawal whose commit fails.
-/
def steps : List Step :=
  [.call (.createUser (.text "ada@example.com")),
    .call (.openAccount (.drawn .user 1) (.text "Savings") .null),
    .call (.openAccount (.drawn .user 1) (.text "Rent") (.text "ngn")),
    .call (.openAccount (.drawn .user 1) (.text "Dollars") (.text "usd")),
    .call (.deposit savings (.text "100.00") .null),
    .call (.deposit dollars (.text "5") .null),
    .configure [("SETTLEMENT_ACCOUNT_NAME", .text "Till")],
    .call .ensureSettlement,
    .call (.transfer savings rent (.text "30.5") .null),
    .call (.withdraw rent (.text "10") .null),
    .faulty ⟨true, false⟩ (.call (.withdraw savings (.text "10") .null))]

theorem steps_ordinary : ∀ step ∈ steps, step.isOrdinary = true := by
  decide

end Sample

/-- A property of banks that every deed keeps. -/
def Bank.IsKept (property : Bank → Prop) : Prop :=
  ∀ {before after : Bank} {writes : List Write},
    before.Sound → property before →
      Deed before.tables before.sources after.sources writes → Progress writes before after →
        property after

/-- What every deed keeps holds after every run of ordinary steps if it holds before. -/
theorem Desk.after_keeps
    {property : Bank → Prop}
    (kept : Bank.IsKept property)
    {desk : Desk}
    (sound : desk.bank.Sound)
    (holds : property desk.bank)
    {steps : List Step}
    (ordinary : ∀ step ∈ steps, step.isOrdinary = true) :
    (desk.after steps).bank.Sound ∧ property (desk.after steps).bank := by
  induction steps generalizing desk with
  | nil => exact ⟨sound, holds⟩
  | cons step rest hypothesis =>
      have does :=
        step.take_does .calm (ordinary step List.mem_cons_self) { desk with log := [] }
      rcases does sound with ⟨writes, deed, progress, -⟩
      apply hypothesis
      · exact progress.sound sound
      · exact kept sound holds deed progress
      · intro other member
        exact ordinary other (List.mem_cons_of_mem _ member)

/-- What every deed keeps, and a bank has when it opens, holds after every ordinary run. -/
theorem Opening.after_keeps
    {property : Bank → Prop}
    (kept : Bank.IsKept property)
    (settings : Settings)
    (isMigrated : Bool)
    (opens : property (bank settings isMigrated))
    {steps : List Step}
    (ordinary : ∀ step ∈ steps, step.isOrdinary = true) :
    property (after settings isMigrated steps).bank := by
  have start : (desk (bank settings isMigrated)).bank.Sound := bank_sound settings isMigrated
  exact (Desk.after_keeps kept start opens ordinary).2

end Bookkeeping
