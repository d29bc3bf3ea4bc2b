import Bookkeeping.Proofs.Entering
import Bookkeeping.Proofs.Funding

/-!
# What checks come to

A call that moves money looks at the accounts that it is about before it does anything, and
fails where something is amiss.  Up to then nothing has changed, so this part is followed by
what it comes to.  In every session that sees the bank as it is, the work does what other work
does that is simpler: it fails at once, or it answers at once, or nothing is left of it but the
movement.

One lemma for each check says what the check comes to, and the lemmas are chained along the
text of the work.
-/

namespace Bookkeeping

open Session

variable {Answer Next : Type}

/-! ## What work comes to -/

/-- A session that sees a bank as it is. -/
structure Session.Sees (bank : Bank) (session : Session) : Prop where
  committed : session.desk.bank = bank
  tables : session.tables = bank.tables
  able : Able session
  shows : Work.ShowsRows session

theorem Session.Fresh.sees
    {desk : Desk}
    {session : Session}
    (fresh : Fresh false desk session) :
    Sees desk.bank session where
  committed := by rw [fresh.desk]
  tables := fresh.tables
  able := fresh.able
  shows := by simp [Work.ShowsRows, fresh.shown]

/-- A session that was only looked at still sees the bank as it is. -/
theorem Session.Sees.after
    {bank : Bank}
    {before after : Session}
    (sees : Sees bank before)
    (untouched : Untouched before after)
    (shows : Work.ShowsRows after) :
    Sees bank after where
  committed := by rw [untouched.desk, sees.committed]
  tables := untouched.tables.trans sees.tables
  able := untouched.able sees.able
  shows := shows

/-- In every session that sees a bank as it is, work does what other work does after a look. -/
def Work.ComesTo (bank : Bank) (work target : Work Answer) : Prop :=
  ∀ before, Sees bank before → ∃ middle, Sees bank middle ∧ work before = target middle

namespace Work.ComesTo

variable {bank : Bank}

theorem refl (work : Work Answer) : ComesTo bank work work :=
  fun before sees => ⟨before, sees, rfl⟩

/-- What comes to an answer goes on with what follows on it. -/
theorem after
    {first : Work Answer}
    {rest : Answer → Work Next}
    {answer : Answer}
    {target : Work Next}
    (comes : ComesTo bank first (pure answer))
    (goes : ComesTo bank (rest answer) target) :
    ComesTo bank (first >>= rest) target := by
  intro before sees
  rcases comes before sees with ⟨middle, seesThen, answered⟩
  rcases goes middle seesThen with ⟨last, seesLast, same⟩
  exact ⟨last, seesLast, (sequence_after answered).trans same⟩

/-- What comes to a failure fails as a whole. -/
theorem fails
    {first : Work Answer}
    {failure : Failure}
    (comes : ComesTo bank first (throw failure))
    (rest : Answer → Work Next) :
    ComesTo bank (first >>= rest) (throw failure) := by
  intro before sees
  rcases comes before sees with ⟨middle, seesThen, refused⟩
  exact ⟨middle, seesThen, sequence_error_iff.mpr (Or.inl refused)⟩

end Work.ComesTo

/-! ## What the checks come to -/

namespace Work

variable {bank : Bank} {id : Identifier}

theorem view_comes : ComesTo bank view (pure bank.tables) := by
  intro before sees
  have viewed := view_answers sees.able.usable sees.able.free
  have looking := view_untouched.of_ok viewed
  refine ⟨_, sees.after looking ?_, ?_⟩
  · intro shown member
    rw [looking.tables]
    exact sees.shows shown member
  · rw [viewed, sees.tables]
    rfl

theorem account_absent
    (absent : bank.tables.account? id = none)
    (forUpdate : Bool) :
    ComesTo bank (account id forUpdate) (throw (.accountNotFound id)) := by
  refine view_comes.after ?_
  rw [absent]
  exact ComesTo.fails (.refl _) _

/-- A locking read shows a row as it is from then on. -/
theorem refresh_shows
    {account : Account}
    {before after : Session}
    (shows : ShowsRows before)
    (present : before.tables.account? account.id = some account)
    (refreshed : refresh account before = .ok account after) :
    ShowsRows after := by
  cases refreshed
  intro other member
  rcases List.mem_append.mp member with old | new
  · exact shows other (List.mem_filter.mp old).1
  · rw [List.mem_singleton.mp new]
    exact present

theorem read_present
    {account : Account}
    (present : bank.tables.account? account.id = some account)
    (forUpdate : Bool) :
    ComesTo bank (read forUpdate account) (pure account) := by
  intro before sees
  rw [← sees.tables] at present
  cases forUpdate with
  | true =>
      have refreshed : refresh account before = .ok account _ := rfl
      have looking := (refresh_untouched account).of_ok refreshed
      exact ⟨_, sees.after looking (refresh_shows sees.shows present refreshed), refreshed⟩
  | false =>
      rcases remember_answers account before with ⟨shown, after, remembered⟩
      rcases remember_row sees.shows present remembered with ⟨rfl, shows⟩
      have looking := (remember_untouched shown).of_ok remembered
      exact ⟨after, sees.after looking shows, remembered⟩

theorem account_present
    {account : Account}
    (present : bank.tables.account? id = some account)
    (forUpdate : Bool) :
    ComesTo bank (Work.account id forUpdate) (pure account) := by
  have sameId := (Tables.account?_eq_some present).2
  refine view_comes.after ?_
  rw [present]
  refine ComesTo.after (.refl _) (read_present ?_ forUpdate)
  rwa [sameId]

theorem policy_comes : ComesTo bank policy (pure bank.policy) := by
  intro before sees
  refine ⟨before, sees, ?_⟩
  rw [← sees.committed]
  rfl

theorem comparedBalance_comes
    {account : Account}
    (comparable : account.balance.IsComparable) :
    ComesTo bank (comparedBalance account) (pure account.balance) := by
  rw [comparedBalance, Money.fixed_eq, if_pos comparable]
  exact .refl _

theorem comparedBalance_fails
    {account : Account}
    (large : ¬account.balance.IsComparable) :
    ComesTo bank (comparedBalance account) (throw (.mismatched .decimalOutOfRange)) := by
  rw [comparedBalance, Money.fixed_eq, if_neg large]
  exact .refl _

theorem settlementNamed_comes
    {name : Value}
    {name? : Option String}
    (kept : storedText 1 name = .ok name?) :
    ComesTo bank (settlementNamed name) (pure (name?.bind bank.tables.settlement?)) := by
  refine view_comes.after ?_
  rw [kept]
  exact ComesTo.after (.refl _) (.refl _)

theorem settlement_present
    {settlement : Account}
    (settled : bank.settlement? = some settlement)
    (present : bank.tables.account? settlement.id = some settlement) :
    ComesTo bank (Work.settlement bank.policy.settlementName true) (pure settlement) := by
  rcases Option.bind_eq_some_iff.mp settled with ⟨name, kept, found⟩
  refine ComesTo.after (settlementNamed_comes (Value.storedText_of_kept? kept 1)) ?_
  rw [Option.bind_some, found]
  exact ComesTo.after (.refl _) (read_present present true)

/-- Where the name is kept, and nothing is found under it, the look for it is in vain. -/
theorem settlement_absent
    {name? : Option String}
    (kept : storedText 1 bank.policy.settlementName = .ok name?)
    (absent : bank.settlement? = none) :
    ComesTo bank (Work.settlement bank.policy.settlementName true)
      (throw (.settlementNotFound bank.policy.settlementName)) := by
  rw [Bank.settlement?, Value.kept?_eq kept] at absent
  refine ComesTo.after (settlementNamed_comes kept) ?_
  rw [absent]
  exact ComesTo.fails (.refl _) _

theorem settlement_unkept
    {failure : Failure}
    (unkept : storedText 1 bank.policy.settlementName = .error failure) :
    ComesTo bank (Work.settlement bank.policy.settlementName true) (throw failure) := by
  refine ComesTo.fails (view_comes.after ?_) _
  rw [unkept]
  exact ComesTo.fails (.refl _) _

end Work

/-! ## Clients' accounts -/

namespace Tables

variable {tables : Tables} {id : Identifier}

/-- A client has an account under an identifier. -/
structure Serves (tables : Tables) (id : Identifier) (account : Account) : Prop where
  present : tables.account? id = some account
  serves : account.isSystem = false

/-- There is no account under an identifier, or it is one of the bank's own. -/
inductive Bars (tables : Tables) (id : Identifier) : Failure → Prop
  | unknown (absent : tables.account? id = none) : Bars tables id (.accountNotFound id)
  | system
      {account : Account}
      (present : tables.account? id = some account)
      (own : account.isSystem = true) :
      Bars tables id (.systemAccount id)

theorem serves_or_bars (tables : Tables) (id : Identifier) :
    (∃ account, tables.Serves id account) ∨ ∃ failure, tables.Bars id failure := by
  cases found : tables.account? id with
  | none => exact Or.inr ⟨_, .unknown found⟩
  | some account =>
      cases own : account.isSystem with
      | false => exact Or.inl ⟨account, found, own⟩
      | true => exact Or.inr ⟨_, .system found own⟩

end Tables

namespace Service

open Work

variable {bank : Bank} {account : Account}

theorem refuseSystem_passes (serves : account.isSystem = false) :
    ComesTo bank (refuseSystem account) (pure ()) := by
  rw [refuseSystem, serves]
  exact .refl _

theorem refuseSystem_fails (own : account.isSystem = true) :
    ComesTo bank (refuseSystem account) (throw (.systemAccount account.id)) := by
  rw [refuseSystem, own]
  exact .refl _

theorem requireCurrency_passes {expected actual : String} (same : actual = expected) :
    ComesTo bank (requireCurrency expected actual) (pure ()) := by
  rw [requireCurrency, if_neg (not_not_intro same)]
  exact .refl _

theorem requireCurrency_fails {expected actual : String} (differ : actual ≠ expected) :
    ComesTo bank (requireCurrency expected actual)
      (throw (.currencyMismatch expected actual)) := by
  rw [requireCurrency, if_pos differ]
  exact .refl _

theorem requireFunds_passes
    {amount : Money}
    (comparable : account.balance.IsComparable)
    (covered : amount ≤ account.balance) :
    ComesTo bank (requireFunds account amount) (pure ()) := by
  refine (comparedBalance_comes comparable).after ?_
  rw [if_neg (Int.not_lt.mpr covered)]
  exact .refl _

theorem requireFunds_fails
    {amount : Money}
    (comparable : account.balance.IsComparable)
    (short : account.balance < amount) :
    ComesTo bank (requireFunds account amount)
      (throw (.insufficientFunds account.id amount account.balance)) := by
  refine (comparedBalance_comes comparable).after ?_
  rw [if_pos short]
  exact .refl _

theorem requireFunds_incomparable
    (large : ¬account.balance.IsComparable)
    (amount : Money) :
    ComesTo bank (requireFunds account amount) (throw (.mismatched .decimalOutOfRange)) :=
  (comparedBalance_fails large).fails _

theorem client_barred
    {id : Identifier}
    {failure : Failure}
    (bars : bank.tables.Bars id failure)
    (forUpdate : Bool)
    (rest : Account → Work Answer) :
    ComesTo bank
      (do
        let account ← Work.account id forUpdate
        refuseSystem account
        rest account)
      (throw failure) := by
  cases bars with
  | unknown absent => exact ComesTo.fails (account_absent absent forUpdate) _
  | @system account present own =>
      have fails : ComesTo bank (refuseSystem account) (throw (.systemAccount account.id)) :=
        refuseSystem_fails own
      rw [(Tables.account?_eq_some present).2] at fails
      exact ComesTo.after (account_present present forUpdate) (fails.fails _)

theorem client_serves
    {id : Identifier}
    {rest : Account → Work Answer}
    {target : Work Answer}
    (client : bank.tables.Serves id account)
    (forUpdate : Bool)
    (goes : ComesTo bank (rest account) target) :
    ComesTo bank
      (do
        let account ← Work.account id forUpdate
        refuseSystem account
        rest account)
      target :=
  ComesTo.after (account_present client.present forUpdate) <|
    ComesTo.after (refuseSystem_passes client.serves) goes

/-- Whichever of two accounts is locked first, each is answered in its own place. -/
theorem lockedPair_present
    {first second : Identifier}
    {firstAccount secondAccount : Account}
    (presentFirst : bank.tables.account? first = some firstAccount)
    (presentSecond : bank.tables.account? second = some secondAccount) :
    ComesTo bank (lockedPair first second) (pure (firstAccount, secondAccount)) := by
  have lockFirst := account_present presentFirst true
  have lockSecond := account_present presentSecond true
  rw [lockedPair]
  split
  · exact lockFirst.after (lockSecond.after (.refl _))
  · exact lockSecond.after (lockFirst.after (.refl _))

end Service

end Bookkeeping
