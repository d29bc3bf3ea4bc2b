import Bookkeeping.Proofs.Checks
import Bookkeeping.Proofs.Journal

/-!
# How a movement ends

A call that moves money fails as soon as a check fails, and leaves the bank as it was.  Where
nothing is wrong, the money is moved, and that fails only where a description is nothing that
the database can keep.

The bank after a movement is told as a whole.  It differs from the one before by two entries,
by the two balances that these entries explain, and by what was drawn from the sources; nothing
else is different.
-/

namespace Bookkeeping

open Session

variable {Answer : Type}

/-! ## Banks that are well formed -/

/-- Accounts have identifiers of their own, and no entry bears a group that has yet to be drawn. -/
structure Bank.WellFormed (bank : Bank) : Prop where
  distinct : (bank.tables.accounts.map Account.id).Nodup
  given : ∀ account ∈ bank.tables.accounts, account.id ≠ .missing
  unused :
    ∀ entry ∈ bank.tables.entries,
      ∀ count, bank.sources.groups < count → entry.group ≠ .drawn .group count

namespace Bank.WellFormed

variable {bank : Bank} {id : Identifier} {account : Account}

theorem given?_of_account
    (wellFormed : bank.WellFormed)
    (present : bank.tables.account? id = some account) :
    id.given? = some id := by
  rcases Tables.account?_eq_some present with ⟨member, rfl⟩
  rw [Identifier.given?, if_neg (wellFormed.given account member)]

/-- The group that is upcoming is a new one. -/
theorem upcoming_unused
    (wellFormed : bank.WellFormed)
    {entry : Entry}
    (posted : entry ∈ bank.tables.entries) :
    entry.group ≠ bank.sources.upcoming .group :=
  wellFormed.unused entry posted _ (Nat.lt_succ_self _)

end Bank.WellFormed

/-- After every run of ordinary steps the bank is well formed, as long as the sources suffice. -/
theorem Opening.after_wellFormed
    (settings : Settings)
    (isMigrated : Bool)
    {steps : List Step}
    (ordinary : ∀ step ∈ steps, step.isOrdinary = true)
    (suffice : (after settings isMigrated steps).bank.sources.Suffice) :
    (after settings isMigrated steps).bank.WellFormed := by
  have sound := (after_sound settings isMigrated steps).1
  rcases after_journaled settings isMigrated ordinary with ⟨movements, journaled⟩
  refine ⟨sound.distinct, ?_, ?_⟩
  · rintro account member missing
    have given := sound.given?_of_account suffice (sound.account?_of_mem member)
    rw [missing] at given
    cases given
  · intro entry posted count beyond same
    rw [journaled.entries] at posted
    rcases List.mem_flatMap.mp posted with ⟨movement, member, written⟩
    rcases journaled.drawn movement member with ⟨drawn, bound, group⟩
    rw [journaled.shared movement member entry written, group] at same
    have sameCount := Identifier.drawn_injective .group same
    omega

/-- An amount was named, and a unit of work can be opened for it. -/
structure Bank.TakesUp (bank : Bank) (amount : Value) (units : Money) : Prop where
  named : Money.ofValue? amount = some units
  opens : Isolation.isUsable bank.isolation = true

/-! ## What an activity ends in -/

/-- What was answered or how it failed, without the state that is left. -/
def answerOf {State : Type} : EStateM.Result Failure State Answer → Except Failure Answer
  | .ok answer _ => .ok answer
  | .error failure _ => .error failure

/-- At a desk an activity has an outcome, and leaves a bank. -/
structure Activity.EndsIn
    (activity : Activity Answer)
    (desk : Desk)
    (outcome : Except Failure Answer)
    (bank : Bank) : Prop where
  answers : answerOf (activity desk) = outcome
  leaves : (stateOf (activity desk)).bank = bank

namespace Activity.EndsIn

variable {desk : Desk} {bank : Bank}

theorem of_ok
    {activity : Activity Answer}
    {answer : Answer}
    {later : Desk}
    (answered : activity desk = .ok answer later) :
    activity.EndsIn desk (.ok answer) later.bank := by
  constructor
  · rw [answered]
    rfl
  · rw [answered]
    rfl

theorem of_error
    {activity : Activity Answer}
    {failure : Failure}
    {later : Desk}
    (refused : activity desk = .error failure later) :
    activity.EndsIn desk (.error failure) later.bank := by
  constructor
  · rw [refused]
    rfl
  · rw [refused]
    rfl

theorem unique
    {activity : Activity Answer}
    {first second : Except Failure Answer}
    {firstBank secondBank : Bank}
    (one : activity.EndsIn desk first firstBank)
    (other : activity.EndsIn desk second secondBank) :
    first = second ∧ firstBank = secondBank :=
  ⟨one.answers.symm.trans other.answers, one.leaves.symm.trans other.leaves⟩

/-- What follows on an answer and leaves the bank alone changes neither of them. -/
theorem followed
    {activity : Activity Answer}
    {outcome : Except Failure Answer}
    {telling : Answer → Activity Unit}
    (ends : activity.EndsIn desk outcome bank)
    (tells :
      ∀ answer later, ∃ last, telling answer later = .ok () last ∧ last.bank = later.bank) :
    EndsIn
      (do
        let answer ← activity
        telling answer
        return answer)
      desk outcome bank := by
  rcases ends with ⟨rfl, rfl⟩
  cases ended : activity desk with
  | ok answer later =>
      rcases tells answer later with ⟨last, told, same⟩
      rw [stateOf, ← same]
      exact of_ok ((sequence_after ended).trans (sequence_ok told rfl))
  | error failure later => exact of_error (sequence_error_iff.mpr (Or.inl ended))

/-- What is put on record afterwards changes neither the outcome nor the bank. -/
theorem told
    {activity : Activity Answer}
    {outcome : Except Failure Answer}
    (ends : activity.EndsIn desk outcome bank)
    (announcement : Answer → Announcement) :
    EndsIn
      (do
        let answer ← activity
        Activity.announce (announcement answer)
        return answer)
      desk outcome bank :=
  ends.followed fun _ _ => ⟨_, rfl, rfl⟩

/-- An amount that was named is taken up by what follows. -/
theorem named
    {value : Value}
    {units : Money}
    {rest : Money → Activity Answer}
    {outcome : Except Failure Answer}
    (named : Money.ofValue? value = some units)
    (ends : (rest units).EndsIn desk outcome bank) :
    EndsIn (Service.amountOf value >>= rest) desk outcome bank := by
  have answered := Service.amountOf_answers (Amount.ofValue_eq_of_named named) desk
  constructor
  · rw [sequence_after answered]
    exact ends.answers
  · rw [sequence_after answered]
    exact ends.leaves

theorem unnamed
    {value : Value}
    (unnamed : Money.ofValue? value = none)
    (rest : Money → Activity Answer) :
    EndsIn (Service.amountOf value >>= rest) desk (.error (Amount.refusal value)) desk.bank := by
  have refused : Service.amountOf value desk = .error (Amount.refusal value) desk := by
    rw [Service.amountOf, Amount.ofValue_eq_of_unnamed unnamed]
    rfl
  exact of_error (sequence_error_iff.mpr (Or.inl refused))

end Activity.EndsIn

/-! ## Units of work that only check -/

/-- The level of isolation that units of work ask for by themselves is refused. -/
structure Isolation.Refused (level : Value) (failure : Failure) : Prop where
  asked : level.isTruthy = true
  unknown : Isolation.ofValue level = .error failure

theorem Isolation.isUsable_or_refused (level : Value) :
    Isolation.isUsable level = true ∨ ∃ failure, Refused level failure := by
  rw [Isolation.isUsable]
  cases asked : level.isTruthy with
  | false => exact Or.inl rfl
  | true =>
      cases known : Isolation.ofValue level with
      | ok isolation => exact Or.inl rfl
      | error failure => exact Or.inr ⟨failure, asked, known⟩

/-- Where the level is unknown, nothing is begun, whoever holds the lock. -/
theorem Session.opened_refused
    {desk : Desk}
    {failure : Failure}
    (refused : Isolation.Refused desk.bank.isolation failure)
    (surroundings : Surroundings) :
    opened surroundings .null desk = .error failure := by
  have requested : requestedLevel .null desk.bank.isolation = some desk.bank.isolation := by
    rw [requestedLevel, if_neg (by simp [Value.isTruthy]), if_pos refused.asked]
  simp only [opened, requested, refused.unknown]
  rfl

namespace Work

variable {desk : Desk} {body : Work Answer}

/-- Where the level is refused, the body is not even begun. -/
theorem inUnit_unopened
    {failure : Failure}
    (refused : Isolation.Refused desk.bank.isolation failure)
    (body : Work Answer) :
    (body.inUnit .calm .null).EndsIn desk (.error failure) desk.bank := by
  have ended : body.inUnit .calm .null desk = .error failure desk := by
    rw [inUnit, opened_refused refused]
  exact .of_error ended

/-- A unit of work ends as what its body comes to, in a session that sees the bank as it is. -/
theorem inUnit_comes
    {target : Work Answer}
    (known : Isolation.isUsable desk.bank.isolation = true)
    (comes : ComesTo desk.bank body target) :
    ∃ session,
      Sees desk.bank session ∧
        body.inUnit .calm .null desk = conclude Surroundings.calm.fault (target session) := by
  have free : Surroundings.calm.locked = false := rfl
  rcases inUnit_runs body free known with ⟨opening, fresh, ends⟩
  rcases comes opening fresh.sees with ⟨session, sees, same⟩
  exact ⟨session, sees, by rw [ends, same]⟩

/-- A unit of work whose body comes to an answer gives it, and leaves the bank alone. -/
theorem inUnit_reads
    {answer : Answer}
    (known : Isolation.isUsable desk.bank.isolation = true)
    (comes : ComesTo desk.bank body (pure answer)) :
    (body.inUnit .calm .null).EndsIn desk (.ok answer) desk.bank := by
  rcases inUnit_comes known comes with ⟨session, sees, ends⟩
  have ended : body.inUnit .calm .null desk = .ok answer session.committed :=
    ends.trans
      (conclude_answers answer rfl sees.able.usable sees.able.nothing sees.able.unrevised)
  have same : session.committed.bank = desk.bank := by
    rw [committed_bank (by rw [sees.tables, sees.committed]), sees.committed]
  rw [← same]
  exact .of_ok ended

/-- A unit of work whose body comes to a failure fails with it, and leaves the bank alone. -/
theorem inUnit_refused
    {failure : Failure}
    (known : Isolation.isUsable desk.bank.isolation = true)
    (comes : ComesTo desk.bank body (throw failure)) :
    (body.inUnit .calm .null).EndsIn desk (.error failure) desk.bank := by
  rcases inUnit_comes known comes with ⟨session, sees, ends⟩
  have ended : body.inUnit .calm .null desk = .error failure session.desk := ends
  rw [← sees.committed]
  exact .of_error ended

end Work

/-! ## Descriptions -/

/-- A description counts as given, and is nothing that the database can keep. -/
structure Value.IsUnkept (description : Value) (failure : Failure) : Prop where
  given : description.isTruthy = true
  unkept : storedText 7 description = .error failure

/-- Where no description is given, there is none that could not be kept. -/
theorem Value.not_isUnkept_null (failure : Failure) : ¬ null.IsUnkept failure := by
  rintro ⟨⟨⟩⟩

namespace Service

variable {description : Value} {usual : String}

theorem describe_unkept
    {failure : Failure}
    (unkept : description.IsUnkept failure)
    (usual : String) :
    storedText 7 (describe description usual) = .error failure := by
  rw [describe, if_pos unkept.given, unkept.unkept]

theorem describe_answers
    (kept : ∀ failure, ¬ description.IsUnkept failure)
    (words : storedText 7 (.text usual) = .ok (some usual)) :
    storedText 7 (describe description usual) = .ok (description.keptOr usual) := by
  cases given : description.isTruthy with
  | false => simpa [describe, Value.keptOr, given] using words
  | true =>
      cases stored : storedText 7 description with
      | ok kept? => simp [describe, Value.keptOr, given, stored, Value.kept?_eq stored]
      | error failure => exact absurd ⟨given, stored⟩ (kept failure)

end Service

/-! ## Units of work that move money -/

/-- The leg for an account on which a movement has an effect. -/
def Leg.ofEffect (account : Identifier) (effect : Money) (description : Option String) : Leg where
  account := account
  debit := max 0 (-effect)
  credit := max 0 effect
  description := description

/-- An account after what a leg debits or credits, if it is the one that is meant. -/
def Leg.settle (leg : Leg) (account : Account) : Account :=
  Tables.movedAccount leg.account (leg.credit - leg.debit) account

/-- The bank after a movement: its legs are entered, and both of them are settled. -/
def Bank.afterMovement (bank : Bank) (operation : Operation) (first second : Leg) : Bank :=
  { bank with
    tables :=
      { bank.tables with
        accounts := bank.tables.accounts.map fun account => second.settle (first.settle account)
        entries := bank.tables.entries ++ bank.sources.pair operation first second }
    sources := bank.sources.afterMovement }

theorem Leg.settle_ofEffect
    (id : Identifier)
    (effect : Money)
    (description : Option String)
    (account : Account) :
    (Leg.ofEffect id effect description).settle account =
      Tables.movedAccount id effect account := by
  have cancelling (units : Int) : max 0 units - max 0 (-units) = units := by omega
  rw [settle, ofEffect, cancelling effect]

/-- What an effect debits or credits, where it is known whether it is negative. -/
theorem Leg.ofEffect_of_pos
    {units : Money}
    (positive : 0 < units)
    (account : Identifier)
    (description : Option String) :
    ofEffect account units description = ⟨account, 0, units, description⟩ ∧
      ofEffect account (-units) description = ⟨account, units, 0, description⟩ := by
  rcases Movement.sides_of_pos positive with ⟨spent, gained⟩
  simp only [ofEffect, Int.neg_neg, spent, gained, and_self]

theorem Session.committed_eq (session : Session) :
    session.committed.bank = { session.desk.bank with tables := session.tables } := by
  rw [committed, Session.tables]
  cases session.pending with
  | none => rfl
  | some tables => rfl

namespace Service

open Work

variable
  {desk : Desk} {body : Work Identifier} {operation : Operation} {firstId secondId : Identifier}
  {effect : Money} {firstDescription secondDescription : Value}

/-- A movement that was made in a session that sees the bank leads to the bank after it. -/
theorem move_commits
    {bank : Bank}
    {before after : Session}
    {group : Identifier}
    (sees : Sees bank before)
    (able : Able after)
    (advanced : after.sources = bank.sources.afterMovement)
    (moved :
      move operation firstId secondId effect firstDescription secondDescription before =
        .ok group after) :
    after.committed.bank =
      bank.afterMovement operation (.ofEffect firstId effect firstDescription.kept?)
        (.ofEffect secondId (-effect) secondDescription.kept?) := by
  rcases move_ok sees.able.nothing moved with ⟨rfl, early, late, rowEarly, rowLate, evolved, -⟩
  have sameSources : before.sources = bank.sources := by rw [Session.sources, sees.committed]
  have debits := side_records operation (before.sources.upcoming .group) firstId effect
    firstDescription (before.sources.advance .group)
  have credits := side_records operation (before.sources.upcoming .group) secondId (-effect)
    secondDescription ((before.sources.advance .group).afterMaking .entry)
  rw [← rowEarly] at debits
  rw [← rowLate] at credits
  rw [Session.committed_eq, evolved.bank, evolved.applied able.usable, sees.tables, sees.committed,
    advanced, Bank.afterMovement]
  simp only [List.foldl_cons, List.foldl_nil, Write.apply, Entry.settling, debits.account,
    debits.effect, credits.account, credits.effect, List.map_map, List.append_assoc,
    List.singleton_append, Leg.settle_ofEffect]
  rw [rowEarly, rowLate, sameSources]
  rfl

/-- An entry is refused if its description cannot be kept; an identifier was drawn for it. -/
theorem post_unkept
    {before : Session}
    {failure : Failure}
    (posting : Posting)
    (able : Able before)
    (early : before.sources.clock.microseconds < Timestamp.lastSecond.microseconds)
    (unkept : storedText 7 posting.description = .error failure) :
    ∃ after,
      post posting before = .error failure after ∧
        after.desk.bank =
          { before.desk.bank with sources := before.sources.afterMaking .entry } := by
  rcases make_answers .entry able early with ⟨made, making, ableThen⟩
  rcases make_ok making with ⟨-, -, advanced, -⟩
  have drawing := ((make_evolved .entry).of_ok making).bank
  rw [advanced] at drawing
  have refused :
      ∃ after,
        insertAhead
              (fun tables =>
                tables.insertEntry
                  (posting.draft (before.sources.upcoming .entry) before.sources.clock))
              made =
            .error failure after ∧
          after.desk = made.desk := by
    refine ⟨{ made with pending := some made.tables }.undone failure, ?_, ?_⟩
    · simp only [insertAhead, flush, view_answers ableThen.usable ableThen.free,
        ableThen.unrevised, Revision.updates, List.filterMap_nil, Tables.updateEntries_nil,
        Tables.insertEntry, Posting.draft, unkept, bind, Except.bind]
    · simp only [Session.undone, ableThen.usable]
  rcases refused with ⟨after, refused, sameDesk⟩
  refine ⟨after, (sequence_after making).trans ?_, by rw [sameDesk, drawing]⟩
  exact sequence_error_iff.mpr (Or.inl refused)

/-- A unit of work whose body comes to a movement ends with the bank after it. -/
theorem inUnit_moves
    {first second : Account}
    {firstKept? secondKept? : Option String}
    (wellFormed : desk.bank.WellFormed)
    (suffice : desk.bank.sources.Suffice)
    (known : Isolation.isUsable desk.bank.isolation = true)
    (moves : effect ≠ 0)
    (presentFirst : desk.bank.tables.account? firstId = some first)
    (presentSecond : desk.bank.tables.account? secondId = some second)
    (keptFirst : storedText 7 firstDescription = .ok firstKept?)
    (keptSecond : storedText 7 secondDescription = .ok secondKept?)
    (comes :
      ComesTo desk.bank body
        (move operation firstId secondId effect firstDescription secondDescription)) :
    (body.inUnit .calm .null).EndsIn desk (.ok (desk.bank.sources.upcoming .group))
      (desk.bank.afterMovement operation (.ofEffect firstId effect firstKept?)
        (.ofEffect secondId (-effect) secondKept?)) := by
  rcases inUnit_comes known comes with ⟨session, sees, ends⟩
  have sameSources : session.sources = desk.bank.sources := by
    rw [Session.sources, sees.committed]
  have givenFirst := wellFormed.given?_of_account presentFirst
  have givenSecond := wellFormed.given?_of_account presentSecond
  rw [← sameSources] at suffice
  rw [← sees.tables] at presentFirst presentSecond
  rcases move_answers sees.able suffice moves givenFirst givenSecond (by rw [presentFirst]; rfl)
      (by rw [presentSecond]; rfl) keptFirst keptSecond with
    ⟨after, moved, able, advanced⟩
  rw [sameSources] at moved advanced
  have commits := move_commits sees able advanced moved
  rw [Value.kept?_eq keptFirst, Value.kept?_eq keptSecond] at commits
  rw [moved, conclude_answers _ rfl able.usable able.nothing able.unrevised] at ends
  rw [← commits]
  exact .of_ok ends

/--
A unit of work whose body comes to a movement fails where the first description cannot be kept;
nothing stays of it but that a group and an entry were drawn.
-/
theorem inUnit_unkept
    {failure : Failure}
    (suffice : desk.bank.sources.Suffice)
    (known : Isolation.isUsable desk.bank.isolation = true)
    (unkept : storedText 7 firstDescription = .error failure)
    (comes :
      ComesTo desk.bank body
        (move operation firstId secondId effect firstDescription secondDescription)) :
    (body.inUnit .calm .null).EndsIn desk (.error failure)
      { desk.bank with sources := (desk.bank.sources.advance .group).afterMaking .entry } := by
  rcases inUnit_comes known comes with ⟨session, sees, ends⟩
  rcases drawGroup_answers sees.able with ⟨drawn, drawing, able, -⟩
  rcases drawGroup_ok drawing with ⟨-, advanced, -⟩
  have bankDrawn := (drawGroup_evolved.of_ok drawing).bank
  rw [advanced, Session.sources, sees.committed] at bankDrawn
  have early : drawn.sources.clock.microseconds < Timestamp.lastSecond.microseconds := by
    rw [advanced, Session.sources, sees.committed]
    exact suffice.early
  rcases post_unkept (side operation _ firstId effect firstDescription) able early unkept with
    ⟨after, refused, bankAfter⟩
  have moving :
      move operation firstId secondId effect firstDescription secondDescription session =
        .error failure after :=
    (sequence_after drawing).trans (sequence_error_iff.mpr (Or.inl refused))
  rw [moving] at ends
  have ended : body.inUnit .calm .null desk = .error failure after.desk := ends
  rw [bankDrawn, Session.sources, bankDrawn] at bankAfter
  rw [← bankAfter]
  exact .of_error ended

end Service

/-! ## A bank to look at -/

namespace Sample

/-- Two accounts of a client, into one of which something is paid. -/
def funding : List Step :=
  [.call (.createUser (.text "ada@example.com")),
    .call (.openAccount (.drawn .user 1) (.text "Savings") .null),
    .call (.openAccount (.drawn .user 1) (.text "Rent") .null),
    .call (.deposit rent (.text "20.5") .null)]

theorem funding_ordinary : ∀ step ∈ funding, step.isOrdinary = true := by decide

def funded : Desk :=
  Opening.after settings true funding

/-- A text with half of a character. -/
def half : Value :=
  .text (String.ofList (Text.pointCharacters 0xD800))

theorem half_unkept : half.IsUnkept (.unwritable ⟨0, 0xD800, 1⟩) :=
  ⟨by decide, rfl⟩

theorem funded_opens : Isolation.isUsable funded.bank.isolation = true := by decide +kernel

theorem funded_group : funded.bank.sources.upcoming .group = .drawn .group 2 := by decide +kernel

theorem funded_suffice : funded.bank.sources.Suffice :=
  ⟨by decide +kernel, by decide +kernel, by decide +kernel⟩

theorem funded_wellFormed : funded.bank.WellFormed :=
  Opening.after_wellFormed settings true funding_ordinary funded_suffice

/-- The bank under settings that name a settlement account and a level of isolation. -/
def reconfigured (name level : Value) : Desk :=
  { funded with
    bank :=
      { funded.bank with
        policy := { funded.bank.policy with settlementName := name }
        isolation := level } }

theorem reconfigured_wellFormed (name level : Value) : (reconfigured name level).bank.WellFormed :=
  ⟨funded_wellFormed.distinct, funded_wellFormed.given, funded_wellFormed.unused⟩

/-- A level of isolation that some databases have and this one does not know. -/
theorem snapshot_refused : Isolation.Refused (.text "SNAPSHOT") (.unknownIsolation "SNAPSHOT") := by
  have unknown : Isolation.ofText? "SNAPSHOT" = none := by decide +kernel
  have capitals : Isolation.normalized "SNAPSHOT" = "SNAPSHOT" := by decide +kernel
  constructor
  · decide
  · simp only [Isolation.ofValue, unknown, capitals]

/-- Both accounts are the client's, in one currency, and one of them holds what was paid in. -/
theorem funded_serves :
    ∃ payer payee : Account,
      funded.bank.tables.Serves rent payer ∧ funded.bank.tables.Serves savings payee ∧
        payer.currency = "NGN" ∧ payee.currency = "NGN" ∧ payer.balance = 205000 := by
  have rows :
      ((funded.bank.tables.account? rent).any fun row =>
            !row.isSystem && row.currency == "NGN" && row.balance == 205000) = true ∧
        ((funded.bank.tables.account? savings).any fun row =>
            !row.isSystem && row.currency == "NGN") = true := by
    decide +kernel
  rcases (Option.any_eq_true _ _).mp rows.1 with ⟨payer, pays, fits⟩
  rcases (Option.any_eq_true _ _).mp rows.2 with ⟨payee, receives, suits⟩
  simp only [Bool.and_eq_true, Bool.not_eq_true', beq_iff_eq] at fits suits
  exact ⟨payer, payee, ⟨pays, fits.1.1⟩, ⟨receives, suits.1⟩, fits.1.2, suits.2, fits.2⟩

end Sample

end Bookkeeping
