import Bookkeeping.Proofs.Refusals

/-!
# What calls enter

What a call that moves money enters in the journal can be said from the call and from the
bank that it finds: two entries under the group that is upcoming, the first one for the
account that the call is about.  A call that is answered by a group has entered this pair
and nothing else.  A call of another kind enters nothing, and neither does a call that
fails.
-/

namespace Bookkeeping

open Session

/-! ## What is to be entered -/

/-- What is entered for one account: money that leaves it or reaches it, and a description. -/
structure Leg where
  account : Identifier
  debit : Money
  credit : Money
  description : Option String

/-- A leg as the entry that is made of it. -/
def Leg.entry
    (leg : Leg)
    (operation : Operation)
    (group id : Identifier)
    (createdAt : Timestamp) :
    Entry where
  id := id
  account := leg.account
  debit := leg.debit
  credit := leg.credit
  group := group
  operation := operation
  description := leg.description
  createdAt := createdAt

/-- The two entries that an operation makes of its legs when it finds sources, in their order. -/
def Sources.pair
    (sources : Sources)
    (operation : Operation)
    (first second : Leg) :
    List Entry :=
  let group := Identifier.drawn .group (sources.groups + 1)
  [first.entry operation group (.drawn .entry (sources.entries + 1)) sources.clock,
    second.entry operation group (.drawn .entry (sources.entries + 2)) sources.clock.next]

/-- The text that is kept of a description, or another one where none was given. -/
def Value.keptOr (description : Value) (usual : String) : Option String :=
  if description.isTruthy then description.kept? else some usual

/-- The bank's own account by which money comes in and goes out. -/
def Bank.settlement? (bank : Bank) : Option Account :=
  bank.policy.settlementName.kept?.bind bank.tables.settlement?

/-- The entries that a call makes if the bank that it finds acknowledges it. -/
def Call.entries (bank : Bank) : Call → List Entry
  | .deposit account amount description =>
    match Money.ofValue? amount, bank.settlement? with
    | some units, some settlement =>
      bank.sources.pair .deposit
        ⟨account, 0, units, description.keptOr "External deposit"⟩
        ⟨settlement.id, units, 0, some ("Deposit to account " ++ account.text)⟩
    | _, _ => []
  | .withdraw account amount description =>
    match Money.ofValue? amount, bank.settlement? with
    | some units, some settlement =>
      bank.sources.pair .withdrawal
        ⟨account, units, 0, description.keptOr "External withdrawal"⟩
        ⟨settlement.id, 0, units, some ("Withdrawal from " ++ account.text)⟩
    | _, _ => []
  | .transfer source destination amount description =>
    match Money.ofValue? amount with
    | some units =>
      bank.sources.pair .transfer
        ⟨source, units, 0, description.keptOr ("Transfer to " ++ destination.text)⟩
        ⟨destination, 0, units, description.keptOr ("Transfer from " ++ source.text)⟩
    | none => []
  | _ => []

/-! ## Pairs of entries -/

namespace Sources

variable {sources : Sources} {operation : Operation} {first second : Leg}

/-- Both entries of a pair bear the group that was upcoming. -/
theorem group_of_pair
    {entry : Entry}
    (member : entry ∈ sources.pair operation first second) :
    entry.group = sources.upcoming .group := by
  rcases List.mem_pair.mp member with rfl | rfl
  · rfl
  · rfl

/-- The second entry of a pair is made a second later, so the two are listed as they were made. -/
theorem oldestFirst_pair :
    oldestFirst Entry.createdAt (sources.pair operation first second) =
      sources.pair operation first second := by
  have later : sources.clock.microseconds ≤ sources.clock.next.microseconds := by
    simp only [Timestamp.next]
    omega
  exact oldestFirst_of_le later

end Sources

/-! ## What is entered -/

theorem storedText_text
    {place : Nat}
    {text : String}
    {kept? : Option String}
    (kept : storedText place (.text text) = .ok kept?) :
    kept? = some text := by
  rw [storedText, storedString] at kept
  split at kept
  · cases kept
    rfl
  · cases kept

/-- A bank has entered what a call makes, under the group that was upcoming. -/
structure Bank.Enters
    (bank : Bank)
    (call : Call)
    (group : Identifier)
    (tables : Tables)
    (sources : Sources) : Prop where
  group : group = bank.sources.upcoming .group
  paired : ∃ operation first second, call.entries bank = bank.sources.pair operation first second
  entries : tables.entries = bank.tables.entries ++ call.entries bank
  advanced : (bank.sources.advance .group).Precedes sources

namespace Service

open Work

variable {barred : Bool} {desk : Desk} {session final : Session} {group : Identifier}

/-- The text that is kept of a description is the one given, or else the usual one. -/
theorem describe_kept
    {place : Nat}
    {description : Value}
    {usual : String}
    {kept? : Option String}
    (kept : storedText place (describe description usual) = .ok kept?) :
    kept? = description.keptOr usual := by
  rw [describe] at kept
  rw [Value.keptOr]
  split at kept
  · rename_i given
    rw [if_pos given]
    exact (Value.kept?_eq kept).symm
  · rename_i missing
    rw [if_neg missing]
    exact storedText_text kept

/-- Moving money enters the pair of its two sides, and nothing else. -/
theorem move_enters
    {call : Call}
    {operation : Operation}
    {firstId secondId : Identifier}
    {effect : Money}
    {firstDescription secondDescription : Value}
    {first : Session}
    (fresh : Fresh barred desk session)
    (looking : Untouched session first)
    (usable : final.undoneBy = none)
    (moved :
      move operation firstId secondId effect firstDescription secondDescription first =
        .ok group final)
    (made :
      storedText 7 firstDescription = .ok firstDescription.kept? →
        storedText 7 secondDescription = .ok secondDescription.kept? →
          call.entries desk.bank =
            desk.bank.sources.pair operation
              ⟨firstId, max 0 (-effect), max 0 effect, firstDescription.kept?⟩
              ⟨secondId, max 0 (- -effect), max 0 (-effect), secondDescription.kept?⟩) :
    desk.bank.Enters call group final.tables final.sources ∧ final.staged = [] := by
  rcases move_ok (looking.staged.trans fresh.staged) moved with
    ⟨drawn, early, late, rowEarly, rowLate, evolved, advanced, staged, keptEarly, keptLate⟩
  have sameSources : first.sources = desk.bank.sources := by
    rw [Session.sources, looking.desk, fresh.desk]
  have sameTables : first.tables = desk.bank.tables := looking.tables.trans fresh.tables
  have entered := made keptEarly keptLate
  rw [sameSources] at drawn rowEarly rowLate advanced
  refine ⟨⟨drawn, ⟨_, _, _, entered⟩, ?_, advanced⟩, staged⟩
  rw [evolved.applied usable, sameTables, entered, rowEarly, rowLate, drawn]
  simp only [List.foldl_cons, List.foldl_nil, Write.apply, Entry.settling, List.append_assoc,
    List.singleton_append]
  rfl

theorem depositing_enters
    {account : Identifier}
    {amount description : Value}
    {units : Money}
    (fresh : Fresh barred desk session)
    (named : Money.ofValue? amount = some units)
    (positive : 0 < units)
    (usable : final.undoneBy = none)
    (deposited : depositing account units description session = .ok group final) :
    desk.bank.Enters (.deposit account amount description) group final.tables final.sources ∧
      final.staged = [] := by
  rcases sequence_ok_iff.mp deposited with ⟨⟨settlement, client⟩, first, found, moved⟩
  have looking := (counterparties_untouched account).of_ok found
  rcases counterparties_found found with ⟨settles, present, -, -⟩
  rw [fresh.desk, fresh.tables] at settles
  have sameId : client.id = account := (Tables.account?_eq_some present).2
  refine move_enters fresh looking usable moved ?_
  intro keptFirst keptSecond
  rw [describe_kept keptFirst, storedText_text keptSecond, sameId]
  rcases Movement.sides_of_pos positive with ⟨spent, gained⟩
  simp only [Call.entries, named, Bank.settlement?, settles, spent, gained, Int.neg_neg]

theorem withdrawing_enters
    {account : Identifier}
    {amount description : Value}
    {units : Money}
    (fresh : Fresh barred desk session)
    (named : Money.ofValue? amount = some units)
    (positive : 0 < units)
    (usable : final.undoneBy = none)
    (withdrawn : withdrawing account units description session = .ok group final) :
    desk.bank.Enters (.withdraw account amount description) group final.tables final.sources ∧
      final.staged = [] := by
  rcases sequence_ok_iff.mp withdrawn with ⟨⟨settlement, client⟩, first, found, rest⟩
  rcases sequence_ok_iff.mp rest with ⟨⟨⟩, second, funded, moved⟩
  have looking := (counterparties_untouched account).of_ok found
  rcases counterparties_found found with ⟨settles, present, -, -⟩
  rcases requireFunds_ok funded with ⟨-, -, rfl⟩
  rw [fresh.desk, fresh.tables] at settles
  have sameId : client.id = account := (Tables.account?_eq_some present).2
  refine move_enters fresh looking usable moved ?_
  intro keptFirst keptSecond
  rw [describe_kept keptFirst, storedText_text keptSecond, sameId]
  rcases Movement.sides_of_pos positive with ⟨spent, gained⟩
  simp only [Call.entries, named, Bank.settlement?, settles, spent, gained, Int.neg_neg]

theorem transferring_enters
    {source destination : Identifier}
    {amount description : Value}
    {units : Money}
    (fresh : Fresh barred desk session)
    (named : Money.ofValue? amount = some units)
    (positive : 0 < units)
    (usable : final.undoneBy = none)
    (transferred : transferring source destination units description session = .ok group final) :
    desk.bank.Enters (.transfer source destination amount description) group final.tables
        final.sources ∧
      final.staged = [] := by
  rcases transferring_ok fresh.shown transferred with
    ⟨payer, payee, last, foundPayer, foundPayee, -, -, -, -, looking, moved⟩
  have samePayer : payer.id = source := (Tables.account?_eq_some foundPayer).2
  have samePayee : payee.id = destination := (Tables.account?_eq_some foundPayee).2
  refine move_enters fresh looking usable moved ?_
  intro keptFirst keptSecond
  rw [describe_kept keptFirst, describe_kept keptSecond, samePayer, samePayee]
  rcases Movement.sides_of_pos positive with ⟨spent, gained⟩
  simp only [Call.entries, named, spent, gained, Int.neg_neg]

/-- A unit of work commits what its body has entered. -/
theorem inUnit_enters
    {surroundings : Surroundings}
    {call : Call}
    {body : Work Identifier}
    {later : Desk}
    (enters :
      ∀ session final,
        Fresh surroundings.locked desk session →
          final.undoneBy = none →
            body session = .ok group final →
              desk.bank.Enters call group final.tables final.sources ∧ final.staged = [])
    (ended : body.inUnit surroundings .null desk = .ok group later) :
    desk.bank.Enters call group later.bank.tables later.bank.sources := by
  rcases inUnit_ok ended with ⟨session, final, last, fresh, answered, completed, rfl⟩
  rcases complete_ok completed with ⟨usable, -, same, -⟩
  rcases enters session final fresh usable answered with ⟨entered, staged⟩
  cases same staged
  rw [committed_tables, committed_sources]
  exact entered

theorem moving_enters
    {surroundings : Surroundings}
    {call : Call}
    {body : Work Identifier}
    {told : Identifier → Announcement}
    {later : Desk}
    (enters :
      ∀ session final,
        Fresh surroundings.locked desk session →
          final.undoneBy = none →
            body session = .ok group final →
              desk.bank.Enters call group final.tables final.sources ∧ final.staged = [])
    (answered :
      (do
        let group ← body.inUnit surroundings .null
        Activity.announce (told group)
        return group : Activity Identifier) desk = .ok group later) :
    desk.bank.Enters call group later.bank.tables later.bank.sources ∧
      Isolation.isUsable desk.bank.isolation = true := by
  rcases sequence_ok_iff.mp answered with ⟨drawn, first, ended, rest⟩
  rcases sequence_ok_iff.mp rest with ⟨⟨⟩, second, announced, answer⟩
  rcases pure_ok_iff.mp answer with ⟨rfl, rfl⟩
  cases announced
  have entered := inUnit_enters enters ended
  exact ⟨entered, inUnit_usable ended⟩

theorem amountOf_eq
    {value : Value}
    {amount : Money}
    {later : Desk}
    (named : amountOf value desk = .ok amount later) :
    Money.ofValue? value = some amount ∧ 0 < amount ∧ later = desk := by
  have positive := (amountOf_ok named).1
  rw [amountOf] at named
  cases read : Amount.ofValue value with
  | error failure =>
      rw [read] at named
      cases named
  | ok units =>
      rw [read] at named
      cases named
      exact ⟨by rw [Money.ofValue?, read, Except.toOption], positive, rfl⟩

end Service

namespace Call

variable {surroundings : Surroundings} {call : Call} {desk later : Desk}

/-- A call that is answered by a group has entered what it makes under that group. -/
theorem perform_enters
    {group : Identifier}
    (performed : call.perform surroundings desk = .ok (.group group) later) :
    desk.bank.Enters call group later.bank.tables later.bank.sources ∧
      Isolation.isUsable desk.bank.isolation = true := by
  cases call with
  | deposit account amount description =>
      rcases map_ok_iff.mp performed with ⟨_, answered, ⟨⟩⟩
      rcases sequence_ok_iff.mp answered with ⟨units, first, named, moved⟩
      rcases Service.amountOf_eq named with ⟨names, positive, rfl⟩
      exact
        Service.moving_enters
          (fun _ _ fresh => Service.depositing_enters fresh names positive) moved
  | withdraw account amount description =>
      rcases map_ok_iff.mp performed with ⟨_, answered, ⟨⟩⟩
      rcases sequence_ok_iff.mp answered with ⟨units, first, named, moved⟩
      rcases Service.amountOf_eq named with ⟨names, positive, rfl⟩
      exact
        Service.moving_enters
          (fun _ _ fresh => Service.withdrawing_enters fresh names positive) moved
  | transfer source destination amount description =>
      rcases map_ok_iff.mp performed with ⟨_, answered, ⟨⟩⟩
      rcases sequence_ok_iff.mp answered with ⟨units, first, named, moved⟩
      rcases Service.amountOf_eq named with ⟨names, positive, rfl⟩
      split at moved
      · cases moved
      · exact
          Service.moving_enters
            (fun _ _ fresh => Service.transferring_enters fresh names positive) moved
  | _ =>
      rcases map_ok_iff.mp performed with ⟨_, -, wrong⟩
      cases wrong

/-- A unit of work whose body posts no entry leaves the entries as they were. -/
theorem entries_of_quiet
    {Answer : Type}
    {body : Work Answer}
    {level : Value}
    {answer : Answer}
    (sound : desk.bank.Sound)
    (yields : Work.YieldsQuietly body)
    (ended : body.inUnit surroundings level desk = .ok answer later) :
    later.bank.tables.entries = desk.bank.tables.entries := by
  rcases Work.inUnit_ok ended with ⟨session, final, last, fresh, answered, completed, rfl⟩
  have ready : Work.Ready session := ⟨fresh.sound sound, fresh.staged, fresh.shown⟩
  rcases yields session answer final ready answered with ⟨staged, writes, -, evolved, quiet⟩
  rcases complete_ok completed with ⟨usable, -, same, -⟩
  cases same staged
  rw [committed_tables, (evolved.written usable ready.sound).1.entries,
    List.filterMap_eq_nil_iff.mpr quiet, List.append_nil, fresh.tables]

/-- A call that moves no money leaves the entries as they were. -/
theorem perform_enters_nothing
    (sound : desk.bank.Sound)
    (quiet : call.movesMoney = false)
    {reply : Reply}
    (performed : call.perform surroundings desk = .ok reply later) :
    later.bank.tables.entries = desk.bank.tables.entries := by
  by_cases reads : call.isReading = true
  · exact congrArg Tables.entries ((perform_sameTables surroundings reads).of_ok performed)
  · cases call with
    | createUser email =>
        rcases map_ok_iff.mp performed with ⟨seen, ended, -⟩
        exact entries_of_quiet sound (Service.creatingUser_yields email) ended
    | openAccount owner name currency =>
        rcases map_ok_iff.mp performed with ⟨_, answered, -⟩
        rcases sequence_ok_iff.mp answered with ⟨seen, first, ended, rest⟩
        cases rest
        have same :=
          entries_of_quiet sound (Service.openingAccount_yields owner name currency) ended
        exact same
    | ensureSettlement =>
        rcases map_ok_iff.mp performed with ⟨seen, ended, -⟩
        exact entries_of_quiet sound Service.seedingSettlement_yields ended
    | deposit account amount description => cases quiet
    | withdraw account amount description => cases quiet
    | transfer source destination amount description => cases quiet
    | _ => exact absurd rfl reads

end Call

end Bookkeeping
