import Bookkeeping.Proofs.Announcements
import Bookkeeping.Proofs.Answers
import Bookkeeping.Proofs.Interleavings

/-!
# The settlement account

No two of the bank's own accounts have the same name.  No constraint of the tables says so,
and whoever looks for the settlement account takes the first one that is found.  It holds
because an account of the bank's own is inserted only where none is found under the name that
is kept of it.  Clients may call their accounts what they like: theirs are never looked at.

An account that is found under a name therefore stays the one that is found under it,
whatever else is opened, and however often the settings name another one in between.  Whoever
asks for the settlement account is answered by it and inserts nothing, and it is the other
side of whatever clients pay in and draw out.
-/

namespace Bookkeeping

open Session

/-! ## Who owns the accounts -/

/-- The bank's own accounts are told apart by their names, and all others by their owners. -/
structure Tables.Owned (tables : Tables) : Prop where
  distinct : ((tables.accounts.filter Account.isSystem).map Account.name).Nodup
  unowned : ∀ account ∈ tables.accounts, account.isSystem = true → account.owner = none
  owned :
    ∀ account ∈ tables.accounts,
      account.isSystem = false → ∃ user ∈ tables.users, account.owner = some user.id

namespace Tables.Owned

variable {tables : Tables} {row : Account}

/-- An account of the bank's own may be inserted under a name under which none is found. -/
theorem seeded
    (owned : tables.Owned)
    (settles : row.isSystem = true)
    (unowned : row.owner = none)
    (absent : tables.settlement? row.name = none) :
    ((Write.account row).apply tables).Owned := by
  constructor
  · have only : [row].filter Account.isSystem = [row] := by simp [settles]
    simp only [Write.apply, List.filter_append, only, List.map_append, List.map_singleton]
    refine List.nodup_append.mpr ⟨owned.distinct, List.nodup_singleton _, ?_⟩
    rintro _ old _ new rfl
    rcases List.mem_map.mp old with ⟨account, chosen, same⟩
    rcases List.mem_filter.mp chosen with ⟨member, own⟩
    have other := List.find?_eq_none.mp absent account member
    simp [own, same, List.mem_singleton.mp new] at other
  · intro account member own
    rcases List.mem_append.mp member with old | new
    · exact owned.unowned account old own
    · rwa [List.mem_singleton.mp new]
  · intro account member serves
    rcases List.mem_append.mp member with old | new
    · exact owned.owned account old serves
    · rw [List.mem_singleton.mp new, settles] at serves
      cases serves

/-- A client's account may be inserted under any name, if its owner exists. -/
theorem opened
    (owned : tables.Owned)
    (serves : row.isSystem = false)
    (belongs : row.owner.isSome)
    (exists? : tables.hasOwner row.owner = true) :
    ((Write.account row).apply tables).Owned := by
  constructor
  · have none : [row].filter Account.isSystem = [] := by simp [serves]
    simp only [Write.apply, List.filter_append, none, List.append_nil]
    exact owned.distinct
  · intro account member own
    rcases List.mem_append.mp member with old | new
    · exact owned.unowned account old own
    · rw [List.mem_singleton.mp new, serves] at own
      cases own
  · intro account member others
    rcases List.mem_append.mp member with old | new
    · exact owned.owned account old others
    · rw [List.mem_singleton.mp new]
      rcases Option.isSome_iff_exists.mp belongs with ⟨owner, same⟩
      rw [same, Tables.hasOwner] at exists?
      rcases Option.isSome_iff_exists.mp exists? with ⟨user, found⟩
      have sameId : user.id = owner := by simpa using List.find?_some found
      exact ⟨user, List.mem_of_find?_eq_some found, by rw [same, sameId]⟩

/-- Accounts that differ by their balances at most belong to whom they belonged. -/
theorem settled
    (owned : tables.Owned)
    {later : Account → Account}
    (continues : ∀ account, (later account).Continues account)
    (entries : List Entry) :
    Owned { tables with accounts := tables.accounts.map later, entries := entries } := by
  constructor
  · have sameKind : (fun account => (later account).isSystem) = Account.isSystem :=
      funext fun account => (continues account).isSystem
    have sameName : (fun account => (later account).name) = Account.name :=
      funext fun account => (continues account).name
    simp only [List.filter_map, List.map_map, Function.comp_def, sameKind, sameName]
    exact owned.distinct
  · intro account member own
    rcases List.mem_map.mp member with ⟨earlier, old, rfl⟩
    rw [(continues earlier).isSystem] at own
    rw [(continues earlier).owner]
    exact owned.unowned earlier old own
  · intro account member serves
    rcases List.mem_map.mp member with ⟨earlier, old, rfl⟩
    rw [(continues earlier).isSystem] at serves
    rw [(continues earlier).owner]
    exact owned.owned earlier old serves

end Tables.Owned

theorem Deed.owned
    {before after : Tables}
    {earlier later : Sources}
    {writes : List Write}
    (deed : Deed before earlier later writes)
    (written : Written writes before after)
    (owned : before.Owned) :
    after.Owned := by
  cases deed with
  | nothing => rwa [Written.nil_iff.mp written]
  | registration row =>
      rw [written.eq_foldl]
      refine ⟨owned.distinct, owned.unowned, ?_⟩
      intro account member serves
      rcases owned.owned account member serves with ⟨user, registered, same⟩
      exact ⟨user, List.mem_append_left _ registered, same⟩
  | opening serves belongs =>
      rcases written with _ | ⟨fits, others⟩
      rw [Written.nil_iff.mp others]
      exact owned.opened serves belongs fits.2.1
  | seeding settles unowned absent =>
      rw [written.eq_foldl]
      exact owned.seeded settles unowned absent
  | @movement movement proper covered drawn advanced =>
      rw [proper.after_eq written]
      exact owned.settled movement.settled_continues _

/-! ## What is found under a name -/

/-- What is found under a name is found there after every write. -/
theorem Write.settlement?_continues
    (write : Write)
    {tables : Tables}
    {name : String}
    {earlier : Account}
    (found : tables.settlement? name = some earlier) :
    ∃ later, (write.apply tables).settlement? name = some later ∧ later.Continues earlier := by
  cases write with
  | user row => exact ⟨earlier, found, .refl earlier⟩
  | entry row => exact ⟨earlier, found, .refl earlier⟩
  | account row => exact ⟨earlier, by rw [settlement?_account, found]; rfl, .refl earlier⟩
  | balance moved delta =>
      refine ⟨Tables.movedAccount moved delta earlier, ?_, Tables.movedAccount_continues _ _ _⟩
      rw [settlement?_balance, found]
      rfl

theorem Written.settlement?_continues
    {writes : List Write}
    {before after : Tables}
    (written : Written writes before after)
    {name : String}
    {earlier : Account}
    (found : before.settlement? name = some earlier) :
    ∃ later, after.settlement? name = some later ∧ later.Continues earlier := by
  induction written generalizing earlier with
  | nil tables => exact ⟨earlier, found, .refl earlier⟩
  | @cons write rest before after fits others hypothesis =>
      rcases write.settlement?_continues found with ⟨middle, foundThen, early⟩
      rcases hypothesis foundThen with ⟨later, foundLast, late⟩
      exact ⟨later, foundLast, late.trans early⟩

namespace Work

variable {before after : Session} {name : Value}

/-- The look for a settlement account finds the first one under the name that is kept. -/
theorem findSettlement_ok
    {found? : Option Account}
    (nothingShown : before.shown = [])
    (answered : findSettlement name before = .ok found? after) :
    found? = name.kept?.bind before.tables.settlement? := by
  rcases sequence_ok_iff.mp answered with ⟨row?, first, named, rest⟩
  rcases sequence_ok_iff.mp named with ⟨tables, second, viewed, converted⟩
  rcases view_ok viewed with ⟨-, rfl, rfl, -⟩
  rcases sequence_ok_iff.mp converted with ⟨text?, third, stored, looked⟩
  rcases ofExcept_ok_iff.mp stored with ⟨kept, rfl⟩
  rcases pure_ok_iff.mp looked with ⟨rfl, rfl⟩
  rw [Value.kept?_eq kept]
  cases settled : text?.bind before.tables.settlement? with
  | none =>
      rw [settled] at rest
      exact (pure_ok_iff.mp rest).1.symm
  | some row =>
      rw [settled] at rest
      rcases sequence_ok_iff.mp rest with ⟨shown, fourth, remembered, answer⟩
      simp only [remember, nothingShown, List.find?_nil] at remembered
      cases remembered
      exact (pure_ok_iff.mp answer).1.symm

/-- Where nobody holds the lock, the look for a name that is kept is answered. -/
theorem findSettlement_answers
    {text : String}
    (usable : before.undoneBy = none)
    (free : before.locked = false)
    (kept : name.kept? = some text) :
    ∃ found? after, findSettlement name before = .ok found? after := by
  have named := settlementNamed_answers usable free kept
  cases settled : before.tables.settlement? text with
  | none =>
      rw [settled] at named
      exact ⟨_, _, sequence_ok named rfl⟩
  | some row =>
      rw [settled] at named
      rcases remember_answers row { before with pending := some before.tables } with
        ⟨shown, last, remembered⟩
      exact ⟨_, _, sequence_ok named (sequence_ok remembered rfl)⟩

end Work

/-- A fresh session finds the settlement account of its bank. -/
theorem Session.Fresh.settlement?
    {barred : Bool}
    {desk : Desk}
    {session : Session}
    (fresh : Fresh barred desk session) :
    session.desk.bank.policy.settlementName.kept?.bind session.tables.settlement? =
      desk.bank.settlement? := by
  rw [fresh.desk, fresh.tables]
  rfl

/-! ## Providing the settlement account -/

namespace Service

open Work

variable {barred : Bool} {desk later : Desk} {session final : Session}

/-- Where the settlement account is found, it is answered, and nothing else is done. -/
theorem seedingSettlement_found
    {row : Account}
    (fresh : Fresh barred desk session)
    (settled : desk.bank.settlement? = some row) :
    Untouched session (stateOf (seedingSettlement session)) ∧
      ∀ seen final, seedingSettlement session = .ok seen final → seen = .plain row := by
  have here := fresh.settlement?.trans settled
  have looks := findSettlement_untouched session.desk.bank.policy.settlementName
  cases outcome : seedingSettlement session with
  | ok seen last =>
      rcases sequence_ok_iff.mp outcome with ⟨policy, first, ⟨⟩, rest⟩
      rcases sequence_ok_iff.mp rest with ⟨found?, second, found, rest⟩
      rw [findSettlement_ok fresh.shown found, here] at rest
      rcases pure_ok_iff.mp rest with ⟨rfl, rfl⟩
      refine ⟨looks.of_ok found, ?_⟩
      rintro _ _ ⟨⟩
      rfl
  | error failure last =>
      refine ⟨?_, by simp⟩
      rcases sequence_error_iff.mp outcome with ⟨⟨⟩⟩ | ⟨policy, first, ⟨⟩, rest⟩
      rcases sequence_error_iff.mp rest with missed | ⟨found?, second, found, rest⟩
      · exact looks.of_error missed
      · rw [findSettlement_ok fresh.shown found, here] at rest
        simp at rest

/--
Whatever the body has done, the account that it answers is then found under the name.  Where it
was not found before, its currency is the one that is kept of the setting.
-/
theorem seedingSettlement_settles
    {seen : Seen Account}
    (fresh : Fresh barred desk session)
    (answered : seedingSettlement session = .ok seen final) :
    ∃ name,
      desk.bank.policy.settlementName.kept? = some name ∧
        final.tables.settlement? name = some seen.row ∧
        (desk.bank.settlement? = none →
          (Tables.givenCurrency desk.bank.policy.defaultCurrency).kept? =
            some seen.row.currency) := by
  rcases sequence_ok_iff.mp answered with ⟨policy, first, ⟨⟩, rest⟩
  rcases sequence_ok_iff.mp rest with ⟨found?, second, found, rest⟩
  have looking := (findSettlement_untouched _).of_ok found
  have settled := findSettlement_ok fresh.shown found
  rw [fresh.desk, fresh.tables] at settled
  cases found? with
  | some settlement =>
      rcases pure_ok_iff.mp rest with ⟨rfl, rfl⟩
      rcases Option.bind_eq_some_iff.mp settled.symm with ⟨name, kept, present⟩
      rw [looking.tables, fresh.tables]
      refine ⟨name, kept, present, ?_⟩
      intro absent
      rw [Bank.settlement?, ← settled] at absent
      cases absent
  | none =>
      rcases sequence_ok_iff.mp rest with ⟨settlement, third, opened, rest⟩
      rcases sequence_ok_iff.mp rest with ⟨shown, fourth, ⟨⟩, rest⟩
      rcases sequence_ok_iff.mp rest with ⟨⟨⟩, fifth, announced, answer⟩
      rcases pure_ok_iff.mp answer with ⟨rfl, rfl⟩
      rcases announce_ok announced with ⟨-, sameTables, -⟩
      rcases openAccount_ok opened with
        ⟨row, keptName, keptCurrency, nameKept, currencyKept, sameRow, evolved, -, -, shownRow⟩
      cases shownRow ((findSettlement_none_shown found).trans fresh.shown)
      rw [joining_eq_nil (looking.staged.trans fresh.staged), List.map_nil,
        List.nil_append] at evolved
      have kept : desk.bank.policy.settlementName.kept? = some keptName := by
        rw [← fresh.desk]
        exact Value.kept?_eq nameKept
      rw [kept, Option.bind_some] at settled
      refine ⟨keptName, kept, ?_, ?_⟩
      · have inserted := evolved.applied (openAccount_usable opened).1
        rw [looking.tables, fresh.tables] at inserted
        rw [sameTables, inserted, List.foldl_cons, List.foldl_nil, Write.settlement?_account,
          ← settled, sameRow]
        simp [Tables.accountRow]
      · intro absent
        rw [← fresh.desk, Value.kept?_eq currencyKept, sameRow]
        rfl

/-- A bank that has provided an account has it for its settlement account. -/
theorem ensureSettlement_settles
    {surroundings : Surroundings}
    {seen : Seen Account}
    (provided : ensureSettlement surroundings desk = .ok seen later) :
    later.bank.settlement? = some seen.row ∧
      (desk.bank.settlement? = none →
        (Tables.givenCurrency desk.bank.policy.defaultCurrency).kept? =
          some seen.row.currency) := by
  rcases inUnit_ok provided with ⟨session, final, last, fresh, answered, completed, rfl⟩
  have continued := (continued_keptByQueries.seeding announce_continued).of_ok answered
  rcases seedingSettlement_ok fresh answered with ⟨staged, -⟩
  rcases complete_ok completed with ⟨-, -, same, -⟩
  cases same staged
  rcases seedingSettlement_settles fresh answered with ⟨name, kept, present, currency⟩
  refine ⟨?_, currency⟩
  rw [Bank.settlement?, committed_policy, continued.bank, fresh.desk, committed_tables]
  exact Option.bind_eq_some_iff.mpr ⟨name, kept, present⟩

/-- A bank that has its settlement account answers it, and is left as it is. -/
theorem ensureSettlement_found
    {row : Account}
    (settled : desk.bank.settlement? = some row)
    (surroundings : Surroundings) :
    Desk.SameBank desk (stateOf (ensureSettlement surroundings desk)) ∧
      ∀ seen later, ensureSettlement surroundings desk = .ok seen later → seen = .plain row := by
  constructor
  · exact inUnit_bank fun session fresh => (seedingSettlement_found fresh settled).1
  · intro seen later provided
    rcases inUnit_ok provided with ⟨session, final, last, fresh, answered, -, -⟩
    exact (seedingSettlement_found fresh settled).2 seen final answered

/-- Where nothing fails and nobody holds the lock, the settlement account is answered. -/
theorem ensureSettlement_answers
    {row : Account}
    (settled : desk.bank.settlement? = some row)
    (known : Isolation.isUsable desk.bank.isolation = true) :
    ∃ later, ensureSettlement .calm desk = .ok (.plain row) later := by
  have free : Surroundings.calm.locked = false := rfl
  rcases inUnit_runs seedingSettlement free known with ⟨session, fresh, ends⟩
  rcases Option.bind_eq_some_iff.mp settled with ⟨name, kept, present⟩
  rw [← fresh.desk] at kept
  rcases findSettlement_answers fresh.undoneBy fresh.locked kept with ⟨found?, middle, found⟩
  have same := findSettlement_ok fresh.shown found
  rw [kept, Option.bind_some, fresh.tables, present] at same
  subst same
  have answered : seedingSettlement session = .ok (.plain row) middle :=
    sequence_ok rfl (sequence_ok found rfl)
  have looked := (seedingSettlement_found fresh settled).1
  rw [answered] at looked
  refine ⟨middle.committed, ?_⟩
  change seedingSettlement.inUnit .calm .null desk = _
  rw [ends, answered]
  exact
    conclude_answers _ rfl (looked.undoneBy.trans fresh.undoneBy)
      (looked.staged.trans fresh.staged) (looked.revised.trans fresh.revised)

end Service

/-! ## The other side of payments -/

/-- The client for whom a call exchanges money with the world outside of the ledger. -/
def Call.client? : Call → Option Identifier
  | .deposit account _ _ | .withdraw account _ _ => some account
  | _ => none

/-- What a client pays in or draws out has the settlement account on its other side. -/
theorem Call.entries_of_client
    {bank : Bank}
    {call : Call}
    {client : Identifier}
    {row : Account}
    (asks : call.client? = some client)
    (settled : bank.settlement? = some row)
    (paired : ∃ operation first second, call.entries bank = bank.sources.pair operation first second) :
    ∃ first second,
      call.entries bank = [first, second] ∧ first.account = client ∧ second.account = row.id ∧
        second.effect = -first.effect := by
  rcases paired with ⟨operation, early, late, paired⟩
  cases call with
  | deposit account amount description =>
      cases asks
      cases named : Money.ofValue? amount with
      | none => simp [entries, named, Sources.pair] at paired
      | some units =>
          simp only [entries, named, settled]
          exact ⟨_, _, rfl, rfl, rfl, by simp [Leg.entry, Entry.effect]⟩
  | withdraw account amount description =>
      cases asks
      cases named : Money.ofValue? amount with
      | none => simp [entries, named, Sources.pair] at paired
      | some units =>
          simp only [entries, named, settled]
          exact ⟨_, _, rfl, rfl, rfl, by simp [Leg.entry, Entry.effect]⟩
  | _ => cases asks

/-- A deed that enters two entries settles them, and does nothing else. -/
theorem Deed.tables_of_entered
    {before after : Tables}
    {earlier later : Sources}
    {writes : List Write}
    {first second : Entry}
    (deed : Deed before earlier later writes)
    (written : Written writes before after)
    (entered : after.entries = before.entries ++ [first, second]) :
    after =
      [.entry first, .entry second, first.settling, second.settling].foldl Write.apply before := by
  rw [written.entries, List.append_cancel_left_eq] at entered
  cases deed with
  | nothing => cases entered
  | registration row => cases entered
  | opening serves belongs => cases entered
  | seeding settles unowned absent => cases entered
  | @movement movement proper covered drawn advanced =>
      have posted : movement.writes.filterMap Write.posted? = movement.entries := by
        simp [Movement.writes, Write.posted?, Entry.settling, List.filterMap_map, Function.comp_def]
      rw [posted] at entered
      rw [written.eq_foldl, Movement.writes, entered]
      rfl

/-! ## Every run -/

/-- Deeds keep what is found under a name. -/
theorem Bank.settlement?_isKept (name : String) (account : Account) :
    Bank.IsKept fun bank =>
      ∃ row, bank.tables.settlement? name = some row ∧ row.Continues account := by
  rintro before after writes - ⟨row, found, continues⟩ - progress
  rcases progress.written.settlement?_continues found with ⟨later, foundThen, late⟩
  exact ⟨later, foundThen, late.trans continues⟩

/-- Deeds keep the level of isolation one that is known. -/
theorem Bank.isolation_isKept :
    Bank.IsKept fun bank => Isolation.isUsable bank.isolation = true := by
  intro before after writes _ known _ progress
  rw [progress.isolation]
  exact known

namespace Opening

variable {settings : Settings} {isMigrated : Bool} {middle : Desk} {account : Account}

/-- Nobody owns the account with which a bank opens, if it opens with one. -/
theorem bank_owned (settings : Settings) (isMigrated : Bool) :
    (bank settings isMigrated).tables.Owned := by
  cases isMigrated with
  | false => exact ⟨List.nodup_nil, by rintro _ ⟨⟩, by rintro _ ⟨⟩⟩
  | true =>
      constructor
      · exact List.nodup_singleton _
      · intro account member own
        rw [List.mem_singleton.mp member]
        rfl
      · intro account member serves
        rw [List.mem_singleton.mp member] at serves
        cases serves

/-- After every run of ordinary steps the bank's own accounts have names of their own. -/
theorem after_owned
    (settings : Settings)
    (isMigrated : Bool)
    {steps : List Step}
    (ordinary : ∀ step ∈ steps, step.isOrdinary = true) :
    (after settings isMigrated steps).bank.tables.Owned := by
  have kept : Bank.IsKept fun bank => bank.tables.Owned := by
    intro before after writes _ owned deed progress
    exact deed.owned progress.written owned
  exact after_keeps kept settings isMigrated (bank_owned settings isMigrated) ordinary

/--
A bank has provided its settlement account: by the migration, if the name for which the
settings ask is the one that is kept, or because it has answered it to whoever asked for it.
-/
inductive Provides (settings : Settings) : Bool → Desk → Account → Prop
  | seeded
      (named :
        (settings.value .settlementAccountName).kept? =
          some (settings.value .settlementAccountName).shown)
      (known : Isolation.isUsable (settings.value .isolationLevel) = true) :
      Provides settings true (desk (bank settings true)) (Migration.settlement settings .fresh)
  | answered
      {isMigrated : Bool}
      {early : List Step}
      (ordinary : ∀ step ∈ early, step.isOrdinary = true)
      {surroundings : Surroundings}
      {before later : Desk}
      {seen : Seen Account}
      (reached : before.bank = (after settings isMigrated early).bank)
      (provided : Service.ensureSettlement surroundings before = .ok seen later) :
      Provides settings isMigrated later seen.row

theorem Provides.settled (provides : Provides settings isMigrated middle account) :
    middle.bank.Sound ∧ middle.bank.settlement? = some account ∧
      Isolation.isUsable middle.bank.isolation = true := by
  cases provides with
  | seeded named known =>
      refine ⟨bank_sound settings true, ?_, known⟩
      refine Option.bind_eq_some_iff.mpr ⟨_, named, ?_⟩
      simp [bank, desk, Migration.seededTables, Migration.settlement, Tables.settlement?]
  | @answered _ early ordinary surroundings before later seen reached provided =>
      have soundBefore : before.bank.Sound := by
        rw [reached]
        exact (after_sound settings isMigrated early).1
      rcases (Service.ensureSettlement_does surroundings).of_ok provided soundBefore with
        ⟨writes, -, progress, -⟩
      refine ⟨progress.sound soundBefore, (Service.ensureSettlement_settles provided).1, ?_⟩
      rw [progress.isolation]
      exact Work.inUnit_usable provided

/-- An account that was provided stays the settlement account as long as the name is the same. -/
theorem Provides.stays
    (provides : Provides settings isMigrated middle account)
    {steps : List Step}
    (ordinary : ∀ step ∈ steps, step.isOrdinary = true)
    (sameName :
      (middle.after steps).bank.policy.settlementName = middle.bank.policy.settlementName) :
    (middle.after steps).bank.Sound ∧
      ∃ row, (middle.after steps).bank.settlement? = some row ∧ row.Continues account := by
  rcases provides.settled with ⟨sound, settled, -⟩
  rcases Option.bind_eq_some_iff.mp settled with ⟨name, kept, found⟩
  have here : ∃ row, middle.bank.tables.settlement? name = some row ∧ row.Continues account :=
    ⟨account, found, .refl account⟩
  rcases Desk.after_keeps (Bank.settlement?_isKept name account) sound here ordinary with
    ⟨soundThen, row, foundThen, continues⟩
  refine ⟨soundThen, row, ?_, continues⟩
  rw [Bank.settlement?, sameName, kept]
  exact foundThen

theorem Provides.known
    (provides : Provides settings isMigrated middle account)
    {steps : List Step}
    (ordinary : ∀ step ∈ steps, step.isOrdinary = true) :
    Isolation.isUsable (middle.after steps).bank.isolation = true := by
  rcases provides.settled with ⟨sound, -, known⟩
  exact (Desk.after_keeps Bank.isolation_isKept sound known ordinary).2

/--
The bank's own accounts have names of their own and nobody as their owner, and every other
account belongs to a user, after every run of ordinary steps.  Once the settlement account was
provided, it is answered to whoever asks for it after any further steps, as long as the
settings name it again by then; nothing is inserted, and nothing but a fault or a lock keeps it
from being answered.  What clients pay in or draw out then has that account on the other side:
an acknowledged payment enters its two entries, settles them, and does nothing else.
-/
theorem settlement_account_stays (settings : Settings) (isMigrated : Bool) :
    (∀ steps,
      (∀ step ∈ steps, Step.isOrdinary step = true) →
        (after settings isMigrated steps).bank.tables.Owned) ∧
      ∀ middle account,
        Provides settings isMigrated middle account →
          ∀ steps,
            (∀ step ∈ steps, Step.isOrdinary step = true) →
              (middle.after steps).bank.policy.settlementName = middle.bank.policy.settlementName →
                ∃ row : Account,
                  row.Continues account ∧
                    ∀ here : Desk,
                      here.bank = (middle.after steps).bank →
                        (∃ later, Service.ensureSettlement .calm here = .ok (.plain row) later) ∧
                          (∀ surroundings seen later,
                            Service.ensureSettlement surroundings here = .ok seen later →
                              seen = .plain row ∧ later.bank = here.bank) ∧
                          ∀ surroundings step acknowledgement client,
                            Step.isOrdinary step = true →
                              step.acknowledged surroundings here = some acknowledgement →
                                acknowledgement.call.client? = some client →
                                  ∃ first second,
                                    acknowledgement.entries = [first, second] ∧
                                      first.account = client ∧ second.account = row.id ∧
                                      second.effect = -first.effect ∧
                                      (step.take surroundings here).2.bank.tables =
                                        [.entry first, .entry second, first.settling,
                                            second.settling].foldl
                                          Write.apply here.bank.tables := by
  constructor
  · intro steps ordinary
    have kept : Bank.IsKept fun bank => bank.tables.Owned := by
      intro before after writes _ owned deed progress
      exact deed.owned progress.written owned
    exact after_keeps kept settings isMigrated (bank_owned settings isMigrated) ordinary
  intro middle account provides steps ordinary sameName
  rcases provides.stays ordinary sameName with ⟨sound, row, settled, continues⟩
  refine ⟨row, continues, ?_⟩
  intro here sameBank
  rw [← sameBank] at sound settled
  refine ⟨?_, ?_, ?_⟩
  · apply Service.ensureSettlement_answers settled
    rw [sameBank]
    exact provides.known ordinary
  · intro surroundings seen later provided
    rcases Service.ensureSettlement_found settled surroundings with ⟨same, answers⟩
    rw [provided] at same
    exact ⟨answers seen later provided, same⟩
  · intro surroundings step acknowledgement client ordinaryStep acknowledged asks
    have notes := step.take_notes surroundings ordinaryStep sound
    rcases step.take_does surroundings ordinaryStep here sound with ⟨writes, deed, progress, -⟩
    rw [acknowledged] at notes
    rcases notes with _ | ⟨enters, -⟩
    rcases Call.entries_of_client asks settled enters.paired with
      ⟨first, second, paired, own, other, opposite⟩
    have entered := enters.entries
    rw [paired] at entered
    exact
      ⟨first, second, paired, own, other, opposite, deed.tables_of_entered progress.written entered⟩

end Opening

namespace Sample

/--
A client calls an account like the settlement account, and pays in at a till while the settings
name that one; then they name the settlement account again.
-/
def renamed : List Step :=
  [.call (.createUser (.text "ada@example.com")),
    .call (.openAccount (.drawn .user 1) (.text "Settlement") .null),
    .configure [("SETTLEMENT_ACCOUNT_NAME", .text "Till")],
    .call .ensureSettlement,
    .call (.deposit savings (.text "5") .null),
    .configure [("SETTLEMENT_ACCOUNT_NAME", .text "Settlement")]]

/-- The rule at work: the account of the migration is answered, and takes the next payment. -/
theorem settlement_of_renamed :
    let now := opened.after renamed
    let step := Step.call (.withdraw savings (.text "2") .null)
    (∃ row later,
      row.id = .drawn .account 1 ∧
        Service.ensureSettlement .calm now = .ok (.plain row) later ∧ later.bank = now.bank) ∧
      ∃ acknowledgement first second,
        step.acknowledged .calm now = some acknowledgement ∧
          acknowledgement.entries = [first, second] ∧ second.account = .drawn .account 1 := by
  intro now step
  have provides :
      Opening.Provides settings true opened (Migration.settlement settings .fresh) :=
    .seeded (by decide +kernel) (by decide +kernel)
  have ordinary : ∀ step ∈ renamed, step.isOrdinary = true := by decide
  have sameName : now.bank.policy.settlementName = opened.bank.policy.settlementName := rfl
  have acknowledged : (step.acknowledged .calm now).isSome = true := by decide +kernel
  have asked : ((step.acknowledged .calm now).bind fun told => told.call.client?) = some savings := by
    decide +kernel
  rcases (Opening.settlement_account_stays settings true).2 opened _ provides renamed ordinary
      sameName with
    ⟨row, continues, stays⟩
  rcases stays now rfl with ⟨⟨later, answered⟩, unchanged, exchanged⟩
  rcases Option.isSome_iff_exists.mp acknowledged with ⟨acknowledgement, told⟩
  rw [told, Option.bind_some] at asked
  rcases exchanged .calm step acknowledgement savings rfl told asked with
    ⟨first, second, entries, -, other, -⟩
  have sameId : row.id = .drawn .account 1 := continues.id
  exact
    ⟨⟨row, later, sameId, answered, (unchanged .calm _ later answered).2⟩, acknowledgement, first,
      second, told, entries, other.trans sameId⟩

end Sample

end Bookkeeping
