import Bookkeeping.Http.Service
import Bookkeeping.Proofs.Amounts
import Bookkeeping.Proofs.Procedures
import Bookkeeping.Proofs.Units

/-!
# Deeds

What a call of the bank can do to its tables, over all calls, all arguments and all
faults.  There are five deeds: nothing, the registration of a user, the opening of
an account for a client, the insertion of a settlement account under a name that no
other one has, and a movement that is proper and covered.  A call that fails does
nothing, and so does every call that meets the lock of another unit of work.

A request becomes one call at most, so what is said of calls holds of requests.
-/

namespace Bookkeeping

open Session

variable {Answer Next : Type}

/-- What one call may write, from the tables and the sources that it finds on. -/
inductive Deed (tables : Tables) (before after : Sources) : List Write → Prop
  | nothing : Deed tables before after []
  | registration (row : User) : Deed tables before after [.user row]
  | opening
      {row : Account}
      (serves : row.isSystem = false)
      (owned : row.owner.isSome) :
      Deed tables before after [.account row]
  | seeding
      {row : Account}
      (settles : row.isSystem = true)
      (unowned : row.owner = none)
      (absent : tables.settlement? row.name = none) :
      Deed tables before after [.account row]
  | movement
      {movement : Movement}
      (proper : movement.Proper tables)
      (covered : movement.Covered tables)
      (drawn : movement.group = before.upcoming .group)
      (advanced : (before.advance .group).Precedes after) :
      Deed tables before after movement.writes

/-- A bank has come to another state by one deed, or by none if the lock was held. -/
def Bank.Does (locked : Bool) (before after : Bank) : Prop :=
  before.Sound →
    ∃ writes,
      Deed before.tables before.sources after.sources writes ∧
        Progress writes before after ∧ (locked = true → writes = [])

/-- An activity does one deed at most. -/
def Activity.Does (locked : Bool) (activity : Activity Answer) : Prop :=
  Keeps (fun before after => Bank.Does locked before.bank after.bank) activity

/-! ## Activities that leave the bank alone -/

/-- Two desks have the same bank; they may differ in what they put on record. -/
def Desk.SameBank (before after : Desk) : Prop :=
  after.bank = before.bank

instance : IsPreorder Desk Desk.SameBank where
  refl _ := rfl
  trans _ _ _ early late := late.trans early

/-- A bank that stays the same has done nothing. -/
theorem Bank.Does.of_sameBank
    {locked : Bool}
    {before after : Desk}
    (same : Desk.SameBank before after) :
    Bank.Does locked before.bank after.bank := by
  intro sound
  refine ⟨[], .nothing, ?_, fun _ => rfl⟩
  rw [same]
  exact .refl before.bank

namespace Activity

variable {locked : Bool}

theorem announce_sameBank (announcement : Announcement) :
    Keeps Desk.SameBank (announce announcement) :=
  fun _ => rfl

theorem policy_sameBank : Keeps Desk.SameBank policy :=
  fun _ => rfl

theorem refuse_sameBank (failure : Failure) :
    Keeps Desk.SameBank (refuse failure : Activity Answer) :=
  fun _ => rfl

theorem ofExcept_sameBank (outcome : Except Failure Answer) :
    Keeps Desk.SameBank (ofExcept outcome) := by
  cases outcome with
  | ok answer => exact fun _ => rfl
  | error failure => exact refuse_sameBank failure

/-- An activity that leaves the bank alone does nothing. -/
theorem Does.of_sameBank
    {activity : Activity Answer}
    (same : Keeps Desk.SameBank activity) :
    activity.Does locked :=
  same.mono fun _ _ => Bank.Does.of_sameBank

/-- What comes after a deed may leave the bank alone. -/
theorem Does.bind_sameBank
    {first : Activity Answer}
    {rest : Answer → Activity Next}
    (does : first.Does locked)
    (same : ∀ answer, Keeps Desk.SameBank (rest answer)) :
    Activity.Does locked (first >>= rest) := by
  apply Keeps.intro
  · intro before result after outcome
    rcases sequence_ok_iff.mp outcome with ⟨answer, middle, firstOk, restOk⟩
    rw [(same answer).of_ok restOk]
    exact does.of_ok firstOk
  · intro before failure after outcome
    rcases sequence_error_iff.mp outcome with firstError | ⟨answer, middle, firstOk, restError⟩
    · exact does.of_error firstError
    · rw [(same answer).of_error restError]
      exact does.of_ok firstOk

/-- What comes before a deed may leave the bank alone. -/
theorem Does.sameBank_bind
    {first : Activity Answer}
    {rest : Answer → Activity Next}
    (same : Keeps Desk.SameBank first)
    (does :
      ∀ before answer after, first before = .ok answer after → (rest answer).Does locked) :
    Activity.Does locked (first >>= rest) := by
  apply Keeps.intro
  · intro before result after outcome
    rcases sequence_ok_iff.mp outcome with ⟨answer, middle, firstOk, restOk⟩
    have done := (does before answer middle firstOk).of_ok restOk
    rwa [same.of_ok firstOk] at done
  · intro before failure after outcome
    rcases sequence_error_iff.mp outcome with firstError | ⟨answer, middle, firstOk, restError⟩
    · exact (Does.of_sameBank same).of_error firstError
    · have done := (does before answer middle firstOk).of_error restError
      rwa [same.of_ok firstOk] at done

end Activity

/-! ## Units of work that do one deed -/

namespace Work

variable {surroundings : Surroundings} {level : Value} {body : Work Answer}

/-- A session in which nothing has been done yet, over sound tables. -/
structure Ready (session : Session) : Prop where
  sound : session.Sound
  staged : session.staged = []
  shown : session.shown = []

/-- A body that answers has done one deed. -/
def Yields (body : Work Answer) : Prop :=
  ∀ before answer after,
    Ready before → body before = .ok answer after →
      after.staged = [] ∧
        ∃ writes,
          Deed before.tables before.sources after.sources writes ∧ Evolved writes before after

/-- A body that answers has done one deed, which has posted no entry. -/
def YieldsQuietly (body : Work Answer) : Prop :=
  ∀ before answer after,
    Ready before → body before = .ok answer after →
      after.staged = [] ∧
        ∃ writes,
          Deed before.tables before.sources after.sources writes ∧ Evolved writes before after ∧
            ∀ write ∈ writes, write.posted? = none

theorem YieldsQuietly.yields (quietly : YieldsQuietly body) : Yields body := by
  intro before answer after ready answered
  rcases quietly before answer after ready answered with ⟨staged, writes, deed, evolved, -⟩
  exact ⟨staged, writes, deed, evolved⟩

/-- A unit of work does the deed of its body if it ends well, and nothing otherwise. -/
theorem Yields.inUnit
    (yields : Yields body)
    (keeps : Keeps Continued body) :
    (body.inUnit surroundings level).Does surroundings.locked := by
  intro before sound
  cases locked : surroundings.locked with
  | true => exact ⟨[], .nothing, inUnit_locked keeps locked, fun _ => rfl⟩
  | false =>
      cases ended : body.inUnit surroundings level before with
      | error failure after =>
          exact ⟨[], .nothing, inUnit_error keeps ended, fun _ => rfl⟩
      | ok answer after =>
          rcases inUnit_ok ended with ⟨session, final, last, fresh, answered, completed, rfl⟩
          have ready : Ready session := ⟨fresh.sound sound, fresh.staged, fresh.shown⟩
          rcases yields session answer final ready answered with ⟨staged, writes, deed, evolved⟩
          rcases complete_ok completed with ⟨-, usable, same, -⟩
          cases same staged
          refine ⟨writes, ?_, fresh.progress evolved usable sound, by simp⟩
          rw [fresh.tables, fresh.sources, ← committed_sources] at deed
          exact deed

/-- A unit of work that only reads does nothing. -/
theorem reading_does (keeps : Keeps Untouched body) :
    (body.inUnit surroundings level).Does surroundings.locked := by
  apply Yields.inUnit
  · intro before answer after ready answered
    have untouched := keeps.of_ok answered
    exact ⟨untouched.staged.trans ready.staged, [], .nothing, untouched.evolved⟩
  · exact reading_continued keeps

end Work

/-! ## The services -/

namespace Service

open Work

variable (surroundings : Surroundings)

theorem creatingUser_yields (email : Value) : YieldsQuietly (creatingUser email) := by
  intro before seen after ready answered
  rcases sequence_ok_iff.mp answered with ⟨user, middle, created, seeing⟩
  rcases createUser_ok created with ⟨evolved, -, staged, -⟩
  rw [joining_eq_nil ready.staged, List.map_nil, List.nil_append] at evolved
  have showing := (seen_untouched user.id user).of_ok seeing
  refine ⟨showing.staged.trans staged, [.user user], .registration user, ?_, ?_⟩
  · exact evolved.trans showing.evolved
  · simp [Write.posted?]

theorem createUser_does (email : Value) :
    (createUser surroundings email).Does surroundings.locked :=
  (creatingUser_yields email).yields.inUnit (continued_keptByQueries.creatingUser email)

theorem openingAccount_yields
    (owner : Identifier)
    (name currency : Value) :
    YieldsQuietly (openingAccount owner name currency) := by
  intro before seen after ready answered
  rcases sequence_ok_iff.mp answered with ⟨user, first, found, rest⟩
  rcases sequence_ok_iff.mp rest with ⟨policy, second, looked, rest⟩
  rcases sequence_ok_iff.mp rest with ⟨written, third, converted, rest⟩
  rcases sequence_ok_iff.mp rest with ⟨account, fourth, opened, seeing⟩
  have toFirst := (user_untouched owner).of_ok found
  have toSecond := toFirst.trans (policy_untouched.of_ok looked)
  have toThird := toSecond.trans ((ofExcept_untouched _).of_ok converted)
  rcases openAccount_ok opened with
    ⟨row, keptName, keptCurrency, -, -, sameRow, evolved, -, staged, -⟩
  rw [joining_eq_nil (toThird.staged.trans ready.staged), List.map_nil, List.nil_append] at evolved
  have showing := (seen_untouched account.id account).of_ok seeing
  refine ⟨showing.staged.trans staged, [.account row], ?_, ?_, by simp [Write.posted?]⟩
  · subst sameRow
    exact .opening rfl rfl
  · exact (toThird.evolved.trans evolved).trans showing.evolved

theorem openAccount_does
    (owner : Identifier)
    (name currency : Value) :
    (openAccount surroundings owner name currency).Does surroundings.locked :=
  Activity.Does.bind_sameBank
    ((openingAccount_yields owner name currency).yields.inUnit
      (continued_keptByQueries.openingAccount owner name currency))
    fun seen =>
      (Activity.announce_sameBank _).bind fun _ => Keeps.pure seen

/-- A settlement account is inserted only where none has the name that is kept. -/
theorem seedingSettlement_yields : YieldsQuietly seedingSettlement := by
  intro before seen after ready answered
  rcases sequence_ok_iff.mp answered with ⟨policy, first, looked, rest⟩
  rcases sequence_ok_iff.mp rest with ⟨found?, second, found, rest⟩
  have toFirst := policy_untouched.of_ok looked
  have toSecond := toFirst.trans ((findSettlement_untouched policy.settlementName).of_ok found)
  cases found? with
  | some settlement =>
      rcases pure_ok_iff.mp rest with ⟨-, rfl⟩
      exact ⟨toSecond.staged.trans ready.staged, [], .nothing, toSecond.evolved, by simp⟩
  | none =>
      rcases sequence_ok_iff.mp rest with ⟨settlement, third, opened, rest⟩
      rcases sequence_ok_iff.mp rest with ⟨shown, fourth, seeing, rest⟩
      rcases sequence_ok_iff.mp rest with ⟨⟨⟩, fifth, announced, answer⟩
      rcases pure_ok_iff.mp answer with ⟨rfl, rfl⟩
      rcases openAccount_ok opened with
        ⟨row, keptName, _, nameKept, -, sameRow, evolved, -, staged, -⟩
      rw [joining_eq_nil (toSecond.staged.trans ready.staged), List.map_nil,
        List.nil_append] at evolved
      have showing := (seen_untouched settlement.id settlement).of_ok seeing
      have telling := (announce_evolved _).of_ok announced
      cases announced
      refine ⟨showing.staged.trans staged, [.account row], ?_, ?_, by simp [Write.posted?]⟩
      · have absent := findSettlement_none found keptName (storedText_place nameKept)
        rw [toFirst.tables] at absent
        subst sameRow
        exact .seeding rfl rfl absent
      · exact ((toSecond.evolved.trans evolved).trans showing.evolved).trans telling

theorem ensureSettlement_does :
    (ensureSettlement surroundings).Does surroundings.locked :=
  seedingSettlement_yields.yields.inUnit (continued_keptByQueries.seeding announce_continued)

/-- A body that makes a movement yields a deed. -/
theorem yields_of_moved
    {body : Work Identifier}
    (makes :
      ∀ before group after,
        Ready before → body before = .ok group after →
          ∃ movement, Moved group before after movement) :
    Yields body := by
  intro before group after ready answered
  rcases makes before group after ready answered with ⟨movement, moved⟩
  refine ⟨moved.staged, movement.writes, ?_, moved.evolved⟩
  exact .movement moved.proper moved.covered (moved.sameGroup.trans moved.drawn) moved.advanced

theorem amountOf_ok
    {value : Value}
    {amount : Money}
    {before after : Desk}
    (named : amountOf value before = .ok amount after) :
    0 < amount ∧ amount < Money.limit := by
  rw [amountOf] at named
  cases outcome : Amount.ofValue value with
  | error failure =>
      rw [outcome] at named
      cases named
  | ok units =>
      rw [outcome] at named
      cases named
      exact Amount.ofValue_ok outcome

/-- A unit of work that makes a movement does one deed, and what it tells of it does nothing. -/
theorem moving_does
    {body : Work Identifier}
    (makes :
      ∀ before group after,
        Ready before → body before = .ok group after →
          ∃ movement, Moved group before after movement)
    (continued : Keeps Continued body)
    (told : Identifier → Announcement) :
    Activity.Does surroundings.locked (do
      let group ← body.inUnit surroundings .null
      Activity.announce (told group)
      return group) := by
  refine Activity.Does.bind_sameBank ((yields_of_moved makes).inUnit continued) ?_
  intro group
  exact (Activity.announce_sameBank _).bind fun _ => Keeps.pure group

theorem deposit_does
    (account : Identifier)
    (amount description : Value) :
    (deposit surroundings account amount description).Does surroundings.locked := by
  refine Activity.Does.sameBank_bind (Activity.ofExcept_sameBank _) ?_
  intro before units after named
  rcases amountOf_ok named with ⟨positive, bounded⟩
  apply moving_does
  · intro first group last ready deposited
    exact depositing_moved positive bounded ready.sound ready.staged deposited
  · exact continued_keptByQueries.depositing account units description

theorem withdraw_does
    (account : Identifier)
    (amount description : Value) :
    (withdraw surroundings account amount description).Does surroundings.locked := by
  refine Activity.Does.sameBank_bind (Activity.ofExcept_sameBank _) ?_
  intro before units after named
  rcases amountOf_ok named with ⟨positive, bounded⟩
  apply moving_does
  · intro first group last ready withdrawn
    exact withdrawing_moved positive bounded ready.sound ready.staged withdrawn
  · exact continued_keptByQueries.withdrawing account units description

theorem transfer_does
    (source destination : Identifier)
    (amount description : Value) :
    (transfer surroundings source destination amount description).Does surroundings.locked := by
  refine Activity.Does.sameBank_bind (Activity.ofExcept_sameBank _) ?_
  intro before units after named
  rcases amountOf_ok named with ⟨positive, bounded⟩
  split
  · exact Activity.Does.of_sameBank (Activity.refuse_sameBank _)
  · rename_i distinct
    apply moving_does
    · intro first group last ready transferred
      exact transferring_moved positive bounded distinct ready.shown ready.staged transferred
    · exact continued_keptByQueries.transferring source destination units description

/-! ## Services that only read -/

theorem account_does (id : Identifier) :
    (account surroundings id).Does surroundings.locked :=
  reading_does (account_untouched id false)

theorem accountsOf_does (owner : Identifier) :
    (accountsOf surroundings owner).Does surroundings.locked :=
  reading_does (accountsOf_untouched owner)

theorem reconcile_does (id : Identifier) :
    (reconcile surroundings id).Does surroundings.locked :=
  Activity.Does.bind_sameBank (reading_does (reconciling_untouched id)) fun reconciliation =>
    (Activity.announce_sameBank _).bind fun _ => Keeps.pure reconciliation

theorem reconcileAll_does : (reconcileAll surroundings).Does surroundings.locked :=
  Activity.Does.bind_sameBank (reading_does reconcilingAll_untouched) fun reconciliations =>
    Keeps.bind
      (Keeps.forM (fun reconciliation => Activity.announce_sameBank reconciliation.announcement)
        reconciliations)
      fun _ => Keeps.pure reconciliations

theorem history_does (id : Identifier) (limit offset : Value) :
    (history surroundings id limit offset).Does surroundings.locked := by
  refine Activity.Does.sameBank_bind Activity.policy_sameBank fun _ policy _ _ => ?_
  refine Activity.Does.sameBank_bind (Activity.ofExcept_sameBank _) fun _ size _ _ => ?_
  refine Activity.Does.sameBank_bind (Activity.ofExcept_sameBank _) fun _ start _ _ => ?_
  exact reading_does (readingHistory_untouched id size start)

theorem entriesOfGroup_does (group : Identifier) :
    (entriesOfGroup surroundings group).Does surroundings.locked := by
  refine Activity.Does.bind_sameBank (reading_does (entriesOfGroup_untouched group)) ?_
  intro entries
  split
  · exact Activity.refuse_sameBank _
  · exact Keeps.pure entries

theorem ping_sameBank : Keeps Desk.SameBank (ping surroundings) := by
  intro before
  rw [ping]
  split
  · rfl
  · rfl

end Service

/-! ## Calls and requests -/

theorem Activity.Does.map
    {locked : Bool}
    {activity : Activity Answer}
    (does : activity.Does locked)
    (form : Answer → Next) :
    Activity.Does locked (form <$> activity) :=
  Keeps.map does form

/-- Every call does one deed at most, whatever becomes of it. -/
theorem Call.perform_does (surroundings : Surroundings) (call : Call) :
    (call.perform surroundings).Does surroundings.locked := by
  cases call with
  | createUser email => exact (Service.createUser_does surroundings email).map _
  | openAccount owner name currency =>
      exact (Service.openAccount_does surroundings owner name currency).map _
  | ensureSettlement => exact (Service.ensureSettlement_does surroundings).map _
  | showAccount id => exact (Service.account_does surroundings id).map _
  | listAccounts owner => exact (Service.accountsOf_does surroundings owner).map _
  | deposit account amount description =>
      exact (Service.deposit_does surroundings account amount description).map _
  | withdraw account amount description =>
      exact (Service.withdraw_does surroundings account amount description).map _
  | transfer source destination amount description =>
      exact (Service.transfer_does surroundings source destination amount description).map _
  | reconcile account => exact (Service.reconcile_does surroundings account).map _
  | reconcileAll => exact (Service.reconcileAll_does surroundings).map _
  | history account limit offset =>
      exact (Service.history_does surroundings account limit offset).map _
  | entriesOfGroup group => exact (Service.entriesOfGroup_does surroundings group).map _
  | ping =>
      exact (Activity.Does.of_sameBank (Service.ping_sameBank surroundings)).map _

namespace Http

theorem serveHealth_sameBank (surroundings : Surroundings) :
    Keeps Desk.SameBank (serveHealth surroundings) := by
  intro before
  rw [serveHealth]
  have pinged := Service.ping_sameBank surroundings before
  cases outcome : Service.ping surroundings before with
  | ok answer after =>
      rw [outcome] at pinged
      exact pinged
  | error failure after =>
      rw [outcome] at pinged
      exact pinged

/-- A request keeps what every call keeps, if that holds as long as the bank stays the same. -/
theorem serve_keeps
    {surroundings : Surroundings}
    {relation : Desk → Desk → Prop}
    (quiet : ∀ {before after}, Desk.SameBank before after → relation before after)
    (performs : ∀ call, Keeps relation (Call.perform surroundings call))
    (request : Request) :
    Keeps relation (serve surroundings request) := by
  intro before
  rw [serve]
  cases request.task with
  | error response => exact quiet rfl
  | ok task =>
      cases task with
      | checkHealth => exact quiet (serveHealth_sameBank surroundings before)
      | perform call =>
          have kept := performs call before
          simp only [serveCall]
          cases outcome : call.perform surroundings before with
          | ok reply after =>
              rw [outcome] at kept
              exact kept
          | error failure after =>
              rw [outcome] at kept
              exact kept

/-- Every request does one deed at most, whatever it is answered. -/
theorem serve_does (surroundings : Surroundings) (request : Request) :
    (serve surroundings request).Does surroundings.locked :=
  serve_keeps Bank.Does.of_sameBank (fun call => call.perform_does surroundings) request

end Http

end Bookkeeping
