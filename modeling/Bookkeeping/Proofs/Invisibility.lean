import Bookkeeping.Proofs.History
import Bookkeeping.Proofs.Refusals

/-!
# Steps that leave no trace

A call that only reads, and one that is rejected, leave the bank exactly as they find it: not
only its tables, but also the identifiers and the times that are drawn next.  Everything for
which a call can be rejected is therefore checked before anything is drawn.  What can fail
afterwards is the storage, the calendar or a constraint, and none of these is a rejection.

Whoever leaves such steps out of a run gets the same from all the others.  Each of them has
the same outcome, puts the same on record, and leaves the same bank.
-/

namespace Bookkeeping

open Session

variable {Answer Next : Type}

/-- Whether a failure rejects what was asked for: it is wrong, or names what does not exist. -/
def Failure.isRejection (failure : Failure) : Bool :=
  failure.notice?.any fun notice => notice.kind.isClientError || notice.kind.isNotFound

/-! ## Work that is not rejected -/

namespace Work

/-- However work fails in a session, it is not rejected. -/
def Admitted (work : Work Answer) (before : Session) : Prop :=
  ∀ failure after, work before = .error failure after → failure.isRejection = false

/-- Work that is rejected in a session has looked at the database at most. -/
def Cautious (work : Work Answer) (before : Session) : Prop :=
  ∀ failure after,
    work before = .error failure after → failure.isRejection = true → Untouched before after

section Sequences

variable {first : Work Answer} {rest : Answer → Work Next} {before : Session}

theorem Admitted.bind
    (admitted : Admitted first before)
    (others : ∀ answer middle, first before = .ok answer middle → Admitted (rest answer) middle) :
    Admitted (first >>= rest) before := by
  intro failure after failed
  rcases sequence_error_iff.mp failed with failedFirst | ⟨answer, middle, answered, failedRest⟩
  · exact admitted failure after failedFirst
  · exact others answer middle answered failure after failedRest

/-- Work that always answers is not rejected. -/
theorem Admitted.of_answers
    (answers : ∀ before, ∃ answer after, first before = .ok answer after)
    (before : Session) :
    Admitted first before := by
  intro failure after failed
  rcases answers before with ⟨answer, last, answered⟩
  rw [answered] at failed
  cases failed

theorem Admitted.cautious (admitted : Admitted first before) : Cautious first before := by
  intro failure after failed rejected
  rw [admitted failure after failed] at rejected
  cases rejected

theorem Cautious.of_keeps (keeps : Keeps Untouched first) (before : Session) :
    Cautious first before :=
  fun _ _ failed _ => keeps.of_error failed

/-- Before work that is cautious, the database may be looked at. -/
theorem Cautious.looking_bind
    (looks : Keeps Untouched first)
    (others : ∀ answer middle, first before = .ok answer middle → Cautious (rest answer) middle) :
    Cautious (first >>= rest) before := by
  intro failure after failed rejected
  rcases sequence_error_iff.mp failed with failedFirst | ⟨answer, middle, answered, failedRest⟩
  · exact looks.of_error failedFirst
  · refine (looks.of_ok answered).trans ?_
    exact others answer middle answered failure after failedRest rejected

end Sequences

end Work

/-! ## Writing is not rejected -/

section Writing

variable {failure : Failure}

theorem storedText_admitted
    {place : Nat}
    {value : Value}
    (refused : storedText place value = .error failure) :
    failure.isRejection = false := by
  cases value with
  | null => cases refused
  | bool held => cases refused
  | float number => cases refused
  | int number =>
      rw [storedText] at refused
      split at refused
      · cases refused
      · cases refused
        rfl
  | text text =>
      rw [storedText, storedString] at refused
      split at refused
      · cases refused
      · cases refused
        rfl
  | _ =>
      cases refused
      rfl

namespace Tables

variable {tables : Tables}

theorem insertUser_admitted
    {draft : UserDraft}
    (refused : tables.insertUser draft = .error failure) :
    failure.isRejection = false := by
  rcases attempt_error_iff.mp refused with unkept | ⟨email?, -, rest⟩
  · exact storedText_admitted unkept
  · split at rest
    · cases rest
      rfl
    · split at rest
      · cases rest
        rfl
      · cases rest

theorem insertUsers_admitted
    {drafts : List UserDraft}
    (refused : tables.insertUsers drafts = .error failure) :
    failure.isRejection = false := by
  induction drafts generalizing tables with
  | nil => cases refused
  | cons draft rest hypothesis =>
      rw [insertUsers] at refused
      split at refused
      · exact hypothesis refused
      · rename_i met first
        cases refused
        exact insertUser_admitted first

theorem insertAccount_admitted
    {draft : AccountDraft}
    (refused : tables.insertAccount draft = .error failure) :
    failure.isRejection = false := by
  rcases attempt_error_iff.mp refused with unkept | ⟨name?, -, rest⟩
  · exact storedText_admitted unkept
  rcases attempt_error_iff.mp rest with unkept | ⟨currency?, -, rest⟩
  · exact storedText_admitted unkept
  · split at rest
    · cases rest
      rfl
    · cases rest
      rfl
    · split at rest
      · cases rest
      · cases rest
        rfl

theorem insertEntry_admitted
    {draft : EntryDraft}
    (refused : tables.insertEntry draft = .error failure) :
    failure.isRejection = false := by
  rcases attempt_error_iff.mp refused with unkept | ⟨description?, -, rest⟩
  · exact storedText_admitted unkept
  · simp only at rest
    split at rest
    · cases rest
      rfl
    · cases rest
      rfl
    · cases rest

/-- A listener that refuses an update does not reject what was asked for. -/
theorem updateEntries_admitted
    {updates : List (Identifier × Value)}
    (refused : tables.updateEntries updates = .error failure) :
    failure.isRejection = false := by
  cases updates with
  | nil => cases refused
  | cons first rest =>
      rw [updateEntries_cons] at refused
      cases refused
      rfl

theorem deleteEntries_admitted
    {deletions : List Identifier}
    (refused : tables.deleteEntries deletions = .error failure) :
    failure.isRejection = false := by
  cases deletions with
  | nil =>
      rw [deleteEntries_nil] at refused
      cases refused
  | cons first rest =>
      rw [deleteEntries_cons] at refused
      cases refused
      rfl

end Tables

end Writing

namespace Work

theorem view_admitted (before : Session) : Admitted view before := by
  intro failure after refused
  rcases view_error_eq refused with rfl | ⟨cause, rfl⟩
  · rfl
  · rfl

theorem make_admitted (kind : Identifier.Kind) (before : Session) :
    Admitted (make kind) before := by
  intro failure after refused
  rw [make_error_eq refused]
  rfl

section Flushing

variable {before : Session}

theorem flush_admitted
    {rows : List UserDraft → List Revision → Tables → Except Failure (Answer × Tables)}
    (admitted :
      ∀ staged revised tables failure,
        rows staged revised tables = .error failure → failure.isRejection = false) :
    Admitted (flush rows) before := by
  intro failure after refused
  rw [flush] at refused
  cases viewed : view before with
  | error met session =>
      rw [viewed] at refused
      cases refused
      exact view_admitted before _ _ viewed
  | ok tables session =>
      simp only [viewed] at refused
      split at refused
      · cases refused
      · rename_i met inserted
        cases refused
        exact admitted _ _ _ _ inserted

variable
  {rows : Tables → Except Failure (Answer × Tables)}
  (admitted : ∀ tables failure, rows tables = .error failure → failure.isRejection = false)

include admitted

theorem insert_admitted : Admitted (insert rows) before := by
  apply flush_admitted
  intro staged revised tables failure refused
  rcases attempt_error_iff.mp refused with updates | ⟨updated, -, rest⟩
  · exact Tables.updateEntries_admitted updates
  rcases attempt_error_iff.mp rest with users | ⟨middle, -, rest⟩
  · exact Tables.insertUsers_admitted users
  rcases attempt_error_iff.mp rest with inserted | ⟨⟨answer, last⟩, -, rest⟩
  · exact admitted middle failure inserted
  rcases attempt_error_iff.mp rest with deletions | ⟨deleted, -, answered⟩
  · exact Tables.deleteEntries_admitted deletions
  · cases answered

theorem insertAhead_admitted : Admitted (insertAhead rows) before := by
  apply flush_admitted
  intro staged revised tables failure refused
  rcases attempt_error_iff.mp refused with updates | ⟨updated, -, rest⟩
  · exact Tables.updateEntries_admitted updates
  rcases attempt_error_iff.mp rest with inserted | ⟨⟨answer, middle⟩, -, rest⟩
  · exact admitted updated failure inserted
  rcases attempt_error_iff.mp rest with users | ⟨last, -, rest⟩
  · exact Tables.insertUsers_admitted users
  rcases attempt_error_iff.mp rest with deletions | ⟨deleted, -, answered⟩
  · exact Tables.deleteEntries_admitted deletions
  · cases answered

theorem insertBetween_admitted : Admitted (insertBetween rows) before := by
  apply flush_admitted
  intro staged revised tables failure refused
  rcases attempt_error_iff.mp refused with users | ⟨middle, -, rest⟩
  · exact Tables.insertUsers_admitted users
  rcases attempt_error_iff.mp rest with inserted | ⟨⟨answer, last⟩, -, rest⟩
  · exact admitted middle failure inserted
  rcases attempt_error_iff.mp rest with updates | ⟨updated, -, rest⟩
  · exact Tables.updateEntries_admitted updates
  rcases attempt_error_iff.mp rest with deletions | ⟨deleted, -, answered⟩
  · exact Tables.deleteEntries_admitted deletions
  · cases answered

end Flushing

/-- Keeping what was given of a row, and showing it, always answers. -/
theorem keepGiven_admitted (id : Identifier) (fields : List (String × Value)) :
    ∀ before, Admitted (keepGiven id fields) before :=
  Admitted.of_answers fun session => by
    rcases keepGiven_answers id fields session with ⟨after, answered, -⟩
    exact ⟨(), after, answered⟩

theorem openAccount_admitted
    (name currency : Value)
    (owner : Option Identifier)
    (isSystem : Bool)
    (before : Session) :
    Admitted (openAccount name currency owner isSystem) before := by
  refine (make_admitted .account before).bind fun made first _ => ?_
  refine Admitted.bind ?_ fun account second _ => ?_
  · exact insertBetween_admitted fun tables failure => Tables.insertAccount_admitted
  refine (keepGiven_admitted _ _ second).bind fun _ third _ => ?_
  exact Admitted.of_answers (fun session => remember_answers account session) third

theorem post_admitted (posting : Posting) (before : Session) : Admitted (post posting) before := by
  refine (make_admitted .entry before).bind fun made first _ => ?_
  refine Admitted.bind ?_ fun entry second _ => ?_
  · exact insertAhead_admitted fun tables failure => Tables.insertEntry_admitted
  refine (keepGiven_admitted _ _ second).bind fun _ third _ => ?_
  exact Admitted.of_answers (fun session => ⟨entry, session, rfl⟩) third

theorem rewording_admitted
    {work : Work Answer}
    {words : Failure → Failure}
    (same :
      ∀ failure : Failure, failure.isRejection = false → (words failure).isRejection = false)
    {before : Session}
    (admitted : Admitted work before) :
    Admitted (rewording words work) before := by
  intro failure after refused
  rw [rewording] at refused
  cases outcome : work before with
  | ok answer session =>
      rw [outcome] at refused
      cases refused
  | error met session =>
      rw [outcome] at refused
      cases refused
      exact same met (admitted met after outcome)

theorem asTaken_admitted
    (email : Value)
    {failure : Failure}
    (admitted : failure.isRejection = false) :
    (asTaken email failure).isRejection = false := by
  cases failure with
  | violated constraint => rfl
  | _ => exact admitted

/-- An address that is taken is a failure of its own, and no rejection. -/
theorem createUser_admitted (email : Value) (before : Session) :
    Admitted (createUser email) before := by
  rw [createUser_eq]
  have asking : Admitted (isTaken email) before := by
    refine (view_admitted before).bind fun tables first _ => ?_
    refine Admitted.bind ?_ fun text? second _ => ?_
    · intro failure after refused
      exact storedText_admitted (ofExcept_error_iff.mp refused).1
    · exact Admitted.of_answers (fun session => ⟨_, session, rfl⟩) second
  refine asking.bind fun taken first _ => ?_
  cases taken with
  | true =>
      intro failure after refused
      rcases throw_error_iff.mp refused with ⟨rfl, -⟩
      rfl
  | false =>
      refine (make_admitted .user first).bind fun made second _ => ?_
      refine Admitted.bind ?_ fun user third _ => ?_
      · apply rewording_admitted fun _ => asTaken_admitted email
        exact insert_admitted fun tables failure => Tables.insertUser_admitted
      refine (keepGiven_admitted _ _ third).bind fun _ fourth _ => ?_
      exact Admitted.of_answers (fun session => ⟨user, session, rfl⟩) fourth

end Work

/-! ## Moving money between accounts that are there -/

/-- A session finds an account, as long as it is not undone. -/
def Session.Finds (id : Identifier) (session : Session) : Prop :=
  session.undoneBy = none → (session.tables.account? id).isSome

theorem Write.foldl_account?_isSome
    (writes : List Write)
    {tables : Tables}
    {id : Identifier}
    (present : (tables.account? id).isSome) :
    ((writes.foldl Write.apply tables).account? id).isSome := by
  induction writes generalizing tables with
  | nil => exact present
  | cons write rest hypothesis =>
      rcases Option.isSome_iff_exists.mp present with ⟨account, found⟩
      rcases write.account?_continues found with ⟨later, foundThen, -⟩
      exact hypothesis (Option.isSome_iff_exists.mpr ⟨later, foundThen⟩)

theorem Session.Untouched.finds
    {before after : Session}
    (untouched : Untouched before after)
    {id : Identifier}
    (found : Finds id before) :
    Finds id after := by
  rw [Finds, untouched.tables, untouched.undoneBy]
  exact found

/-- What a session finds, it finds after whatever it writes. -/
theorem Session.Grown.finds
    {before after : Session}
    (grown : Grown before after)
    {id : Identifier}
    (found : Finds id before) :
    Finds id after := by
  intro usable
  rcases grown with ⟨writes, evolved⟩
  rw [evolved.applied usable]
  exact Write.foldl_account?_isSome writes (found (usable_before evolved.undone usable))

namespace Work

variable {before : Session}

theorem moveBalance_admitted
    {id : Identifier}
    (found : Finds id before)
    (delta : Money) :
    Admitted (moveBalance id delta) before := by
  refine (view_admitted before).bind fun tables first viewed => ?_
  rcases view_ok viewed with ⟨usable, rfl, -, -⟩
  have moved :
      before.tables.moveBalance id delta =
        some ((Write.balance id delta).apply before.tables) := by
    simp [Tables.moveBalance, found usable, Write.apply]
  rw [moved]
  exact Admitted.of_answers (fun session => ⟨(), _, rfl⟩) first

/-- Between two accounts that are found, moving money is not rejected. -/
theorem move_admitted
    (operation : Operation)
    {firstId secondId : Identifier}
    (foundFirst : Finds firstId before)
    (foundSecond : Finds secondId before)
    (effect : Money)
    (firstDescription secondDescription : Value) :
    Admitted
      (Service.move operation firstId secondId effect firstDescription secondDescription)
      before := by
  have grown := grown_keptByQueries
  refine Admitted.bind ?_ fun group one drawn => ?_
  · exact Admitted.of_answers (fun session => ⟨_, _, rfl⟩) before
  refine (post_admitted _ one).bind fun early two postedEarly => ?_
  refine (post_admitted _ two).bind fun late three postedLate => ?_
  have posting : Grown before three :=
    trans_of Grown (grown.drawGroup.of_ok drawn)
      (trans_of Grown ((grown.post _).of_ok postedEarly) ((grown.post _).of_ok postedLate))
  refine (moveBalance_admitted (posting.finds foundFirst) effect).bind fun _ four moved => ?_
  have moving := trans_of Grown posting ((grown.moveBalance firstId effect).of_ok moved)
  refine (moveBalance_admitted (moving.finds foundSecond) (-effect)).bind fun _ five _ => ?_
  exact Admitted.of_answers (fun session => ⟨group, session, rfl⟩) five

end Work

/-! ## Procedures are cautious -/

namespace Service

open Work

variable {before : Session}

/-- Both counterparties that were found are found. -/
theorem counterparties_finds
    {id : Identifier}
    {settlement account : Account}
    {after : Session}
    (answered : counterparties id before = .ok (settlement, account) after) :
    Finds account.id after ∧ Finds settlement.id after := by
  have looking := (counterparties_untouched id).of_ok answered
  rcases counterparties_found answered with ⟨settled, present, -, -⟩
  rcases Option.bind_eq_some_iff.mp settled with ⟨name, -, named⟩
  rcases Tables.settlement?_eq_some named with ⟨member, -, -⟩
  rw [← looking.tables] at present member
  constructor
  · intro _
    rw [(Tables.account?_eq_some present).2, present]
    rfl
  · intro _
    exact List.find?_isSome.mpr ⟨settlement, member, by simp⟩

theorem depositing_cautious (id : Identifier) (amount : Money) (description : Value) :
    Cautious (depositing id amount description) before := by
  refine Cautious.looking_bind (counterparties_untouched id) ?_
  rintro ⟨settlement, account⟩ middle answered
  rcases counterparties_finds answered with ⟨foundFirst, foundSecond⟩
  exact (move_admitted .deposit foundFirst foundSecond amount _ _).cautious

theorem withdrawing_cautious (id : Identifier) (amount : Money) (description : Value) :
    Cautious (withdrawing id amount description) before := by
  refine Cautious.looking_bind (counterparties_untouched id) ?_
  rintro ⟨settlement, account⟩ middle answered
  rcases counterparties_finds answered with ⟨foundFirst, foundSecond⟩
  refine Cautious.looking_bind (requireFunds_untouched account amount) fun _ last required => ?_
  rcases requireFunds_ok required with ⟨-, -, rfl⟩
  exact (move_admitted .withdrawal foundFirst foundSecond (-amount) _ _).cautious

/-- The accounts that were locked as a pair are found. -/
theorem lockedPair_finds
    {first second : Identifier}
    {firstAccount secondAccount : Account}
    {after : Session}
    (answered : lockedPair first second before = .ok (firstAccount, secondAccount) after) :
    Finds firstAccount.id after ∧ Finds secondAccount.id after := by
  have looking := (lockedPair_untouched first second).of_ok answered
  rcases lockedPair_ok answered with ⟨presentFirst, presentSecond⟩
  constructor
  · apply looking.finds
    intro _
    rw [(Tables.account?_eq_some presentFirst).2, presentFirst]
    rfl
  · apply looking.finds
    intro _
    rw [(Tables.account?_eq_some presentSecond).2, presentSecond]
    rfl

theorem transferring_cautious
    (sourceId destinationId : Identifier)
    (amount : Money)
    (description : Value) :
    Cautious (transferring sourceId destinationId amount description) before := by
  refine Cautious.looking_bind (account_untouched sourceId false) fun shownSource _ _ => ?_
  refine Cautious.looking_bind (refuseSystem_untouched shownSource) fun _ _ _ => ?_
  refine Cautious.looking_bind (account_untouched destinationId false) fun shownOther _ _ => ?_
  refine Cautious.looking_bind (refuseSystem_untouched shownOther) fun _ _ _ => ?_
  refine Cautious.looking_bind (lockedPair_untouched sourceId destinationId) ?_
  rintro ⟨source, destination⟩ middle locked
  refine
    Cautious.looking_bind (requireCurrency_untouched source.currency _) fun _ three required => ?_
  rcases requireCurrency_ok required with ⟨-, rfl⟩
  refine Cautious.looking_bind (requireFunds_untouched source amount) fun _ four covered => ?_
  rcases requireFunds_ok covered with ⟨-, -, rfl⟩
  rcases lockedPair_finds locked with ⟨foundSource, foundDestination⟩
  exact (move_admitted .transfer foundSource foundDestination (-amount) _ _).cautious

theorem creatingUser_cautious (email : Value) : Cautious (creatingUser email) before := by
  refine ((createUser_admitted email before).bind fun user after _ => ?_).cautious
  exact Admitted.of_answers (fun session => ⟨_, session, rfl⟩) after

theorem openingAccount_cautious (owner : Identifier) (name currency : Value) :
    Cautious (openingAccount owner name currency) before := by
  refine Cautious.looking_bind (user_untouched owner) fun _ _ _ => ?_
  refine Cautious.looking_bind policy_untouched fun policy _ _ => ?_
  refine Cautious.looking_bind (ofExcept_untouched _) fun written middle _ => ?_
  have opens := openAccount_admitted name (.text written) (some owner) false middle
  refine (opens.bind fun row last _ => ?_).cautious
  exact Admitted.of_answers (fun session => ⟨_, session, rfl⟩) last

theorem seedingSettlement_cautious : Cautious seedingSettlement before := by
  refine Cautious.looking_bind policy_untouched fun policy _ _ => ?_
  refine Cautious.looking_bind (findSettlement_untouched _) fun found? middle _ => ?_
  cases found? with
  | some settlement => exact .of_keeps (Keeps.pure _) middle
  | none =>
      refine ((openAccount_admitted _ _ none true middle).bind fun row last _ => ?_).cautious
      exact Admitted.of_answers (fun session => ⟨_, _, rfl⟩) last

end Service

/-! ## Units of work -/

namespace Work

theorem unableToCommit_admitted
    {failure : Failure}
    (admitted : failure.isRejection = false) :
    (unableToCommit failure).isRejection = false := by
  rw [unableToCommit]
  split
  · rfl
  · exact admitted

theorem complete_admitted (session : Session) : Admitted complete session := by
  intro failure after refused
  rw [complete] at refused
  split at refused
  · cases refused
    rfl
  · rw [flushWaiting] at refused
    split at refused
    · cases refused
    · exact insert_admitted (fun _ _ => by simp) failure after refused

/-- What is rolled back because of a rejection is left as it was, if the rejection is told. -/
theorem rollBack_rejected
    {fault : Fault}
    {met failure : Failure}
    {before after : Desk}
    (ended : (rollBack fault met : Activity Answer) before = .error failure after)
    (rejected : failure.isRejection = true) :
    failure = met ∧ after = before := by
  rw [rollBack] at ended
  split at ended
  · rcases sequence_error_iff.mp ended with announced | ⟨_, middle, announced, refusal⟩
    · cases announced
    · cases refusal
      cases rejected
  · cases ended
    exact ⟨rfl, rfl⟩

/-- A unit of work that is rejected leaves the bank as it was, if its body is cautious. -/
theorem inUnit_rejected
    {surroundings : Surroundings}
    {level : Value}
    {body : Work Answer}
    (cautious : ∀ session, Cautious body session)
    {before after : Desk}
    {failure : Failure}
    (ended : body.inUnit surroundings level before = .error failure after)
    (rejected : failure.isRejection = true) :
    after.bank = before.bank := by
  rcases inUnit_cases surroundings level body before with ⟨met, ends⟩ | ⟨session, fresh, ends⟩
  · rw [ends] at ended
    cases ended
    rfl
  rw [ends] at ended
  cases result : body session with
  | error met final =>
      rw [result] at ended
      rcases rollBack_rejected ended rejected with ⟨rfl, rfl⟩
      rw [(cautious session failure final result rejected).desk, fresh.desk]
  | ok answer final =>
      -- What keeps an answer from being committed is no rejection.
      rw [result, conclude] at ended
      split at ended
      · cases ended
        cases rejected
      · cases completed : complete final with
        | ok done last =>
            rw [completed] at ended
            cases ended
        | error met last =>
            rw [completed] at ended
            cases ended
            rw [unableToCommit_admitted (complete_admitted final met last completed)] at rejected
            cases rejected

end Work

/-! ## Calls -/

theorem Activity.tell_sameBank (announcements : List Announcement) :
    Keeps Desk.SameBank (tell announcements) :=
  fun _ => rfl

/-- The unit of work of an intention is cautious, and whatever it answers is replied. -/
def Intention.IsCautious : Intention → Prop
  | .working body _ reply =>
    (∀ session, Work.Cautious body session) ∧ ∀ part, ∃ answer, reply part = .ok answer
  | .refused _ | .probing => True

namespace Call

variable {call : Call}

/-- Calls that only read look at the database at most. -/
theorem intention_untouched
    (reads : call.isReading = true)
    (policy : Policy) :
    (call.intention policy).Within Untouched := by
  have refusing (failure : Failure) : (Intention.refused failure).Within Untouched := trivial
  cases call with
  | showAccount id => exact Work.account_untouched id false
  | listAccounts owner => exact Work.accountsOf_untouched owner
  | reconcile id => exact Service.reconciling_untouched id
  | reconcileAll => exact Service.reconcilingAll_untouched
  | history id limit offset =>
      exact
        Intention.requiring_intro refusing fun page _ =>
          Service.readingHistory_untouched id page.1 page.2
  | entriesOfGroup group => exact Work.entriesOfGroup_untouched group
  | ping => trivial
  | _ => cases reads

/-- All other calls are cautious. -/
theorem intention_cautious
    (writes : call.isReading = false)
    (policy : Policy) :
    (call.intention policy).IsCautious := by
  have refusing (failure : Failure) : (Intention.refused failure).IsCautious := trivial
  have replies {Part : Type} (form : Part → Reply) (part : Part) :
      ∃ answer, (Except.ok ∘ form : Part → Except Failure Reply) part = .ok answer := ⟨_, rfl⟩
  cases call with
  | createUser email => exact ⟨fun _ => Service.creatingUser_cautious email, replies _⟩
  | openAccount owner name currency =>
      exact ⟨fun _ => Service.openingAccount_cautious owner name currency, replies _⟩
  | ensureSettlement => exact ⟨fun _ => Service.seedingSettlement_cautious, replies _⟩
  | deposit account amount description =>
      exact
        Intention.requiring_intro refusing fun units _ =>
          ⟨fun _ => Service.depositing_cautious account units description, replies _⟩
  | withdraw account amount description =>
      exact
        Intention.requiring_intro refusing fun units _ =>
          ⟨fun _ => Service.withdrawing_cautious account units description, replies _⟩
  | transfer source destination amount description =>
      refine Intention.requiring_intro refusing fun units _ => ?_
      split
      · exact refusing _
      · exact
          ⟨fun _ => Service.transferring_cautious source destination units description, replies _⟩
  | _ => cases writes

variable {surroundings : Surroundings}

/-- A call that only reads leaves the bank as it was, whatever it answers. -/
theorem perform_sameBank (reads : call.isReading = true) :
    Keeps Desk.SameBank (call.perform surroundings) := by
  intro desk
  have looks := intention_untouched reads desk.bank.policy
  rw [call.perform_eq]
  cases intended : call.intention desk.bank.policy with
  | refused failure => rfl
  | probing => exact (Service.ping_sameBank surroundings).map _ desk
  | working body told reply =>
      rw [intended] at looks
      have units : Keeps Desk.SameBank (body.inUnit surroundings .null) :=
        fun desk => Work.inUnit_bank fun session _ => looks session
      refine units.bind (fun part => ?_) desk
      exact
        (Activity.tell_sameBank (told part)).bind fun _ =>
          Activity.ofExcept_sameBank (reply part)

/-- A call that is rejected leaves the bank as it was. -/
theorem perform_rejected
    {before after : Desk}
    {failure : Failure}
    (ended : call.perform surroundings before = .error failure after)
    (rejected : failure.isRejection = true) :
    Desk.SameBank before after := by
  cases reads : call.isReading with
  | true => exact (perform_sameBank reads).of_error ended
  | false =>
      have cautious := intention_cautious reads before.bank.policy
      rw [call.perform_eq] at ended
      cases intended : call.intention before.bank.policy with
      | refused met =>
          rw [intended] at ended
          cases ended
          rfl
      | probing =>
          rw [intended] at ended
          exact ((Service.ping_sameBank surroundings).map _).of_error ended
      | working body told reply =>
          rw [intended] at ended cautious
          rw [Intention.carryOut_working] at ended
          split at ended
          · rename_i part later worked
            rcases cautious.2 part with ⟨answer, replied⟩
            rw [replied] at ended
            cases ended
          · rename_i met later worked
            cases ended
            exact Work.inUnit_rejected cautious.1 worked rejected

end Call

/-! ## Leaving steps out of runs -/

/-- Whether a step is a call that only reads, or one that is rejected. -/
def Step.isInvisible (surroundings : Surroundings) : Step → Desk → Bool
  | .call made, desk =>
    made.isReading ||
      match made.perform surroundings desk with
      | .ok _ _ => false
      | .error failure _ => failure.isRejection
  | .faulty fault step, desk => step.isInvisible { surroundings with fault := fault } desk
  | _, _ => false

theorem Step.take_invisible
    (surroundings : Surroundings)
    (step : Step)
    {desk : Desk}
    (invisible : step.isInvisible surroundings desk = true) :
    (step.take surroundings desk).2.bank = desk.bank := by
  cases step with
  | call made =>
      rw [take, outcomeOf_desk]
      rcases Bool.or_eq_true_iff.mp invisible with reads | rejected
      · exact Call.perform_sameBank reads desk
      · split at rejected
        · cases rejected
        · rename_i failure later ended
          rw [ended]
          exact Call.perform_rejected ended rejected
  | faulty fault step =>
      rw [take]
      exact take_invisible { surroundings with fault := fault } step invisible
  | _ => cases invisible

/-- The members of a list that are left if those with a false mark are left out. -/
def remaining {Item : Type} : List Bool → List Item → List Item
  | true :: marks, item :: items => item :: remaining marks items
  | false :: marks, _ :: items => remaining marks items
  | _, _ => []

namespace Desk

/-- What comes of each step of a run: its outcome, and the desk that it leaves. -/
def results (desk : Desk) : List Step → List (Outcome × Desk)
  | [] => []
  | step :: rest =>
    let taken := step.take .calm { desk with log := [] }
    taken :: taken.2.results rest

/-- A scenario answers a step by what comes of it. -/
theorem answers_eq_results (tellsLog : Bool) (steps : List Step) (desk : Desk) :
    Scenario.answers tellsLog steps desk =
      (steps.zip (desk.results steps)).mapM fun (step, outcome, later) =>
        Scenario.answer tellsLog step outcome later := by
  induction steps generalizing desk with
  | nil => rfl
  | cons step rest hypothesis =>
      simp only [Scenario.answers, results, List.zip_cons_cons, List.mapM_cons, hypothesis]

/-- Whether every step of a run that has a false mark is invisible where it is taken. -/
def mayOmit (desk : Desk) : List Bool → List Step → Bool
  | [], [] => true
  | isKept :: marks, step :: rest =>
    (isKept || step.isInvisible .calm { desk with log := [] }) &&
      (step.take .calm { desk with log := [] }).2.mayOmit marks rest
  | _, _ => false

/-- From the same bank, a run and what is left of it do the same. -/
theorem results_of_sameBank
    {whole left : Desk}
    (same : Desk.SameBank whole left)
    {marks : List Bool}
    {steps : List Step}
    (omits : whole.mayOmit marks steps = true) :
    left.results (remaining marks steps) = remaining marks (whole.results steps) ∧
      Desk.SameBank (whole.after steps) (left.after (remaining marks steps)) := by
  induction steps generalizing whole left marks with
  | nil =>
      cases marks with
      | nil => exact ⟨rfl, same⟩
      | cons isKept marks => cases omits
  | cons step rest hypothesis =>
      cases marks with
      | nil => cases omits
      | cons isKept marks =>
          rcases Bool.and_eq_true_iff.mp omits with ⟨invisible, others⟩
          have cleared : { left with log := [] } = { whole with log := [] } := by
            rw [Desk.mk.injEq]
            exact ⟨same, rfl⟩
          cases isKept with
          | true =>
              rcases hypothesis rfl others with ⟨sameResults, sameEnd⟩
              simp only [remaining, results, after_cons, cleared]
              exact ⟨congrArg _ sameResults, sameEnd⟩
          | false =>
              have kept : Desk.SameBank (step.take .calm { whole with log := [] }).2 left :=
                same.trans (step.take_invisible .calm invisible).symm
              exact hypothesis kept others

/--
Reading and being rejected leave no trace.  If calls that only read, whatever fails, and calls
that are rejected are left out of a run of steps, then every other step has the same outcome
as before, puts the same on record and leaves the same bank, with the same tables and the same
sources of identifiers and times; and so does the run.
-/
theorem results_without_invisible_steps
    (desk : Desk)
    {marks : List Bool}
    {steps : List Step}
    (omits : desk.mayOmit marks steps = true) :
    desk.results (remaining marks steps) = remaining marks (desk.results steps) ∧
      (desk.after (remaining marks steps)).bank = (desk.after steps).bank :=
  results_of_sameBank rfl omits

end Desk

namespace Sample

/-- Accounts, a deposit and a transfer, with questions and vain attempts in between. -/
def inquisitive : List Step :=
  [.call (.createUser (.text "ada@example.com")),
    .call (.openAccount (.drawn .user 1) (.text "Savings") .null),
    .call (.openAccount (.drawn .user 2) (.text "Rent") .null),
    .call (.openAccount (.drawn .user 1) (.text "Rent") .null),
    .call (.deposit savings (.text "0") .null),
    .call (.deposit savings (.text "100") .null),
    .call (.withdraw savings (.text "500") .null),
    .call (.transfer savings savings (.text "1") .null),
    .faulty ⟨true, true⟩ (.call .reconcileAll),
    .call (.transfer savings (.drawn .account 1) (.text "1") .null),
    .call (.entriesOfGroup (.drawn .group 2)),
    .call (.transfer savings rent (.text "30.5") .null)]

/-- The rule at work: what is left of the run does the same. -/
theorem results_of_inquisitive :
    let marks :=
      [true, true, false, true, false, true, false, false, false, false, false, true]
    opened.mayOmit marks inquisitive = true ∧
      opened.results (remaining marks inquisitive) = remaining marks (opened.results inquisitive) ∧
        (opened.after (remaining marks inquisitive)).bank = (opened.after inquisitive).bank := by
  intro marks
  have omits : opened.mayOmit marks inquisitive = true := by decide +kernel
  exact ⟨omits, Desk.results_without_invisible_steps opened omits⟩

end Sample

end Bookkeeping
