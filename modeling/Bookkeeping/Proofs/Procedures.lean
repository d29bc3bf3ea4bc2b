import Bookkeeping.Proofs.Movement
import Bookkeeping.Service.Accounts
import Bookkeeping.Service.Inspection

/-!
# Procedures

The services run procedures that are put together from queries.  A relation that every
query keeps, and that holds of a session that was only looked at, is therefore kept by
all of these procedures.  This is said once, for any such relation, along the text of
each procedure; what is to be known of the procedures as a whole then only has to be
known of the five queries that write or draw.

One procedure also puts something on record in the middle of its work.  Whoever wants a
relation to be kept by that one has to show that announcements keep it.
-/

namespace Bookkeeping

open Session

namespace Service

/-- The insertion of a user. -/
def creatingUser (email : Value) : Work (Seen User) := do
  let user ← Work.createUser email
  Work.seen user.id user

end Service

namespace Work

/-- Every query keeps a relation. -/
structure KeptByQueries (relation : Session → Session → Prop) : Prop where
  looking : ∀ {before after}, Untouched before after → relation before after
  createUser : ∀ email, Keeps relation (createUser email)
  openAccount :
    ∀ name currency owner isSystem, Keeps relation (openAccount name currency owner isSystem)
  drawGroup : Keeps relation drawGroup
  post : ∀ posting, Keeps relation (post posting)
  moveBalance : ∀ id delta, Keeps relation (moveBalance id delta)

namespace KeptByQueries

variable {Answer : Type} {relation : Session → Session → Prop}

/-- Work that looks at the database at most keeps what holds of sessions that were looked at. -/
theorem reading
    (kept : KeptByQueries relation)
    {work : Work Answer}
    (keeps : Keeps Untouched work) :
    Keeps relation work :=
  keeps.mono fun _ _ => kept.looking

variable [IsPreorder Session relation]

theorem creatingUser (kept : KeptByQueries relation) (email : Value) :
    Keeps relation (Service.creatingUser email) :=
  (kept.createUser email).bind fun user => kept.reading (seen_untouched user.id user)

theorem openingAccount
    (kept : KeptByQueries relation)
    (owner : Identifier)
    (name currency : Value) :
    Keeps relation (Service.openingAccount owner name currency) := by
  refine (kept.reading (user_untouched owner)).bind fun _ => ?_
  refine (kept.reading policy_untouched).bind fun policy => ?_
  refine (kept.reading (ofExcept_untouched _)).bind fun written => ?_
  refine (kept.openAccount name _ (some owner) false).bind fun account => ?_
  exact kept.reading (seen_untouched account.id account)

theorem seeding
    (kept : KeptByQueries relation)
    (announced : ∀ announcement, Keeps relation (announce announcement)) :
    Keeps relation Service.seedingSettlement := by
  refine (kept.reading policy_untouched).bind fun policy => ?_
  refine (kept.reading (findSettlement_untouched policy.settlementName)).bind fun found? => ?_
  cases found? with
  | some settlement => exact Keeps.pure _
  | none =>
      refine (kept.openAccount _ _ none true).bind fun settlement => ?_
      refine (kept.reading (seen_untouched settlement.id settlement)).bind fun seen => ?_
      exact (announced _).bind fun _ => Keeps.pure seen

theorem move
    (kept : KeptByQueries relation)
    (operation : Operation)
    (firstId secondId : Identifier)
    (effect : Money)
    (firstDescription secondDescription : Value) :
    Keeps relation
      (Service.move operation firstId secondId effect firstDescription secondDescription) := by
  refine kept.drawGroup.bind fun group => ?_
  refine (kept.post _).bind fun _ => ?_
  refine (kept.post _).bind fun _ => ?_
  refine (kept.moveBalance firstId effect).bind fun _ => ?_
  exact (kept.moveBalance secondId (-effect)).bind fun _ => Keeps.pure group

theorem depositing
    (kept : KeptByQueries relation)
    (id : Identifier)
    (amount : Money)
    (description : Value) :
    Keeps relation (Service.depositing id amount description) :=
  (kept.reading (Service.counterparties_untouched id)).bind fun _ => kept.move _ _ _ _ _ _

theorem withdrawing
    (kept : KeptByQueries relation)
    (id : Identifier)
    (amount : Money)
    (description : Value) :
    Keeps relation (Service.withdrawing id amount description) :=
  (kept.reading (Service.counterparties_untouched id)).bind fun parties =>
    (kept.reading (Service.requireFunds_untouched parties.2 amount)).bind fun _ =>
      kept.move _ _ _ _ _ _

theorem transferring
    (kept : KeptByQueries relation)
    (sourceId destinationId : Identifier)
    (amount : Money)
    (description : Value) :
    Keeps relation (Service.transferring sourceId destinationId amount description) := by
  refine (kept.reading (account_untouched sourceId false)).bind fun shownSource => ?_
  refine (kept.reading (Service.refuseSystem_untouched shownSource)).bind fun _ => ?_
  refine (kept.reading (account_untouched destinationId false)).bind fun shownDestination => ?_
  refine (kept.reading (Service.refuseSystem_untouched shownDestination)).bind fun _ => ?_
  refine (kept.reading (Service.lockedPair_untouched sourceId destinationId)).bind fun pair => ?_
  refine (kept.reading (Service.requireCurrency_untouched pair.1.currency _)).bind fun _ => ?_
  refine (kept.reading (Service.requireFunds_untouched pair.1 amount)).bind fun _ => ?_
  exact kept.move _ _ _ _ _ _

end KeptByQueries

/-! ## Sessions that go on -/

theorem announce_continued (announcement : Announcement) :
    Keeps Continued (announce announcement) :=
  (announce_evolved announcement).mono fun _ _ => Evolved.toContinued

/-- Whatever becomes of a query, the session goes on without changing what is committed. -/
theorem continued_keptByQueries : KeptByQueries Continued where
  looking := Untouched.continued
  createUser := createUser_continued
  openAccount := openAccount_continued
  drawGroup := drawGroup_evolved.mono fun _ _ => Evolved.toContinued
  post := post_continued
  moveBalance := moveBalance_continued

end Work

/-! ## Sessions whose tables have grown -/

namespace Session

/-- A session has evolved by some writes. -/
def Grown (before after : Session) : Prop :=
  ∃ writes, Evolved writes before after

namespace Grown

variable {before after : Session}

theorem continued (grown : Grown before after) : Continued before after := by
  rcases grown with ⟨writes, evolved⟩
  exact evolved.toContinued

theorem of_spared (spared : Spared before after) : Grown before after :=
  ⟨[], spared.toEvolved⟩

instance : IsPreorder Session Grown where
  refl session := ⟨[], .refl session⟩
  trans := by
    rintro first second third ⟨early, before⟩ ⟨late, after⟩
    exact ⟨early ++ late, before.trans after⟩

end Grown

end Session

/-- Every query writes something, or nothing. -/
theorem Work.grown_keptByQueries : KeptByQueries Grown where
  looking untouched := ⟨[], untouched.evolved⟩
  createUser email :=
    Keeps.intro
      (fun _ _ _ created => ⟨_, (createUser_ok created).1⟩)
      (fun _ _ _ refused => .of_spared (createUser_error refused).1)
  openAccount name currency owner isSystem := by
    apply Keeps.intro
    · intro before account after opened
      rcases openAccount_ok opened with ⟨row, _, _, -, -, -, evolved, -⟩
      exact ⟨_, evolved⟩
    · intro before failure after refused
      exact .of_spared (openAccount_error refused).1
  drawGroup := drawGroup_evolved.mono fun _ _ evolved => ⟨[], evolved⟩
  post posting :=
    Keeps.intro
      (fun _ _ _ posted => ⟨_, (post_ok posted).2.1⟩)
      (fun _ _ _ refused => .of_spared (post_error refused).1)
  moveBalance id delta :=
    Keeps.intro
      (fun _ _ _ moved => ⟨_, (moveBalance_ok moved).1⟩)
      (fun _ _ _ refused => ⟨[], (moveBalance_error refused).evolved⟩)

namespace Service

open Work

/-! ## Procedures that only read -/

theorem reconciling_untouched (id : Identifier) : Keeps Untouched (reconciling id) :=
  (account_untouched id false).bind fun account =>
    (comparedBalance_untouched account).bind fun _ =>
      (calculatedBalance_untouched id).bind fun _ => Keeps.pure _

theorem reconciledBy_untouched (calculated : List (Identifier × Money)) (account : Account) :
    Keeps Untouched (reconciledBy calculated account) :=
  (comparedBalance_untouched account).bind fun _ => Keeps.pure _

theorem reconcilingAll_untouched : Keeps Untouched reconcilingAll :=
  accounts_untouched.bind fun accounts =>
    calculatedBalances_untouched.bind fun calculated =>
      Keeps.mapM (reconciledBy_untouched calculated) accounts

theorem readingHistory_untouched (id : Identifier) (limit offset : Value) :
    Keeps Untouched (readingHistory id limit offset) :=
  (account_untouched id false).bind fun _ => history_untouched id limit offset

end Service

end Bookkeeping
