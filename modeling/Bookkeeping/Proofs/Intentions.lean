import Bookkeeping.Proofs.Deed

/-!
# What calls intend

All calls go the same way.  A call may be refused before anything is begun, because of
its arguments and the policy alone.  Otherwise it runs one unit of work; what this
answers is put on record and then into a reply, or into a refusal that comes too late to
undo anything.  The check of the database's health is the one exception: it runs no unit
of work.

The intention of a call is this course as a value, and carrying it out is the same as
performing the call.  What holds of all units of work can so be said of all calls, with
one look at the calls.
-/

namespace Bookkeeping

open Session

variable {Part : Type}

/-- What a call comes to at a bank with a certain policy. -/
inductive Intention where
  /-- The call is refused before anything is begun. -/
  | refused (failure : Failure)
  /-- One unit of work is run; what it answers is told, and replied or refused. -/
  | working
      {Part : Type}
      (body : Work Part)
      (told : Part → List Announcement)
      (reply : Part → Except Failure Reply)
  /-- The database is asked whether it answers. -/
  | probing

/-- Puts several things on record, one after the other. -/
def Activity.tell (announcements : List Announcement) : Activity Unit :=
  fun desk => .ok () { desk with log := desk.log ++ announcements }

namespace Intention

/-- An intention that needs something first, and is refused where that cannot be had. -/
def requiring (attempt : Except Failure Part) (intend : Part → Intention) : Intention :=
  match attempt with
  | .ok part => intend part
  | .error failure => .refused failure

def carryOut (surroundings : Surroundings) : Intention → Activity Reply
  | .refused failure => .refuse failure
  | .working body told reply => do
    let part ← body.inUnit surroundings .null
    Activity.tell (told part)
    Activity.ofExcept (reply part)
  | .probing => (fun _ => Reply.nothing) <$> Service.ping surroundings

end Intention

/-- The size and the start of the page that a request for history asks for. -/
def Policy.pageOf (policy : Policy) (limit offset : Value) : Except Failure (Value × Value) := do
  let size ← (Service.pageSize policy limit).mapError .mismatched
  let start ← (Service.pageStart offset).mapError .mismatched
  return (size, start)

/-- What a call comes to. -/
def Call.intention (policy : Policy) : Call → Intention
  | .createUser email => .working (Service.creatingUser email) (fun _ => []) (.ok ∘ .user)
  | .openAccount owner name currency =>
    .working (Service.openingAccount owner name currency)
      (fun seen => [.accountOpened seen.row.id owner seen.row.currency]) (.ok ∘ .account)
  | .ensureSettlement => .working Service.seedingSettlement (fun _ => []) (.ok ∘ .account)
  | .showAccount id => .working (Work.account id false) (fun _ => []) (.ok ∘ .account ∘ .plain)
  | .listAccounts owner => .working (Work.accountsOf owner) (fun _ => []) (.ok ∘ .accounts)
  | .deposit account amount description =>
    .requiring (Amount.ofValue amount) fun units =>
      .working (Service.depositing account units description)
        (fun group => [.depositCompleted group account units]) (.ok ∘ .group)
  | .withdraw account amount description =>
    .requiring (Amount.ofValue amount) fun units =>
      .working (Service.withdrawing account units description)
        (fun group => [.withdrawalCompleted group account units]) (.ok ∘ .group)
  | .transfer source destination amount description =>
    .requiring (Amount.ofValue amount) fun units =>
      if source = destination then .refused (.sameAccountTransfer source)
      else
        .working (Service.transferring source destination units description)
          (fun group => [.transferCompleted group source destination units]) (.ok ∘ .group)
  | .reconcile account =>
    .working (Service.reconciling account) (fun result => [result.announcement])
      (.ok ∘ .reconciliation)
  | .reconcileAll =>
    .working Service.reconcilingAll (fun results => results.map Reconciliation.announcement)
      (.ok ∘ .reconciliations)
  | .history account limit offset =>
    .requiring (policy.pageOf limit offset) fun (size, start) =>
      .working (Service.readingHistory account size start) (fun _ => []) (.ok ∘ .entries)
  | .entriesOfGroup group =>
    .working (Work.entriesOfGroup group) (fun _ => []) fun entries =>
      if entries.isEmpty then .error (.transactionNotFound group) else .ok (.entries entries)
  | .ping => .probing

/-! ## Carrying intentions out -/

/-- Telling of the members of a list one after the other is telling of all of them. -/
theorem Activity.forM_announce (items : List Part) (told : Part → Announcement) :
    (items.forM fun item => announce (told item)) = tell (items.map told) := by
  induction items with
  | nil =>
      funext desk
      simp [tell, pure, EStateM.pure]
  | cons item rest hypothesis =>
      funext desk
      change EStateM.bind (announce (told item)) (fun _ => rest.forM _) desk = _
      simp [EStateM.bind, announce, hypothesis, tell]

namespace Intention

variable {surroundings : Surroundings}

theorem carryOut_working
    (body : Work Part)
    (told : Part → List Announcement)
    (reply : Part → Except Failure Reply)
    (desk : Desk) :
    (working body told reply).carryOut surroundings desk =
      match body.inUnit surroundings .null desk with
      | .ok part later =>
        Activity.ofExcept (reply part) { later with log := later.log ++ told part }
      | .error failure later => .error failure later := by
  change EStateM.bind (body.inUnit surroundings .null) _ desk = _
  rw [EStateM.bind]
  cases body.inUnit surroundings .null desk with
  | error failure later => rfl
  | ok part later => rfl

/-- A unit of work whose answer is only put into a form. -/
theorem carryOut_form
    (body : Work Part)
    (form : Part → Reply)
    (desk : Desk) :
    (form <$> body.inUnit surroundings .null) desk =
      (working body (fun _ => []) (.ok ∘ form)).carryOut surroundings desk := by
  rw [carryOut_working]
  change EStateM.map form (body.inUnit surroundings .null) desk = _
  rw [EStateM.map]
  cases body.inUnit surroundings .null desk with
  | error failure later => rfl
  | ok part later => simp [Activity.ofExcept]

/-- A unit of work whose answer is put into a form after something was told of it. -/
theorem carryOut_told
    (body : Work Part)
    (told : Part → List Announcement)
    (form : Part → Reply)
    (desk : Desk) :
    (form <$> (do
        let part ← body.inUnit surroundings .null
        Activity.tell (told part)
        return part)) desk =
      (working body told (.ok ∘ form)).carryOut surroundings desk := by
  rw [carryOut_working]
  change EStateM.map form (EStateM.bind (body.inUnit surroundings .null) _) desk = _
  rw [EStateM.map, EStateM.bind]
  cases body.inUnit surroundings .null desk with
  | error failure later => rfl
  | ok part later => rfl

end Intention

namespace Service

variable (surroundings : Surroundings) (desk : Desk)

theorem history_eq (account : Identifier) (limit offset : Value) :
    history surroundings account limit offset desk =
      match desk.bank.policy.pageOf limit offset with
      | .ok (size, start) => (readingHistory account size start).inUnit surroundings .null desk
      | .error failure => .error failure desk := by
  change EStateM.bind (Activity.ofExcept _) _ desk = _
  rw [Policy.pageOf]
  cases pageSize desk.bank.policy limit with
  | error mismatch => rfl
  | ok size =>
      cases pageStart offset with
      | error mismatch => rfl
      | ok start => rfl

theorem entriesOfGroup_eq (group : Identifier) :
    entriesOfGroup surroundings group desk =
      match (Work.entriesOfGroup group).inUnit surroundings .null desk with
      | .ok entries later =>
        if entries.isEmpty then .error (.transactionNotFound group) later else .ok entries later
      | .error failure later => .error failure later := by
  change EStateM.bind ((Work.entriesOfGroup group).inUnit surroundings .null) _ desk = _
  rw [EStateM.bind]
  cases (Work.entriesOfGroup group).inUnit surroundings .null desk with
  | error failure later => rfl
  | ok entries later =>
      simp only
      split
      · rfl
      · rfl

end Service

/-- Performing a call is carrying out its intention. -/
theorem Call.perform_eq (surroundings : Surroundings) (call : Call) (desk : Desk) :
    call.perform surroundings desk =
      (call.intention desk.bank.policy).carryOut surroundings desk := by
  cases call with
  | createUser email => exact Intention.carryOut_form _ _ desk
  | openAccount owner name currency => exact Intention.carryOut_told _ _ _ desk
  | ensureSettlement => exact Intention.carryOut_form _ _ desk
  | showAccount id => exact Intention.carryOut_form _ _ desk
  | listAccounts owner => exact Intention.carryOut_form _ _ desk
  | deposit account amount description =>
      rw [perform, Service.deposit, Service.amountOf, intention]
      cases Amount.ofValue amount with
      | error failure => rfl
      | ok units => exact Intention.carryOut_told _ _ _ desk
  | withdraw account amount description =>
      rw [perform, Service.withdraw, Service.amountOf, intention]
      cases Amount.ofValue amount with
      | error failure => rfl
      | ok units => exact Intention.carryOut_told _ _ _ desk
  | transfer source destination amount description =>
      rw [perform, Service.transfer, Service.amountOf, intention]
      cases Amount.ofValue amount with
      | error failure => rfl
      | ok units =>
          by_cases same : source = destination
          · simp only [Intention.requiring, same, if_true]
            rfl
          · simp only [Intention.requiring, same, if_false]
            exact Intention.carryOut_told _ _ _ desk
  | reconcile account => exact Intention.carryOut_told _ _ _ desk
  | reconcileAll =>
      simp only [perform, Service.reconcileAll, Activity.forM_announce]
      exact Intention.carryOut_told _ _ _ desk
  | history account limit offset =>
      rw [perform, intention]
      change EStateM.map _ _ desk = _
      rw [EStateM.map, Service.history_eq]
      cases desk.bank.policy.pageOf limit offset with
      | error failure => rfl
      | ok page => exact Intention.carryOut_form _ _ desk
  | entriesOfGroup group =>
      rw [perform, intention, Intention.carryOut_working]
      change EStateM.map _ _ desk = _
      rw [EStateM.map, Service.entriesOfGroup_eq]
      cases (Work.entriesOfGroup group).inUnit surroundings .null desk with
      | error failure later => rfl
      | ok entries later =>
          cases entries with
          | nil => simp [Activity.ofExcept, Activity.refuse]
          | cons first rest => simp [Activity.ofExcept]
  | ping => rfl

/-! ## What all calls keep -/

/-- Whether the unit of work of an intention keeps a relation, if there is one. -/
def Intention.Within (relation : Session → Session → Prop) : Intention → Prop
  | .working body _ _ => Keeps relation body
  | .refused _ | .probing => True

/-- What holds of refusals holds of what requires something, if it holds once that is given. -/
theorem Intention.requiring_intro
    {property : Intention → Prop}
    (refusing : ∀ failure, property (.refused failure))
    {attempt : Except Failure Part}
    {intend : Part → Intention}
    (given : ∀ part, attempt = .ok part → property (intend part)) :
    property (.requiring attempt intend) := by
  cases attempt with
  | ok part => exact given part rfl
  | error failure => exact refusing failure

namespace Work.KeptByQueries

variable {relation : Session → Session → Prop}

/-- What every query keeps, the units of work of all calls keep. -/
theorem intention
    [IsPreorder Session relation]
    (kept : KeptByQueries relation)
    (policy : Policy)
    {call : Call}
    (announced :
      call = .ensureSettlement → ∀ announcement, Keeps relation (announce announcement)) :
    (call.intention policy).Within relation := by
  have refusing (failure : Failure) : (Intention.refused failure).Within relation := trivial
  cases call with
  | createUser email => exact kept.creatingUser email
  | openAccount owner name currency => exact kept.openingAccount owner name currency
  | ensureSettlement => exact kept.seeding (announced rfl)
  | showAccount id => exact kept.reading (account_untouched id false)
  | listAccounts owner => exact kept.reading (accountsOf_untouched owner)
  | deposit account amount description =>
      exact
        Intention.requiring_intro refusing fun units _ =>
          kept.depositing account units description
  | withdraw account amount description =>
      exact
        Intention.requiring_intro refusing fun units _ =>
          kept.withdrawing account units description
  | transfer source destination amount description =>
      refine Intention.requiring_intro refusing fun units _ => ?_
      split
      · exact refusing _
      · exact kept.transferring source destination units description
  | reconcile id => exact kept.reading (Service.reconciling_untouched id)
  | reconcileAll => exact kept.reading Service.reconcilingAll_untouched
  | history id limit offset =>
      exact
        Intention.requiring_intro refusing fun page _ =>
          kept.reading (Service.readingHistory_untouched id _ _)
  | entriesOfGroup group => exact kept.reading (entriesOfGroup_untouched group)
  | ping => trivial

end Work.KeptByQueries

/-- Whatever the unit of work of a call writes, the session that it leaves has grown by it. -/
theorem Call.intention_grown (policy : Policy) (call : Call) :
    (call.intention policy).Within Grown :=
  Work.grown_keptByQueries.intention policy fun _ announcement =>
    (Work.announce_evolved announcement).mono fun _ _ evolved => ⟨[], evolved⟩

/--
A relation is kept by every call if it is kept by every unit of work whose session only
grows, and if it holds as long as the bank stays the same.
-/
theorem Call.perform_keeps
    {surroundings : Surroundings}
    {relation : Desk → Desk → Prop}
    [IsPreorder Desk relation]
    (quiet : ∀ {before after}, Desk.SameBank before after → relation before after)
    (units :
      ∀ {Part : Type} (body : Work Part),
        Keeps Grown body → Keeps relation (body.inUnit surroundings .null))
    (call : Call) :
    Keeps relation (call.perform surroundings) := by
  intro before
  have grown := call.intention_grown before.bank.policy
  rw [call.perform_eq]
  cases intended : call.intention before.bank.policy with
  | refused failure => exact quiet rfl
  | probing => exact quiet ((Service.ping_sameBank surroundings).map _ before)
  | working body told reply =>
      rw [intended] at grown
      refine (units body grown).bind (fun part => Keeps.bind ?_ fun _ => ?_) before
      · exact fun _ => quiet rfl
      · exact fun desk => quiet (Activity.ofExcept_sameBank (reply part) desk)

end Bookkeeping
