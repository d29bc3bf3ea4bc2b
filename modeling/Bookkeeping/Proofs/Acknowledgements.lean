import Bookkeeping.Proofs.Entering
import Bookkeeping.Proofs.Groups
import Bookkeeping.Proofs.Reconciliation

/-!
# The journal as a history

A run acknowledges a movement of money by the group under which it was entered.  The
entries of a ledger are those of the acknowledged calls, in the order in which they were
acknowledged.  Nothing else is entered: neither by a call that was refused or whose
commit failed, though it may have drawn a group, nor by a call of another kind.  And
nothing of it is lost or altered, whatever the run does afterwards.  So a group has
entries exactly if it was acknowledged, and then they are the two of its call.
-/

namespace Bookkeeping

open Session

/-! ## What is acknowledged -/

/-- A movement that was acknowledged: the bank that the call found, the call, and its group. -/
structure Acknowledgement where
  bank : Bank
  call : Call
  group : Identifier

/-- The entries of an acknowledged movement. -/
def Acknowledgement.entries (acknowledgement : Acknowledgement) : List Entry :=
  acknowledgement.call.entries acknowledgement.bank

/-- The acknowledgement of a call, if it is answered by a group. -/
def Call.acknowledged
    (surroundings : Surroundings)
    (call : Call)
    (desk : Desk) :
    Option Acknowledgement :=
  match call.perform surroundings desk with
  | .ok (.group group) _ => some ⟨desk.bank, call, group⟩
  | _ => none

/-- The acknowledgement of a step: of the call that it is, or that its request has become. -/
def Step.acknowledged (surroundings : Surroundings) : Step → Desk → Option Acknowledgement
  | .call made, desk => made.acknowledged surroundings desk
  | .request asked, desk =>
    match asked.task with
    | .ok (.perform made) => made.acknowledged surroundings desk
    | _ => none
  | .faulty fault step, desk => step.acknowledged { surroundings with fault := fault } desk
  | .setClock _ _, _ | .configure _, _ | .store _ _, _ | .unit _ _ _, _ | .fail _ _, _ => none

/-- The movements that a run of steps acknowledges, one after the other. -/
def Desk.acknowledged : Desk → List Step → List Acknowledgement
  | _, [] => []
  | desk, step :: rest =>
    (step.acknowledged .calm { desk with log := [] }).toList ++
      (step.take .calm { desk with log := [] }).2.acknowledged rest

/-- What was acknowledged stays so, whatever is acknowledged later. -/
theorem Desk.acknowledged_append (desk : Desk) (early late : List Step) :
    desk.acknowledged (early ++ late) =
      desk.acknowledged early ++ (desk.after early).acknowledged late := by
  induction early generalizing desk with
  | nil => rfl
  | cons step rest hypothesis =>
      rw [List.cons_append, acknowledged, acknowledged, hypothesis, List.append_assoc, after_cons]

/-- A call that moves money answers with a group. -/
theorem Call.perform_group
    {surroundings : Surroundings}
    {call : Call}
    (moves : call.movesMoney = true)
    {desk later : Desk}
    {reply : Reply}
    (performed : call.perform surroundings desk = .ok reply later) :
    ∃ group, reply = .group group := by
  cases call with
  | deposit account amount description =>
      rcases map_ok_iff.mp performed with ⟨group, -, rfl⟩
      exact ⟨group, rfl⟩
  | withdraw account amount description =>
      rcases map_ok_iff.mp performed with ⟨group, -, rfl⟩
      exact ⟨group, rfl⟩
  | transfer source destination amount description =>
      rcases map_ok_iff.mp performed with ⟨group, -, rfl⟩
      exact ⟨group, rfl⟩
  | _ => cases moves

namespace Http

theorem failureResponse_isSuccess (call : Call) (failure : Failure) :
    (failureResponse call failure).isSuccess = false := by
  rw [failureResponse]
  split
  · rename_i notice _
    split
    · rw [Response.isSuccess, Response.refusal]
      cases notice.kind <;> rfl
    · rfl
  · rfl

/-- A client is told the group of a movement exactly if the movement is acknowledged. -/
theorem serve_acknowledges
    {surroundings : Surroundings}
    {request : Request}
    {call : Call}
    (asked : request.task = .ok (.perform call))
    (moves : call.movesMoney = true)
    {desk later : Desk}
    {response : Response}
    (served : serve surroundings request desk = .ok response later) :
    response.isSuccess = true ↔
      ∃ acknowledgement message,
        (Step.request request).acknowledged surroundings desk = some acknowledgement ∧
          response.body = Http.acknowledgement acknowledgement.group message := by
  have sameAcknowledgement :
      (Step.request request).acknowledged surroundings desk =
        call.acknowledged surroundings desk := by
    rw [Step.acknowledged, asked]
  rw [sameAcknowledgement, Call.acknowledged]
  rw [serve, asked] at served
  change serveCall surroundings call desk = _ at served
  rw [serveCall] at served
  cases performed : call.perform surroundings desk with
  | error failure left =>
      rw [performed] at served
      cases served
      rw [failureResponse_isSuccess]
      constructor
      · rintro ⟨⟩
      · rintro ⟨_, _, ⟨⟩, _⟩
  | ok reply left =>
      rw [performed] at served
      cases served
      rcases call.perform_group moves performed with ⟨group, rfl⟩
      simp only [replyStatus_isSuccess, Option.some.injEq, true_iff]
      cases call with
      | deposit account amount description => exact ⟨_, _, rfl, rfl⟩
      | withdraw account amount description => exact ⟨_, _, rfl, rfl⟩
      | transfer source destination amount description => exact ⟨_, _, rfl, rfl⟩
      | _ => cases moves

end Http

/-! ## What every step enters -/

/-- A bank has entered what was acknowledged, and nothing where nothing was. -/
inductive Bank.Notes (before after : Bank) : Option Acknowledgement → Prop
  | nothing (same : after.tables.entries = before.tables.entries) : Notes before after none
  | movement
      {call : Call}
      {group : Identifier}
      (enters : before.Enters call group after.tables after.sources)
      (known : Isolation.isUsable before.isolation = true) :
      Notes before after (some ⟨before, call, group⟩)

theorem Call.perform_notes
    (surroundings : Surroundings)
    (call : Call)
    {desk : Desk}
    (sound : desk.bank.Sound) :
    Bank.Notes desk.bank (stateOf (call.perform surroundings desk)).bank
      (call.acknowledged surroundings desk) := by
  rw [acknowledged]
  cases performed : call.perform surroundings desk with
  | error failure later =>
      exact .nothing (congrArg Tables.entries ((call.perform_spares surroundings).fails performed))
  | ok reply later =>
      by_cases moves : call.movesMoney = true
      · rcases call.perform_group moves performed with ⟨group, rfl⟩
        rcases call.perform_enters performed with ⟨enters, known⟩
        exact .movement enters known
      · have quiet : call.movesMoney = false := Bool.eq_false_iff.mpr moves
        have same := call.perform_enters_nothing sound quiet performed
        cases reply with
        | group group =>
            rcases call.perform_enters performed with ⟨enters, known⟩
            exact .movement enters known
        | _ => exact .nothing same

/-- Every request notes what its call does. -/
theorem Http.serve_notes
    (surroundings : Surroundings)
    (request : Request)
    {desk : Desk}
    (sound : desk.bank.Sound) :
    Bank.Notes desk.bank (stateOf (serve surroundings request desk)).bank
      ((Step.request request).acknowledged surroundings desk) := by
  rw [serve]
  simp only [Step.acknowledged]
  cases request.task with
  | error response => exact .nothing rfl
  | ok task =>
      cases task with
      | checkHealth =>
          have same := serveHealth_sameBank surroundings desk
          exact .nothing (congrArg (fun bank => bank.tables.entries) same)
      | perform call =>
          have notes := call.perform_notes surroundings sound
          simp only [serveCall]
          cases performed : call.perform surroundings desk with
          | ok reply later =>
              rw [performed] at notes
              exact notes
          | error failure later =>
              rw [performed] at notes
              exact notes

/-- Every ordinary step enters what it acknowledges, and nothing else. -/
theorem Step.take_notes
    (surroundings : Surroundings)
    (step : Step)
    (ordinary : step.isOrdinary = true)
    {desk : Desk}
    (sound : desk.bank.Sound) :
    Bank.Notes desk.bank (step.take surroundings desk).2.bank
      (step.acknowledged surroundings desk) := by
  cases step with
  | call made =>
      rw [take, outcomeOf_desk, acknowledged]
      exact made.perform_notes surroundings sound
  | request asked =>
      rw [take, outcomeOf_desk]
      exact Http.serve_notes surroundings asked sound
  | setClock time zone =>
      rw [take, acknowledged]
      exact .nothing rfl
  | configure changes =>
      rw [take, acknowledged]
      exact .nothing rfl
  | store operation isGuarded => cases ordinary
  | unit level raised body => cases ordinary
  | fail met tellsState =>
      rw [take, acknowledged]
      exact .nothing rfl
  | faulty fault step =>
      rw [take, acknowledged]
      exact take_notes { surroundings with fault := fault } step ordinary sound

/-! ## What every run enters -/

/-- The entries of a bank are those of what it has acknowledged, a pair for each. -/
structure Bank.Recounts (bank : Bank) (acknowledgements : List Acknowledgement) : Prop
    extends
    Tables.Grouped Acknowledgement.group Acknowledgement.entries bank.tables bank.sources
      acknowledgements where
  paired :
    ∀ acknowledgement ∈ acknowledgements,
      ∃ operation first second,
        acknowledgement.entries = acknowledgement.bank.sources.pair operation first second
  known : ∀ acknowledgement ∈ acknowledgements, Isolation.isUsable bank.isolation = true

namespace Bank.Recounts

variable {before after : Bank} {acknowledgements : List Acknowledgement}

/-- What a bank notes continues what it recounts. -/
theorem noted
    {new : Option Acknowledgement}
    (recounts : before.Recounts acknowledgements)
    (notes : Bank.Notes before after new)
    (precedes : before.sources.Precedes after.sources)
    (isolation : after.isolation = before.isolation) :
    after.Recounts (acknowledgements ++ new.toList) := by
  cases notes with
  | nothing same =>
      rw [Option.toList_none, List.append_nil]
      constructor
      · exact recounts.continued precedes same
      · exact recounts.paired
      · rw [isolation]
        exact recounts.known
  | @movement call group enters known =>
      rcases enters.paired with ⟨operation, first, second, paired⟩
      rw [Option.toList_some]
      constructor
      · apply recounts.added
        · intro entry member
          rw [Acknowledgement.entries, paired] at member
          rw [Sources.group_of_pair member, ← enters.group]
        · exact enters.group
        · exact enters.advanced
        · exact enters.entries
      · intro acknowledgement member
        rcases List.mem_append.mp member with old | new
        · exact recounts.paired acknowledgement old
        · rw [List.mem_singleton.mp new]
          exact ⟨operation, first, second, paired⟩
      · intro acknowledgement member
        rw [isolation]
        exact known

/-- The entries of an acknowledged group are the pair of its call. -/
theorem entriesOfGroup_eq
    {bank : Bank}
    (recounts : bank.Recounts acknowledgements)
    {acknowledgement : Acknowledgement}
    (member : acknowledgement ∈ acknowledgements) :
    bank.tables.entriesOfGroup acknowledgement.group = acknowledgement.entries := by
  rcases recounts.paired acknowledgement member with ⟨operation, first, second, paired⟩
  rw [Tables.entriesOfGroup, recounts.filter_present member, paired]
  exact Sources.oldestFirst_pair

theorem entriesOfGroup_absent
    {bank : Bank}
    (recounts : bank.Recounts acknowledgements)
    {group : Identifier}
    (absent : group ∉ acknowledgements.map Acknowledgement.group) :
    bank.tables.entriesOfGroup group = [] := by
  rw [Tables.entriesOfGroup, recounts.filter_absent absent]
  rfl

end Bank.Recounts

/-- Ordinary steps continue what a bank recounts by what they acknowledge. -/
theorem Desk.after_recounts
    {desk : Desk}
    {acknowledgements : List Acknowledgement}
    (sound : desk.bank.Sound)
    (recounts : desk.bank.Recounts acknowledgements)
    {steps : List Step}
    (ordinary : ∀ step ∈ steps, step.isOrdinary = true) :
    (desk.after steps).bank.Recounts (acknowledgements ++ desk.acknowledged steps) := by
  induction steps generalizing desk acknowledgements with
  | nil =>
      rw [acknowledged, List.append_nil]
      exact recounts
  | cons step rest hypothesis =>
      have ordinaryFirst := ordinary step List.mem_cons_self
      have ordinaryRest : ∀ other ∈ rest, other.isOrdinary = true :=
        fun other member => ordinary other (List.mem_cons_of_mem _ member)
      have sameSound : ({ desk with log := [] } : Desk).bank.Sound := sound
      rcases step.take_does .calm ordinaryFirst { desk with log := [] } sound with
        ⟨writes, -, progress, -⟩
      have notes := step.take_notes .calm ordinaryFirst sameSound
      have recountsThen := recounts.noted notes progress.sources progress.isolation
      rw [acknowledged, ← List.append_assoc]
      exact hypothesis (progress.sound sound) recountsThen ordinaryRest

/-! ## Reading a group -/

namespace Service

open Work

variable {surroundings : Surroundings} {desk later : Desk} {group : Identifier}

theorem inUnit_entriesOfGroup
    {entries : List Entry}
    (ended : (Work.entriesOfGroup group).inUnit surroundings .null desk = .ok entries later) :
    entries = desk.bank.tables.entriesOfGroup group := by
  rcases inUnit_ok ended with ⟨session, final, last, fresh, looked, -, -⟩
  rcases sequence_ok_iff.mp looked with ⟨tables, second, viewed, answer⟩
  rcases pure_ok_iff.mp answer with ⟨rfl, -⟩
  rcases view_ok viewed with ⟨-, rfl, -, -⟩
  rw [fresh.tables]

theorem entriesOfGroup_ok
    {entries : List Entry}
    (answered : entriesOfGroup surroundings group desk = .ok entries later) :
    entries = desk.bank.tables.entriesOfGroup group ∧ entries ≠ [] := by
  rcases sequence_ok_iff.mp answered with ⟨found, first, ended, rest⟩
  split at rest
  · cases rest
  · rename_i present
    rcases pure_ok_iff.mp rest with ⟨rfl, -⟩
    exact ⟨inUnit_entriesOfGroup ended, by simpa using present⟩

/-- Where nothing fails and nobody holds the lock, a group is found exactly if it has entries. -/
theorem entriesOfGroup_answers
    (known : Isolation.isUsable desk.bank.isolation = true) :
    ∃ later,
      (desk.bank.tables.entriesOfGroup group ≠ [] →
        entriesOfGroup .calm group desk = .ok (desk.bank.tables.entriesOfGroup group) later) ∧
      (desk.bank.tables.entriesOfGroup group = [] →
        entriesOfGroup .calm group desk = .error (.transactionNotFound group) later) := by
  have answers :
      ∀ session, Fresh false desk session →
        ∃ entries final, Work.entriesOfGroup group session = .ok entries final := by
    intro session fresh
    exact ⟨_, _, sequence_ok (view_answers fresh.undoneBy fresh.locked) rfl⟩
  have free : Surroundings.calm.locked = false := rfl
  rcases reading_answers (entriesOfGroup_untouched group) free rfl known answers with
    ⟨entries, middle, ended⟩
  rw [← inUnit_entriesOfGroup ended]
  refine ⟨middle, ?_, ?_⟩
  · intro present
    refine sequence_ok ended ?_
    rw [if_neg (by simpa using present)]
    rfl
  · intro absent
    refine sequence_error_iff.mpr (Or.inr ⟨entries, middle, ended, ?_⟩)
    rw [absent]
    rfl

end Service

namespace Bank.Recounts

variable {desk : Desk} {acknowledgements : List Acknowledgement}

/-- A group that was acknowledged is read as its call has entered it. -/
theorem read
    (recounts : desk.bank.Recounts acknowledgements)
    {acknowledgement : Acknowledgement}
    (member : acknowledgement ∈ acknowledgements) :
    ∃ last,
      Service.entriesOfGroup .calm acknowledgement.group desk =
        .ok acknowledgement.entries last := by
  have same := recounts.entriesOfGroup_eq member
  rcases recounts.paired acknowledgement member with ⟨operation, first, second, paired⟩
  rcases Service.entriesOfGroup_answers (recounts.known acknowledgement member) with
    ⟨last, found, -⟩
  rw [same] at found
  refine ⟨last, found ?_⟩
  rw [paired]
  exact List.cons_ne_nil _ _

/-- A group that is read was acknowledged. -/
theorem of_read
    (recounts : desk.bank.Recounts acknowledgements)
    {surroundings : Surroundings}
    {group : Identifier}
    {entries : List Entry}
    {last : Desk}
    (answered : Service.entriesOfGroup surroundings group desk = .ok entries last) :
    ∃ acknowledgement ∈ acknowledgements,
      acknowledgement.group = group ∧ acknowledgement.entries = entries := by
  rcases Service.entriesOfGroup_ok answered with ⟨rfl, present⟩
  by_cases listed : group ∈ acknowledgements.map Acknowledgement.group
  · rcases List.mem_map.mp listed with ⟨acknowledgement, member, rfl⟩
    exact ⟨acknowledgement, member, rfl, (recounts.entriesOfGroup_eq member).symm⟩
  · exact absurd (recounts.entriesOfGroup_absent listed) present

/-- A group that was not acknowledged is not found. -/
theorem not_found
    (recounts : desk.bank.Recounts acknowledgements)
    {group : Identifier}
    (absent : group ∉ acknowledgements.map Acknowledgement.group) :
    ∃ failure last,
      Service.entriesOfGroup .calm group desk = .error failure last ∧
        (Isolation.isUsable desk.bank.isolation = true →
          failure = .transactionNotFound group) := by
  have nothing := recounts.entriesOfGroup_absent absent
  cases answered : Service.entriesOfGroup .calm group desk with
  | ok entries last =>
      rcases Service.entriesOfGroup_ok answered with ⟨rfl, present⟩
      exact absurd nothing present
  | error failure last =>
      refine ⟨failure, last, rfl, ?_⟩
      intro known
      rcases Service.entriesOfGroup_answers known with ⟨_, -, missing⟩
      have refused := missing nothing
      rw [answered] at refused
      cases refused
      rfl

end Bank.Recounts

/-! ## Every run -/

namespace Opening

/-- A bank that has opened recounts what its run has acknowledged. -/
theorem after_recounts
    (settings : Settings)
    (isMigrated : Bool)
    {steps : List Step}
    (ordinary : ∀ step ∈ steps, step.isOrdinary = true) :
    (after settings isMigrated steps).bank.Recounts
      ((desk (bank settings isMigrated)).acknowledged steps) := by
  have start : (desk (bank settings isMigrated)).bank.Sound := bank_sound settings isMigrated
  have blank : (desk (bank settings isMigrated)).bank.Recounts [] :=
    ⟨.nil (bank_entries settings isMigrated), by simp, by simp⟩
  exact Desk.after_recounts start blank ordinary

/--
The entries after a run of ordinary steps are those of the movements that it has
acknowledged, each under a group of its own.  A group that was acknowledged is read ever
after, and what is read are the two entries of its call in the order in which they were
written.  Nothing is read of a group that was not acknowledged: it is not found, unless
the bank asks for a level of isolation that nobody knows and so answers nothing at all.
-/
theorem entries_of_acknowledged
    (settings : Settings)
    (isMigrated : Bool)
    {steps : List Step}
    (ordinary : ∀ step ∈ steps, step.isOrdinary = true) :
    let opened := desk (bank settings isMigrated)
    let later := after settings isMigrated steps
    let acknowledged := opened.acknowledged steps
    later.bank.tables.entries = acknowledged.flatMap Acknowledgement.entries ∧
      (acknowledged.map Acknowledgement.group).Nodup ∧
      (∀ early late,
        steps = early ++ late →
          ∀ acknowledgement ∈ opened.acknowledged early,
            (∃ first second,
              acknowledgement.entries = [first, second] ∧
                first.group = acknowledgement.group ∧ second.group = acknowledgement.group) ∧
              ∃ last,
                Service.entriesOfGroup .calm acknowledgement.group later =
                  .ok acknowledgement.entries last) ∧
      (∀ surroundings group entries last,
        Service.entriesOfGroup surroundings group later = .ok entries last →
          ∃ acknowledgement ∈ acknowledged,
            acknowledgement.group = group ∧ acknowledgement.entries = entries) ∧
      ∀ group,
        group ∉ acknowledged.map Acknowledgement.group →
          ∃ failure last,
            Service.entriesOfGroup .calm group later = .error failure last ∧
              (Isolation.isUsable (settings.value .isolationLevel) = true →
                failure = .transactionNotFound group) := by
  intro opened later acknowledged
  have recounts : later.bank.Recounts acknowledged := after_recounts settings isMigrated ordinary
  refine ⟨recounts.entries, recounts.distinct, ?_, ?_, ?_⟩
  · rintro early late rfl acknowledgement earlier
    have member : acknowledgement ∈ acknowledged := by
      show acknowledgement ∈ opened.acknowledged (early ++ late)
      rw [Desk.acknowledged_append]
      exact List.mem_append_left _ earlier
    rcases recounts.paired acknowledgement member with ⟨operation, first, second, paired⟩
    have shared := recounts.shared acknowledgement member
    rw [paired] at shared
    refine ⟨⟨_, _, paired, ?_, ?_⟩, recounts.read member⟩
    · exact shared _ List.mem_cons_self
    · exact shared _ (List.mem_cons_of_mem _ List.mem_cons_self)
  · intro surroundings group entries last answered
    exact recounts.of_read answered
  · intro group absent
    rcases recounts.not_found absent with ⟨failure, last, refused, named⟩
    rw [(after_sound settings isMigrated steps).2] at named
    exact ⟨failure, last, refused, named⟩

end Opening

namespace Sample

/-- The first deposit of the sample, and then the withdrawal whose commit fails. -/
def interrupted : List Step :=
  steps.take 5 ++ steps.drop 10

/--
The rule at work: the deposit is read after the withdrawal as it was made, and nothing is
read under the group that was drawn for the withdrawal.
-/
theorem acknowledged_of_interrupted :
    (∃ entries last,
      Service.entriesOfGroup .calm (.drawn .group 1) (Opening.after settings true interrupted) =
          .ok entries last ∧
        (entries.map fun entry => (entry.account, entry.debit, entry.credit)) =
          [(savings, 0, 1000000), (.drawn .account 1, 1000000, 0)]) ∧
      (Opening.after settings true interrupted).bank.sources.groups = 2 ∧
      ∃ last,
        Service.entriesOfGroup .calm (.drawn .group 2) (Opening.after settings true interrupted) =
          .error (.transactionNotFound (.drawn .group 2)) last := by
  have ordinary : ∀ step ∈ interrupted, step.isOrdinary = true := by decide
  have deposited :
      ∃ acknowledgement ∈ (Opening.desk (Opening.bank settings true)).acknowledged (steps.take 5),
        acknowledgement.group = .drawn .group 1 ∧
          (acknowledgement.entries.map fun entry => (entry.account, entry.debit, entry.credit)) =
            [(savings, 0, 1000000), (.drawn .account 1, 1000000, 0)] := by
    decide +kernel
  have absent :
      Identifier.drawn .group 2 ∉
        ((Opening.desk (Opening.bank settings true)).acknowledged interrupted).map
          Acknowledgement.group := by
    decide +kernel
  have drawn : (Opening.after settings true interrupted).bank.sources.groups = 2 := by
    decide +kernel
  rcases Opening.entries_of_acknowledged settings true ordinary with ⟨-, -, found, -, missing⟩
  rcases deposited with ⟨acknowledgement, member, sameGroup, told⟩
  rcases (found _ _ rfl acknowledgement member).2 with ⟨last, answered⟩
  rw [sameGroup] at answered
  rcases missing _ absent with ⟨failure, afterwards, refused, notFound⟩
  rw [notFound rfl] at refused
  exact ⟨⟨acknowledgement.entries, last, answered, told⟩, drawn, afterwards, refused⟩

end Sample

end Bookkeeping
