import Bookkeeping.Unit.Session
import Mathlib.Order.Defs.Unbundled

/-!
# Sequences of steps

Work inside of a session and activities at a desk are sequences: what fails ends
the sequence, and the state that it leaves stays.  This module takes sequences
apart.  A sequence answers when each of its parts answers, and it fails when
its first part fails or when the rest fails after an answer of the first.

A relation between states that every part keeps is kept by the whole.  The
relation has to be reflexive and transitive, and nothing else is asked of it.
-/

namespace Bookkeeping

variable {State Answer Next : Type}

/-! ## Taking sequences apart -/

/-- A sequence answers exactly when its first part and then its rest answer. -/
theorem sequence_ok_iff
    {first : EStateM Failure State Answer}
    {rest : Answer → EStateM Failure State Next}
    {before after : State}
    {result : Next} :
    (first >>= rest) before = .ok result after ↔
      ∃ answer middle,
        first before = .ok answer middle ∧
          rest answer middle = .ok result after := by
  change EStateM.bind first rest before = _ ↔ _
  rw [EStateM.bind]
  cases first before with
  | ok answer middle =>
      constructor
      · exact fun ended => ⟨answer, middle, rfl, ended⟩
      · rintro ⟨_, _, ⟨⟩, ended⟩
        exact ended
  | error failure middle => simp

theorem sequence_ok
    {first : EStateM Failure State Answer}
    {rest : Answer → EStateM Failure State Next}
    {before middle after : State}
    {answer : Answer}
    {result : Next}
    (answered : first before = .ok answer middle)
    (ended : rest answer middle = .ok result after) :
    (first >>= rest) before = .ok result after :=
  sequence_ok_iff.mpr ⟨answer, middle, answered, ended⟩

/-- After an answer of its first part a sequence is its rest. -/
theorem sequence_after
    {first : EStateM Failure State Answer}
    {rest : Answer → EStateM Failure State Next}
    {before middle : State}
    {answer : Answer}
    (answered : first before = .ok answer middle) :
    (first >>= rest) before = rest answer middle := by
  change EStateM.bind first rest before = _
  rw [EStateM.bind, answered]

/-- An attempt without a state gives a result exactly when its first part and its rest do. -/
theorem attempt_ok_iff
    {Fault : Type}
    {first : Except Fault Answer}
    {rest : Answer → Except Fault Next}
    {result : Next} :
    (first >>= rest) = .ok result ↔ ∃ answer, first = .ok answer ∧ rest answer = .ok result := by
  cases first with
  | ok answer => simp [bind, Except.bind]
  | error fault => simp [bind, Except.bind]

theorem attempt_error_iff
    {Fault : Type}
    {first : Except Fault Answer}
    {rest : Answer → Except Fault Next}
    {fault : Fault} :
    (first >>= rest) = .error fault ↔
      first = .error fault ∨ ∃ answer, first = .ok answer ∧ rest answer = .error fault := by
  cases first with
  | ok answer => simp [bind, Except.bind]
  | error met => simp [bind, Except.bind]

/-- A sequence fails exactly when its first part fails, or its rest fails afterwards. -/
theorem sequence_error_iff
    {first : EStateM Failure State Answer}
    {rest : Answer → EStateM Failure State Next}
    {before after : State}
    {failure : Failure} :
    (first >>= rest) before = .error failure after ↔
      first before = .error failure after ∨
        ∃ answer middle,
          first before = .ok answer middle ∧
            rest answer middle = .error failure after := by
  change EStateM.bind first rest before = _ ↔ _
  rw [EStateM.bind]
  cases first before with
  | ok answer middle =>
      constructor
      · exact fun ended => Or.inr ⟨answer, middle, rfl, ended⟩
      · rintro (⟨⟨⟩⟩ | ⟨_, _, ⟨⟩, ended⟩)
        exact ended
  | error failure middle => simp

@[simp]
theorem pure_ok_iff
    {answer result : Answer}
    {before after : State} :
    (pure answer : EStateM Failure State Answer) before = .ok result after ↔
      answer = result ∧ before = after := by
  change EStateM.Result.ok answer before = .ok result after ↔ _
  simp

@[simp]
theorem pure_ne_error
    {answer : Answer}
    {before after : State}
    {failure : Failure} :
    ¬ (pure answer : EStateM Failure State Answer) before = .error failure after := by
  change ¬ EStateM.Result.ok answer before = .error failure after
  simp

@[simp]
theorem throw_ne_ok
    {failure : Failure}
    {result : Answer}
    {before after : State} :
    ¬ (throw failure : EStateM Failure State Answer) before = .ok result after := by
  change ¬ EStateM.Result.error failure before = .ok result after
  simp

@[simp]
theorem throw_error_iff
    {failure met : Failure}
    {before after : State} :
    (throw failure : EStateM Failure State Answer) before = .error met after ↔
      failure = met ∧ before = after := by
  change EStateM.Result.error failure before = .error met after ↔ _
  simp

/-- An answer that is only put into another form comes from the same state. -/
theorem map_ok_iff
    {form : Answer → Next}
    {work : EStateM Failure State Answer}
    {before after : State}
    {result : Next} :
    (form <$> work) before = .ok result after ↔
      ∃ answer, work before = .ok answer after ∧ form answer = result := by
  change EStateM.map form work before = _ ↔ _
  rw [EStateM.map]
  cases work before with
  | ok answer middle =>
      constructor
      · rintro ⟨⟩
        exact ⟨answer, rfl, rfl⟩
      · rintro ⟨_, ⟨⟩, rfl⟩
        rfl
  | error failure middle => simp

theorem map_error_iff
    {form : Answer → Next}
    {work : EStateM Failure State Answer}
    {before after : State}
    {failure : Failure} :
    (form <$> work) before = .error failure after ↔
      work before = .error failure after := by
  change EStateM.map form work before = _ ↔ _
  rw [EStateM.map]
  cases work before with
  | ok answer middle => simp
  | error failure middle => simp

/-- The state that an outcome leaves, whether it is an answer or a failure. -/
def stateOf : EStateM.Result Failure State Answer → State
  | .ok _ after => after
  | .error _ after => after

/-! ## Relations that work keeps -/

/-- The state before and the state that is left are related, whatever the outcome. -/
def Keeps
    (relation : State → State → Prop)
    (work : EStateM Failure State Answer) : Prop :=
  ∀ before, relation before (stateOf (work before))

variable {relation : State → State → Prop}

theorem Keeps.of_ok
    {work : EStateM Failure State Answer}
    (keeps : Keeps relation work)
    {before after : State}
    {answer : Answer}
    (outcome : work before = .ok answer after) :
    relation before after := by
  have kept := keeps before
  rw [outcome] at kept
  exact kept

theorem Keeps.of_error
    {work : EStateM Failure State Answer}
    (keeps : Keeps relation work)
    {before after : State}
    {failure : Failure}
    (outcome : work before = .error failure after) :
    relation before after := by
  have kept := keeps before
  rw [outcome] at kept
  exact kept

/-- It is enough to know the relation for answers and for failures apart. -/
theorem Keeps.intro
    {work : EStateM Failure State Answer}
    (answers :
      ∀ before answer after,
        work before = .ok answer after → relation before after)
    (failures :
      ∀ before failure after,
        work before = .error failure after → relation before after) :
    Keeps relation work := by
  intro before
  cases outcome : work before with
  | ok answer after => exact answers before answer after outcome
  | error failure after => exact failures before failure after outcome

/-- What follows from a relation that is kept is kept as well. -/
theorem Keeps.mono
    {weaker : State → State → Prop}
    (weaken : ∀ before after, relation before after → weaker before after)
    {work : EStateM Failure State Answer}
    (keeps : Keeps relation work) :
    Keeps weaker work := by
  apply Keeps.intro
  · intro before answer after outcome
    exact weaken before after (keeps.of_ok outcome)
  · intro before failure after outcome
    exact weaken before after (keeps.of_error outcome)

theorem Keeps.map
    {work : EStateM Failure State Answer}
    (keeps : Keeps relation work)
    (form : Answer → Next) :
    Keeps relation (form <$> work) := by
  apply Keeps.intro
  · intro before result after outcome
    rcases map_ok_iff.mp outcome with ⟨answer, answered, -⟩
    exact keeps.of_ok answered
  · intro before failure after outcome
    exact keeps.of_error (map_error_iff.mp outcome)

section Preorder

variable [IsPreorder State relation]

@[simp]
theorem Keeps.pure (answer : Answer) :
    Keeps relation (Pure.pure answer : EStateM Failure State Answer) :=
  fun before => refl_of relation before

@[simp]
theorem Keeps.throw (failure : Failure) :
    Keeps relation
      (MonadExcept.throw failure : EStateM Failure State Answer) :=
  fun before => refl_of relation before

/-- A sequence keeps what its parts keep. -/
theorem Keeps.bind
    {first : EStateM Failure State Answer}
    {rest : Answer → EStateM Failure State Next}
    (firstKeeps : Keeps relation first)
    (restKeeps : ∀ answer, Keeps relation (rest answer)) :
    Keeps relation (first >>= rest) := by
  apply Keeps.intro
  · intro before result after outcome
    rcases sequence_ok_iff.mp outcome with ⟨answer, middle, firstOk, restOk⟩
    exact trans_of relation (firstKeeps.of_ok firstOk) ((restKeeps answer).of_ok restOk)
  · intro before failure after outcome
    rcases sequence_error_iff.mp outcome with firstError | ⟨answer, middle, firstOk, restError⟩
    · exact firstKeeps.of_error firstError
    · exact trans_of relation (firstKeeps.of_ok firstOk) ((restKeeps answer).of_error restError)

/-- Reading the members of a list one after the other keeps what reading one of them keeps. -/
theorem Keeps.mapM
    {Item : Type}
    {work : Item → EStateM Failure State Answer}
    (keeps : ∀ item, Keeps relation (work item))
    (items : List Item) :
    Keeps relation (items.mapM work) := by
  induction items with
  | nil => simp
  | cons item rest hypothesis =>
      rw [List.mapM_cons]
      exact (keeps item).bind fun first =>
        hypothesis.bind fun others => Keeps.pure (first :: others)

/-- Doing something for each member of a list keeps what doing it for one of them keeps. -/
theorem Keeps.forM
    {Item : Type}
    {work : Item → EStateM Failure State PUnit}
    (keeps : ∀ item, Keeps relation (work item))
    (items : List Item) :
    Keeps relation (items.forM work) := by
  induction items with
  | nil => exact Keeps.pure PUnit.unit
  | cons item rest hypothesis => exact (keeps item).bind fun _ => hypothesis

end Preorder

/-! ## Relations that depend on the outcome -/

/-- One relation holds if work answers, and another one if it fails. -/
structure Ends
    (answering failing : State → State → Prop)
    (work : EStateM Failure State Answer) : Prop where
  answers :
    ∀ {before answer after}, work before = .ok answer after → answering before after
  fails :
    ∀ {before failure after}, work before = .error failure after → failing before after

/-- What is kept on the way to a relation, or after it, does not matter to it. -/
structure Absorbs (looking related : State → State → Prop) : Prop where
  first :
    ∀ {before middle after}, looking before middle → related middle after → related before after
  last :
    ∀ {before middle after}, related before middle → looking middle after → related before after

namespace Ends

variable {answering failing looking : State → State → Prop}

/-- What work keeps whatever its outcome is, it keeps in both cases. -/
theorem of_keeps
    {work : EStateM Failure State Answer}
    (keeps : Keeps failing work) :
    Ends failing failing work where
  answers := keeps.of_ok
  fails := keeps.of_error

theorem map
    {work : EStateM Failure State Answer}
    (ends : Ends answering failing work)
    (form : Answer → Next) :
    Ends answering failing (form <$> work) where
  answers answered := by
    rcases map_ok_iff.mp answered with ⟨answer, answeredFirst, -⟩
    exact ends.answers answeredFirst
  fails failed := ends.fails (map_error_iff.mp failed)

/-- What follows may only look at the state, and has to answer. -/
theorem bind_total
    {first : EStateM Failure State Answer}
    {rest : Answer → EStateM Failure State Next}
    (absorbs : Absorbs looking answering)
    (ends : Ends answering failing first)
    (total :
      ∀ answer before,
        ∃ result after, rest answer before = .ok result after ∧ looking before after) :
    Ends answering failing (first >>= rest) where
  answers answered := by
    rcases sequence_ok_iff.mp answered with ⟨answer, middle, answeredFirst, answeredRest⟩
    rcases total answer middle with ⟨result, last, same, looked⟩
    rw [same] at answeredRest
    cases answeredRest
    exact absorbs.last (ends.answers answeredFirst) looked
  fails failed := by
    rcases sequence_error_iff.mp failed with
      failedFirst | ⟨answer, middle, answeredFirst, failedRest⟩
    · exact ends.fails failedFirst
    · rcases total answer middle with ⟨result, last, same, -⟩
      rw [same] at failedRest
      cases failedRest

/-- What comes first may look at the state, and may fail. -/
theorem looking_bind
    [IsPreorder State failing]
    {first : EStateM Failure State Answer}
    {rest : Answer → EStateM Failure State Next}
    (absorbsAnswers : Absorbs looking answering)
    (absorbsFailures : Absorbs looking failing)
    (looks : Keeps looking first)
    (ends :
      ∀ before answer after,
        first before = .ok answer after → Ends answering failing (rest answer)) :
    Ends answering failing (first >>= rest) where
  answers answered := by
    rcases sequence_ok_iff.mp answered with ⟨answer, middle, answeredFirst, answeredRest⟩
    have endsRest := ends _ answer middle answeredFirst
    exact absorbsAnswers.first (looks.of_ok answeredFirst) (endsRest.answers answeredRest)
  fails failed := by
    rcases sequence_error_iff.mp failed with
      failedFirst | ⟨answer, middle, answeredFirst, failedRest⟩
    · exact absorbsFailures.first (looks.of_error failedFirst) (refl_of failing _)
    · have endsRest := ends _ answer middle answeredFirst
      exact absorbsFailures.first (looks.of_ok answeredFirst) (endsRest.fails failedRest)

end Ends

/-! ## Two runs of the same work -/

/-- Two outcomes are the same, and the states that they leave are related. -/
inductive Matches (relation : State → State → Prop) :
    EStateM.Result Failure State Answer → EStateM.Result Failure State Answer → Prop
  | ok
      {answer : Answer}
      {left right : State}
      (related : relation left right) :
      Matches relation (.ok answer left) (.ok answer right)
  | error
      {failure : Failure}
      {left right : State}
      (related : relation left right) :
      Matches relation (.error failure left) (.error failure right)

/-- From states that are related, work has the same outcome and leaves related states. -/
def Respects
    (relation : State → State → Prop)
    (work : EStateM Failure State Answer) : Prop :=
  ∀ left right, relation left right → Matches relation (work left) (work right)

namespace Respects

@[simp]
theorem pure (answer : Answer) :
    Respects relation (Pure.pure answer : EStateM Failure State Answer) :=
  fun _ _ related => .ok related

@[simp]
theorem throw (failure : Failure) :
    Respects relation (MonadExcept.throw failure : EStateM Failure State Answer) :=
  fun _ _ related => .error related

theorem bind
    {first : EStateM Failure State Answer}
    {rest : Answer → EStateM Failure State Next}
    (firstRespects : Respects relation first)
    (restRespects : ∀ answer, Respects relation (rest answer)) :
    Respects relation (first >>= rest) := by
  intro left right related
  change Matches relation (EStateM.bind first rest left) (EStateM.bind first rest right)
  have matched := firstRespects left right related
  rw [EStateM.bind, EStateM.bind]
  generalize first left = outcomeLeft at matched ⊢
  generalize first right = outcomeRight at matched ⊢
  cases matched with
  | @ok answer _ _ middle => exact restRespects answer _ _ middle
  | error middle => exact .error middle

theorem map
    {work : EStateM Failure State Answer}
    (respects : Respects relation work)
    (form : Answer → Next) :
    Respects relation (form <$> work) := by
  intro left right related
  change Matches relation (EStateM.map form work left) (EStateM.map form work right)
  have matched := respects left right related
  rw [EStateM.map, EStateM.map]
  generalize work left = outcomeLeft at matched ⊢
  generalize work right = outcomeRight at matched ⊢
  cases matched with
  | ok after => exact .ok after
  | error after => exact .error after

theorem mapM
    {Item : Type}
    {work : Item → EStateM Failure State Answer}
    (respects : ∀ item, Respects relation (work item))
    (items : List Item) :
    Respects relation (items.mapM work) := by
  induction items with
  | nil => simp
  | cons item rest hypothesis =>
      rw [List.mapM_cons]
      exact (respects item).bind fun first =>
        hypothesis.bind fun others => Respects.pure (first :: others)

end Respects

end Bookkeeping
