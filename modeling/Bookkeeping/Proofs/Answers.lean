import Bookkeeping.Proofs.Movement

/-!
# What is answered

A query may fail for many reasons: another unit of work holds the lock, the session was
undone, the calendar is at its end, a text cannot be written, a row is refused.  Where none of
them is given, the query is answered.  This module says so for the steps of which a movement
of money consists, and for the movement as a whole; what their answers are is known already.

A session is able if it was not undone, meets no lock and has nothing that waits to be
written.  Every query that is answered leaves it able, so the answers can be chained.
-/

namespace Bookkeeping

open Session

/-! ## Texts that can be written -/

namespace Text

theorem firstHalvesFrom_of_ascii
    {characters : List Char}
    (ascii : ∀ character ∈ characters, character.toNat < 128)
    (start : Nat) :
    firstHalvesFrom start (points characters) = none := by
  have unmarked : escapeMark ∉ characters := fun member => absurd (ascii _ member) (by decide)
  rw [points_of_unmarked unmarked]
  clear unmarked
  induction characters generalizing start with
  | nil => rfl
  | cons first rest hypothesis =>
      have small := ascii first List.mem_cons_self
      have whole : isHalf first.toNat = false := by
        have low : ¬ 0xD800 ≤ first.toNat := by omega
        simp [isHalf, low]
      rw [List.map_cons, firstHalvesFrom, whole, if_neg Bool.false_ne_true]
      exact hypothesis (fun other member => ascii other (List.mem_cons_of_mem _ member)) _

theorem hexDigit_ascii {number : Nat} (small : number < 16) : (hexDigit number).toNat < 128 := by
  have all : ∀ digit : Fin 16, (hexDigit digit.val).toNat < 128 := by decide
  exact all ⟨number, small⟩

theorem hexText_ascii (width number : Nat) :
    ∀ character ∈ hexText width number, character.toNat < 128 := by
  induction width generalizing number with
  | zero => rintro _ ⟨⟩
  | succ width hypothesis =>
      intro character member
      rcases List.mem_append.mp member with front | last
      · exact hypothesis _ character front
      · rw [List.mem_singleton.mp last]
        exact hexDigit_ascii (Nat.mod_lt _ (by decide))

end Text

namespace Identifier

theorem grouped_ascii
    {digits : List Char}
    (ascii : ∀ character ∈ digits, character.toNat < 128) :
    ∀ character ∈ grouped digits, character.toNat < 128 := by
  intro character member
  simp only [grouped, List.mem_append, List.mem_cons] at member
  rcases member with (((first | rfl | second) | rfl | third) | rfl | fourth) | rfl | last
  · exact ascii character (List.mem_of_mem_take first)
  · decide
  · exact ascii character (List.mem_of_mem_drop (List.mem_of_mem_take second))
  · decide
  · exact ascii character (List.mem_of_mem_drop (List.mem_of_mem_take third))
  · decide
  · exact ascii character (List.mem_of_mem_drop (List.mem_of_mem_take fourth))
  · decide
  · exact ascii character (List.mem_of_mem_drop last)

theorem text_ascii (id : Identifier) : ∀ character ∈ id.text.toList, character.toNat < 128 := by
  rw [text]
  split
  · simp
  · rw [String.toList_ofList]
    exact grouped_ascii (Text.hexText_ascii 32 id.number)

/-- An identifier that was drawn is not the one that stands for none. -/
theorem given?_drawn (kind : Kind) {count : Nat} (bounded : count ≤ 2 ^ 96) :
    (drawn kind count).given? = some (drawn kind count) := by
  have few : kind.number ≤ 4 := by
    cases kind <;> decide
  have different : drawn kind count ≠ missing := by
    simp only [drawn, missing, ne_eq, mk.injEq, Nat.pow_eq]
    omega
  rw [given?, if_neg different]

end Identifier

/-- Words of plain characters around an identifier can be written. -/
theorem storedText_words
    (place : Nat)
    (words : String)
    (ascii : ∀ character ∈ words.toList, character.toNat < 128)
    (id : Identifier) :
    storedText place (.text (words ++ id.text)) = .ok (some (words ++ id.text)) := by
  have all : ∀ character ∈ (words ++ id.text).toList, character.toNat < 128 := by
    intro character member
    rw [String.toList_append] at member
    rcases List.mem_append.mp member with front | last
    · exact ascii character front
    · exact id.text_ascii character last
  have whole : Text.firstHalves? (words ++ id.text) = none := Text.firstHalvesFrom_of_ascii all 0
  rw [storedText, storedString, whole]
  rfl

/-! ## Sources that suffice -/

/-- Accounts and groups can be told from none, and the calendar has two more seconds. -/
structure Sources.Suffice (sources : Sources) : Prop where
  accounts : sources.accounts ≤ 2 ^ 96
  groups : sources.groups < 2 ^ 96
  clock : sources.clock.next.microseconds < Timestamp.lastSecond.microseconds

theorem Sources.Suffice.early
    {sources : Sources}
    (suffice : sources.Suffice) :
    sources.clock.microseconds < Timestamp.lastSecond.microseconds := by
  have late := suffice.clock
  simp only [Timestamp.next] at late
  omega

/-- The sources after a movement, which takes a group, two entries and two seconds. -/
def Sources.afterMovement (sources : Sources) : Sources :=
  ((sources.advance .group).afterMaking .entry).afterMaking .entry

theorem Tables.Sound.given?_of_account
    {tables : Tables}
    {sources : Sources}
    (sound : tables.Sound sources)
    (suffice : sources.Suffice)
    {id : Identifier}
    {account : Account}
    (present : tables.account? id = some account) :
    id.given? = some id := by
  rcases Tables.account?_eq_some present with ⟨member, sameId⟩
  rcases sound.drawn account member with ⟨count, bound, drawn⟩
  rw [← sameId, drawn]
  exact Identifier.given?_drawn .account (Nat.le_trans bound suffice.accounts)

/-! ## Able sessions -/

/-- A session that was not undone, meets no lock and has nothing that waits to be written. -/
structure Session.Able (session : Session) : Prop where
  usable : session.undoneBy = none
  free : session.locked = false
  nothing : session.staged = []
  unrevised : session.revised = []

theorem Session.Untouched.able
    {before after : Session}
    (untouched : Untouched before after)
    (able : Able before) :
    Able after where
  usable := untouched.undoneBy.trans able.usable
  free := untouched.locked.trans able.free
  nothing := untouched.staged.trans able.nothing
  unrevised := untouched.revised.trans able.unrevised

namespace Work

variable {Answer : Type} {before : Session}

theorem make_answers
    (kind : Identifier.Kind)
    (able : Able before)
    (early : before.sources.clock.microseconds < Timestamp.lastSecond.microseconds) :
    ∃ after,
      make kind before = .ok (before.sources.upcoming kind, before.sources.clock) after ∧
        Able after := by
  have soon : before.desk.bank.sources.clock.microseconds < Timestamp.lastSecond.microseconds :=
    early
  simp only [make, soon, if_true]
  exact ⟨_, rfl, able.usable, able.free, able.nothing, able.unrevised⟩

theorem insertAhead_answers
    (rows : Tables → Except Failure (Answer × Tables))
    {answer : Answer}
    {tables : Tables}
    (able : Able before)
    (accepted : rows before.tables = .ok (answer, tables)) :
    insertAhead rows before =
      .ok answer { before with pending := some tables, staged := [], revised := [] } := by
  simp [insertAhead, flush, view_answers able.usable able.free, accepted, able.nothing,
    able.unrevised, Revision.updates, Revision.deletions, Tables.insertUsers, bind, Except.bind,
    pure, Except.pure]

end Work

/-- An entry is accepted if its columns are given and it violates nothing. -/
theorem Tables.insertEntry_answers
    {tables : Tables}
    {draft : EntryDraft}
    {description? : Option String}
    (kept : storedText 7 draft.description = .ok description?)
    (given : missedColumns draft = [])
    (fits : tables.violation? (entryRow draft description?) = none) :
    tables.insertEntry draft =
      .ok (entryRow draft description?, (Write.entry (entryRow draft description?)).apply tables) := by
  simp only [insertEntry, kept, bind, Except.bind, given, fits]
  rfl

namespace Work

variable {before : Session}

theorem drawGroup_answers (able : Able before) :
    ∃ after,
      drawGroup before = .ok (before.sources.upcoming .group) after ∧ Able after ∧
        after.tables = before.tables :=
  ⟨_, rfl, ⟨able.usable, able.free, able.nothing, able.unrevised⟩, rfl⟩

theorem post_answers
    (posting : Posting)
    {description? : Option String}
    (able : Able before)
    (early : before.sources.clock.microseconds < Timestamp.lastSecond.microseconds)
    (kept : storedText 7 posting.description = .ok description?)
    (given :
      Tables.missedColumns (posting.draft (before.sources.upcoming .entry) before.sources.clock) =
        [])
    (fits : before.tables.violation? (posting.entry before.sources) = none) :
    ∃ after, post posting before = .ok (posting.entry before.sources) after ∧ Able after := by
  rcases make_answers .entry able early with ⟨first, made, ableThen⟩
  rcases make_ok made with ⟨-, -, -, sameTables, -⟩
  rw [Posting.entry, Value.kept?_eq kept, ← sameTables] at fits
  have accepted := Tables.insertEntry_answers kept given fits
  have inserted :=
    insertAhead_answers
      (fun tables =>
        tables.insertEntry
          (posting.draft (before.sources.upcoming .entry) before.sources.clock))
      ableThen accepted
  rcases keepGiven_answers (before.sources.upcoming .entry)
      [("description", posting.description)] _ with
    ⟨last, told, -⟩
  have keeping := (keepGiven_untouched _ _).of_ok told
  refine ⟨last, ?_, ?_⟩
  · rw [Posting.entry, Value.kept?_eq kept]
    exact sequence_ok made (sequence_ok inserted (sequence_ok told rfl))
  · exact keeping.able ⟨ableThen.usable, ableThen.free, rfl, rfl⟩

/-- A balance can be moved if its account is there, and every account stays there. -/
theorem moveBalance_answers
    (id : Identifier)
    (delta : Money)
    (able : Able before)
    (present : (before.tables.account? id).isSome) :
    ∃ after,
      moveBalance id delta before = .ok () after ∧ Able after ∧ after.sources = before.sources ∧
        ∀ other,
          (after.tables.account? other).isSome = (before.tables.account? other).isSome := by
  have moved :
      before.tables.moveBalance id delta =
        some ((Write.balance id delta).apply before.tables) := by
    simp [Tables.moveBalance, present, Write.apply]
  refine
    ⟨{ before with pending := some ((Write.balance id delta).apply before.tables) },
      sequence_ok (view_answers able.usable able.free) ?_,
      ⟨able.usable, able.free, able.nothing, able.unrevised⟩, rfl, ?_⟩
  · rw [moved]
    exact sequence_ok rfl rfl
  · intro other
    change (((Write.balance id delta).apply before.tables).account? other).isSome = _
    rw [Write.account?_balance, Option.isSome_map]

/-- The settlement account is looked for by the text that is kept of its name. -/
theorem settlementNamed_answers
    {name : Value}
    {text : String}
    (usable : before.undoneBy = none)
    (free : before.locked = false)
    (kept : name.kept? = some text) :
    settlementNamed name before =
      .ok (before.tables.settlement? text) { before with pending := some before.tables } := by
  refine sequence_ok (view_answers usable free) ?_
  rw [Value.storedText_of_kept? kept]
  rfl

/-- A locking read of the settlement account answers it, if it is there. -/
theorem settlement_answers
    {name : Value}
    {settlement : Account}
    (able : Able before)
    (settled : name.kept?.bind before.tables.settlement? = some settlement) :
    Work.settlement name true before =
      .ok settlement
        { before with
          pending := some before.tables
          shown :=
            (before.shown.filter fun shown => shown.id ≠ settlement.id) ++ [settlement] } := by
  rcases Option.bind_eq_some_iff.mp settled with ⟨text, kept, found⟩
  refine (sequence_after (settlementNamed_answers able.usable able.free kept)).trans ?_
  rw [found]
  exact sequence_after rfl

theorem account_locking_answers
    {id : Identifier}
    {account : Account}
    (able : Able before)
    (present : before.tables.account? id = some account) :
    Work.account id true before =
      .ok account
        { before with
          pending := some before.tables
          shown := (before.shown.filter fun shown => shown.id ≠ account.id) ++ [account] } := by
  refine (sequence_after (view_answers able.usable able.free)).trans ?_
  rw [present]
  exact sequence_after rfl

end Work

namespace Service

open Work

variable {before : Session}

/-- An entry of one side violates nothing if it has an effect and its account is there. -/
theorem side_fits
    {operation : Operation}
    {group account : Identifier}
    {effect : Money}
    {description : Value}
    {tables : Tables}
    (moves : effect ≠ 0)
    (present : (tables.account? account).isSome)
    (sources : Sources) :
    tables.violation? ((side operation group account effect description).entry sources) = none := by
  have records := side_records operation group account effect description sources
  have known : (tables.account? account).isNone = false := by
    rw [← Option.not_isSome, present]
    rfl
  -- One of the two sides is zero, and the other one is what is moved.
  have apart (units : Int) (nonzero : units ≠ 0) :
      max 0 units = 0 ∧ 0 < max 0 (-units) ∨ 0 < max 0 units ∧ max 0 (-units) = 0 := by
    omega
  have notNegative (units : Int) : ¬ max 0 units < 0 := by omega
  have single :
      Tables.isSingleSided
        ((side operation group account effect description).entry sources) = true := by
    rw [Tables.isSingleSided, records.debit, records.credit]
    rcases apart effect moves with ⟨gained, spent⟩ | ⟨gained, spent⟩
    · simp [gained, spent]
    · simp [gained, spent]
  rw [Tables.violation?, single, records.debit, records.credit, records.account, known,
    if_neg (notNegative _), if_neg (notNegative _)]
  rfl

/-- Nothing is missed of an entry of one side, if its account and its group are given. -/
theorem side_given
    {operation : Operation}
    {group account : Identifier}
    (knownGroup : group.given? = some group)
    (knownAccount : account.given? = some account)
    (effect : Money)
    (description : Value)
    (id : Identifier)
    (time : Timestamp) :
    Tables.missedColumns
      ((side operation group account effect description).draft id time) = [] := by
  simp [Tables.missedColumns, side, Posting.draft, knownGroup, knownAccount]

/-- One side of a movement is posted if its account is there, and it takes a second. -/
theorem side_answers
    (operation : Operation)
    {group account : Identifier}
    {effect : Money}
    {description : Value}
    {kept? : Option String}
    (able : Able before)
    (early : before.sources.clock.microseconds < Timestamp.lastSecond.microseconds)
    (kept : storedText 7 description = .ok kept?)
    (knownGroup : group.given? = some group)
    (knownAccount : account.given? = some account)
    (moves : effect ≠ 0)
    (present : (before.tables.account? account).isSome) :
    ∃ entry after,
      post (side operation group account effect description) before = .ok entry after ∧
        Able after ∧ after.sources = before.sources.afterMaking .entry ∧
        ∀ other, after.tables.account? other = before.tables.account? other := by
  rcases post_answers (side operation group account effect description) able early kept
      (side_given knownGroup knownAccount effect description _ _)
      (side_fits moves present before.sources) with
    ⟨after, posted, ableThen⟩
  rcases post_ok posted with ⟨-, evolved, -, -, made, -⟩
  rw [joining_eq_nil able.nothing, List.map_nil] at evolved
  refine ⟨_, after, posted, ableThen, made, ?_⟩
  intro other
  rw [evolved.applied ableThen.usable]
  exact Write.account?_entry _ _ other

/-- Money is moved between two accounts that are there, if the sources suffice. -/
theorem move_answers
    {operation : Operation}
    {firstId secondId : Identifier}
    {effect : Money}
    {firstDescription secondDescription : Value}
    {firstKept? secondKept? : Option String}
    (able : Able before)
    (suffice : before.sources.Suffice)
    (moves : effect ≠ 0)
    (givenFirst : firstId.given? = some firstId)
    (givenSecond : secondId.given? = some secondId)
    (presentFirst : (before.tables.account? firstId).isSome)
    (presentSecond : (before.tables.account? secondId).isSome)
    (keptFirst : storedText 7 firstDescription = .ok firstKept?)
    (keptSecond : storedText 7 secondDescription = .ok secondKept?) :
    ∃ after,
      move operation firstId secondId effect firstDescription secondDescription before =
          .ok (before.sources.upcoming .group) after ∧
        Able after ∧ after.sources = before.sources.afterMovement := by
  have givenGroup :
      (before.sources.upcoming .group).given? = some (before.sources.upcoming .group) :=
    Identifier.given?_drawn .group suffice.groups
  have opposite : -effect ≠ 0 := fun same => moves (Int.neg_eq_zero.mp same)
  -- The group takes no time, and each of the entries takes a second.
  rcases drawGroup_answers able with ⟨drawn, drawing, ableDrawn, sameTables⟩
  rcases drawGroup_ok drawing with ⟨-, advanced, -⟩
  rcases side_answers operation ableDrawn (by rw [advanced]; exact suffice.early) keptFirst
      givenGroup givenFirst moves (by rw [sameTables]; exact presentFirst) with
    ⟨entryFirst, one, postedFirst, ableOne, made, sameOne⟩
  rcases side_answers operation ableOne (by rw [made, advanced]; exact suffice.clock)
      keptSecond givenGroup givenSecond opposite
      (by rw [sameOne, sameTables]; exact presentSecond) with
    ⟨entrySecond, both, postedSecond, ableBoth, madeBoth, sameBoth⟩
  rcases moveBalance_answers firstId effect ableBoth
      (by rw [sameBoth, sameOne, sameTables]; exact presentFirst) with
    ⟨middle, movedFirst, ableMiddle, keptMiddle, stay⟩
  rcases moveBalance_answers secondId (-effect) ableMiddle
      (by rw [stay, sameBoth, sameOne, sameTables]; exact presentSecond) with
    ⟨last, movedSecond, ableLast, keptLast, -⟩
  refine ⟨last, ?_, ableLast, ?_⟩
  · exact
      sequence_ok drawing <| sequence_ok postedFirst <| sequence_ok postedSecond <|
        sequence_ok movedFirst <| sequence_ok movedSecond rfl
  · rw [keptLast, keptMiddle, madeBoth, made, advanced]
    rfl

/-! ## Counterparties -/

/-- Where both counterparties are there, all that is left to be checked is whether they fit. -/
theorem counterparties_seen
    {id : Identifier}
    {settlement account : Account}
    (able : Able before)
    (settled :
      before.desk.bank.policy.settlementName.kept?.bind before.tables.settlement? =
        some settlement)
    (present : before.tables.account? id = some account) :
    ∃ middle,
      Untouched before middle ∧
        counterparties id before =
          (do
            refuseSystem account
            requireCurrency settlement.currency account.currency
            return (settlement, account) : Work (Account × Account)) middle := by
  have settling := settlement_answers able settled
  have looking := (settlement_untouched _ true).of_ok settling
  rw [← looking.tables] at present
  have finding := account_locking_answers (looking.able able) present
  refine ⟨_, looking.trans ((account_untouched id true).of_ok finding), ?_⟩
  exact (sequence_after rfl).trans ((sequence_after settling).trans (sequence_after finding))

end Service

end Bookkeeping
