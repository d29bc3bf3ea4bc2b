import Bookkeeping.Proofs.Intentions
import Bookkeeping.Proofs.Outcomes

/-!
# Turning the pages of a history

A client who reads the history of an account asks for one page after the other, each as far
behind the one before as a page is long, until a page is empty.  Whatever size was asked for,
the pages lose no entry and repeat none, and the newest ones come first.
-/

namespace Bookkeeping

open Session

/-! ## The size of a page -/

namespace Service

/-- The size that a limit asks for: the usual one without a limit, or with none above zero. -/
def wantedSize (usual : Int) : Option Int → Int
  | some limit => if limit ≤ 0 then usual else limit
  | none => usual

/-- The size of a page: the one that is asked for, and never more than the most. -/
def sizeOfPage (usual most : Int) (limit : Option Int) : Int :=
  min (wantedSize usual limit) most

variable {usual most : Int}

theorem isOpenLimit_int (limit : Int) : isOpenLimit (.int limit) = .ok (decide (limit ≤ 0)) := by
  by_cases isOpen : limit ≤ 0
  · simp [isOpenLimit, Value.Comparison.holds, Value.Worth.isAtMost, Value.Worth.isBelow, isOpen,
      Int.not_lt.mpr isOpen]
  · simp [isOpenLimit, Value.Comparison.holds, Value.Worth.isAtMost, Value.Worth.isBelow, isOpen,
      Int.not_le.mp isOpen]

theorem pageSize_int
    {policy : Policy}
    (usually : policy.defaultPageSize = .int usual)
    (atMost : policy.maxPageSize = .int most)
    (limit : Option Int) :
    pageSize policy (limit.elim .null .int) = .ok (.int (sizeOfPage usual most limit)) := by
  have wanted :
      pageSize policy (limit.elim .null .int) =
        Value.smaller (.int (wantedSize usual limit)) (.int most) := by
    cases limit with
    | none => simp [pageSize, isOpenLimit, bind, Except.bind, usually, atMost, wantedSize]
    | some limit =>
        simp only [pageSize, Option.elim_some, isOpenLimit_int, bind, Except.bind, usually,
          atMost, decide_eq_true_eq, wantedSize]
        split <;> rfl
  rw [wanted, Value.smaller_int, sizeOfPage]

theorem sizeOfPage_pos
    (usualPositive : 1 ≤ usual)
    (mostPositive : 1 ≤ most)
    (limit : Option Int) :
    1 ≤ sizeOfPage usual most limit := by
  refine le_min ?_ mostPositive
  cases limit with
  | none => exact usualPositive
  | some limit =>
      rw [wantedSize]
      split <;> omega

theorem sizeOfPage_le (usual most : Int) (limit : Option Int) :
    sizeOfPage usual most limit ≤ most :=
  min_le_right _ _

end Service

/-! ## What a page shows -/

theorem Work.page_of_positive
    {Row : Type}
    {size : Int}
    (positive : 1 ≤ size)
    (start : Int)
    (rows : List Row) :
    page (some size) start rows = (rows.drop start.toNat).take size.toNat := by
  rw [page, if_neg (by omega)]

namespace Service

variable {desk : Desk} {account : Account} {size start : Int}

theorem readingHistory_comes
    {bank : Bank}
    (present : bank.tables.account? account.id = some account)
    (sizeKept : isStorable size = true)
    (startKept : isStorable start = true) :
    Work.ComesTo bank (readingHistory account.id (.int size) (.int start))
      (pure (Work.page (some size) start (bank.tables.history account.id))) := by
  have given (number : Int) :
      Work.ComesTo bank (Work.pageInteger (.int number)) (pure (some number)) :=
    .refl _
  refine (Work.account_present present false).after ?_
  refine (given size).after ((given start).after (Work.view_comes.after ?_))
  simp only [Option.all_some, sizeKept, startKept, Bool.and_self, if_true, Option.getD_some]
  exact .refl _

/-- A request for history that names a page of some size ends as the reading of that page. -/
theorem history_reads
    {limit offset : Value}
    (known : Isolation.isUsable desk.bank.isolation = true)
    (present : desk.bank.tables.account? account.id = some account)
    (asked : desk.bank.policy.pageOf limit offset = .ok (.int size, .int start))
    (sizeKept : isStorable size = true)
    (startKept : isStorable start = true) :
    (history .calm account.id limit offset).EndsIn desk
      (.ok (Work.page (some size) start (desk.bank.tables.history account.id))) desk.bank := by
  rcases Work.inUnit_reads known (readingHistory_comes present sizeKept startKept) with
    ⟨answers, leaves⟩
  have same := history_eq .calm desk account.id limit offset
  rw [asked] at same
  exact ⟨by rw [same, answers], by rw [same, leaves]⟩

end Service

/-! ## Page after page -/

/-- The pages that come of asking for one after the other, up to the first empty one. -/
inductive Desk.Pages
    (desk : Desk)
    (account : Identifier)
    (limit : Value)
    (size : Nat) : Nat → List (List Entry) → Prop
  | ended
      {index : Nat}
      (answered :
        (Service.history .calm account limit (.int (index * size : Nat))).EndsIn desk (.ok [])
          desk.bank) :
      Pages desk account limit size index []
  | turned
      {index : Nat}
      {page : List Entry}
      {others : List (List Entry)}
      (answered :
        (Service.history .calm account limit (.int (index * size : Nat))).EndsIn desk (.ok page)
          desk.bank)
      (something : page ≠ [])
      (rest : Pages desk account limit size (index + 1) others) :
      Pages desk account limit size index (page :: others)

namespace Desk.Pages

variable
  {desk : Desk} {account : Identifier} {limit : Value} {size index : Nat}
  {pages : List (List Entry)} {rows : List Entry}

theorem eq_nil_of_flatten
    (turning : desk.Pages account limit size index pages)
    (nothing : pages.flatten = []) :
    pages = [] := by
  cases turning with
  | ended answered => rfl
  | turned answered something rest =>
      exact absurd (List.append_eq_nil_iff.mp nothing).1 something

/--
Where each page shows its part of some rows, turning the pages shows all of the rows that
are left, and only the last page may be short.
-/
theorem exists_of_rows
    (positive : 0 < size)
    (shows :
      ∀ index,
        index * size < rows.length + size →
          (Service.history .calm account limit (.int (index * size : Nat))).EndsIn desk
            (.ok ((rows.drop (index * size)).take size)) desk.bank)
    (index : Nat)
    (begun : index * size < rows.length + size) :
    ∃ pages,
      desk.Pages account limit size index pages ∧ pages.flatten = rows.drop (index * size) ∧
        ∀ page ∈ pages.dropLast, page.length = size := by
  have answered := shows index begun
  -- The induction is on how many rows are left behind the beginning of the page.
  by_cases isOver : rows.length ≤ index * size
  · have nothing : rows.drop (index * size) = [] := List.drop_of_length_le isOver
    rw [nothing, List.take_nil] at answered
    rw [nothing]
    exact ⟨[], .ended answered, rfl, by simp⟩
  · have more : (index + 1) * size = index * size + size := Nat.succ_mul index size
    rcases exists_of_rows positive shows (index + 1) (by omega) with
      ⟨others, turning, remaining, full⟩
    have something : (rows.drop (index * size)).take size ≠ [] := by
      apply List.ne_nil_of_length_pos
      rw [List.length_take, List.length_drop]
      omega
    refine ⟨_ :: others, .turned answered something turning, ?_, ?_⟩
    · rw [List.flatten_cons, remaining, more, ← List.drop_drop, List.take_append_drop]
    · cases others with
      | nil => simp
      | cons next rest =>
          rw [List.dropLast_cons_cons]
          intro page member
          rcases List.mem_cons.mp member with rfl | later
          · have left : rows.drop ((index + 1) * size) ≠ [] := by
              rw [← remaining]
              intro nothing
              exact List.cons_ne_nil _ _ (turning.eq_nil_of_flatten nothing)
            rw [ne_eq, List.drop_eq_nil_iff] at left
            rw [List.length_take, List.length_drop]
            omega
          · exact full page later
termination_by rows.length + size - index * size

end Desk.Pages

namespace Service

variable {desk : Desk} {account : Account} {usual most : Int}

/-- A page of the history of an account that exists is what stands there in the whole. -/
theorem history_shows
    {limit : Option Int}
    {size : Nat}
    {offset : Int}
    (known : Isolation.isUsable desk.bank.isolation = true)
    (present : desk.bank.tables.account? account.id = some account)
    (usually : desk.bank.policy.defaultPageSize = .int usual)
    (atMost : desk.bank.policy.maxPageSize = .int most)
    (sized : sizeOfPage usual most limit = size)
    (positive : 1 ≤ size)
    (sizeKept : size < 2 ^ 62)
    (offsetKept : offset < 2 ^ 63) :
    (history .calm account.id (limit.elim .null .int) (.int offset)).EndsIn desk
      (.ok (((desk.bank.tables.history account.id).drop offset.toNat).take size))
      desk.bank := by
  have asked :
      desk.bank.policy.pageOf (limit.elim .null .int) (.int offset) =
        .ok (.int size, .int (max offset 0)) := by
    rw [Policy.pageOf, pageSize_int usually atMost, pageStart, Value.larger_int, sized]
    rfl
  have kept (number : Int) (least : 0 ≤ number) (most : number < 2 ^ 63) :
      isStorable number = true := by
    have limit : (Number.wordLimit : Int) = 2 ^ 63 := by norm_num [Number.wordLimit]
    simp only [isStorable, Bool.and_eq_true, decide_eq_true_eq]
    omega
  have reads :=
    history_reads known present asked (kept size (by omega) (by omega))
      (kept (max offset 0) (by omega) (by omega))
  have sameStart : (max offset 0).toNat = offset.toNat := by omega
  rwa [Work.page_of_positive (by omega), sameStart, Int.toNat_natCast] at reads

/--
Page after page of an account that exists shows each of its entries once, the newest first,
until a page is empty.  A page is as long as the limit asks for, or as usual, but never longer
than the most, and only the last one may be short.  A page that starts anywhere shows what stands
there in the whole history, where a start before the beginning is the beginning.
-/
theorem pages_show_history
    (limit : Option Int)
    (known : Isolation.isUsable desk.bank.isolation = true)
    (few : desk.bank.tables.entries.length < 2 ^ 62)
    (present : desk.bank.tables.account? account.id = some account)
    (usually : desk.bank.policy.defaultPageSize = .int usual)
    (usualPositive : 1 ≤ usual)
    (atMost : desk.bank.policy.maxPageSize = .int most)
    (mostPositive : 1 ≤ most)
    (mostKept : most < 2 ^ 62) :
    ∃ (size : Nat) (pages : List (List Entry)),
      (size : Int) = sizeOfPage usual most limit ∧
        1 ≤ size ∧
        (size : Int) ≤ most ∧
        desk.Pages account.id (limit.elim .null .int) size 0 pages ∧
        pages.flatten.Perm (desk.bank.tables.entriesOfAccount account.id) ∧
        (pages.flatten.Pairwise fun earlier later =>
          later.createdAt.microseconds ≤ earlier.createdAt.microseconds) ∧
        (∀ page ∈ pages.dropLast, page.length = size) ∧
        ∀ offset : Int,
          offset < 2 ^ 63 →
            (history .calm account.id (limit.elim .null .int) (.int offset)).EndsIn desk
              (.ok ((pages.flatten.drop offset.toNat).take size)) desk.bank := by
  have sizePositive := sizeOfPage_pos usualPositive mostPositive limit
  have bounded := sizeOfPage_le usual most limit
  generalize sized : sizeOfPage usual most limit = size at sizePositive bounded
  lift size to Nat using by omega
  have shows (offset : Int) (offsetKept : offset < 2 ^ 63) :=
    history_shows known present usually atMost sized (by omega) (by omega) offsetKept
  have rearranged :
      (desk.bank.tables.history account.id).Perm
        (desk.bank.tables.entriesOfAccount account.id) :=
    sorted_perm _ _
  have short : (desk.bank.tables.history account.id).length < 2 ^ 62 := by
    rw [rearranged.length_eq]
    exact (List.length_filter_le _ _).trans_lt few
  rcases Desk.Pages.exists_of_rows (by omega)
      (fun index begun => shows (index * size : Nat) (by omega)) 0 (by omega) with
    ⟨pages, turning, whole, full⟩
  rw [Nat.zero_mul, List.drop_zero] at whole
  refine ⟨size, pages, rfl, by omega, bounded, turning, ?_⟩
  rw [whole]
  exact ⟨rearranged, newestFirst_pairwise _ _, full, shows⟩

end Service

namespace Sample

/-- The sample, where pages are usually longer than they may be. -/
def narrow : Desk :=
  let desk := Opening.after settings true steps
  { desk with
    bank :=
      { desk.bank with
        policy := { desk.bank.policy with defaultPageSize := .int 3, maxPageSize := .int 1 } } }

/-- The rule at work: with one entry on each page, two entries are shown. -/
theorem pages_of_savings :
    ∃ pages, narrow.Pages savings .null 1 0 pages ∧ pages.flatten.length = 2 := by
  have looked :
      (narrow.bank.tables.account? savings).isSome = true ∧
        (narrow.bank.tables.entriesOfAccount savings).length = 2 ∧
        narrow.bank.tables.entries.length < 2 ^ 62 ∧
        Isolation.isUsable narrow.bank.isolation = true := by
    decide +kernel
  rcases looked with ⟨opened, posted, few, known⟩
  rcases Option.isSome_iff_exists.mp opened with ⟨account, present⟩
  have same := (Tables.account?_eq_some present).2
  rw [← same] at present posted ⊢
  have usually : narrow.bank.policy.defaultPageSize = .int 3 := rfl
  have atMost : narrow.bank.policy.maxPageSize = .int 1 := rfl
  rcases Service.pages_show_history none known few present usually (by decide)
      atMost (by decide) (by decide) with
    ⟨size, pages, sized, -, -, turning, rearranged, -⟩
  have one : size = 1 := Int.natCast_inj.mp sized
  rw [one] at turning
  exact ⟨pages, turning, rearranged.length_eq.trans posted⟩

end Sample

end Bookkeeping
