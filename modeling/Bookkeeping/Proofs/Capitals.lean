import Bookkeeping.Text.Uppercase

/-!
# Capitals of capitals

A text in capitals stays as it is when it is put in capitals again, since nothing that the
mapping yields is a character that the mapping changes.  A text gets longer exactly if one of
its characters has a capital form of several characters, and at most three times as long.

The tables of the mapping are compared as sets of code points, each of them the bits of one
number.
-/

namespace Bookkeeping.Text

/-! ## Sets of code points -/

/-- Code points as the bits of one number. -/
def bits (codes : List Nat) : Nat :=
  codes.foldr (fun code others => 1 <<< code ||| others) 0

theorem testBit_bits (codes : List Nat) (code : Nat) :
    (bits codes).testBit code = true ↔ code ∈ codes := by
  induction codes with
  | nil => simp [bits]
  | cons first rest hypothesis =>
      change (1 <<< first ||| bits rest).testBit code = true ↔ _
      rw [Nat.testBit_or, Bool.or_eq_true, hypothesis, Nat.one_shiftLeft, Nat.testBit_two_pow,
        decide_eq_true_iff, List.mem_cons, eq_comm]

/-- Lists whose bits have nothing in common have no member in common. -/
theorem not_mem_of_bits
    {codes others : List Nat}
    (apart : bits codes &&& bits others = 0)
    {code : Nat}
    (member : code ∈ codes) :
    code ∉ others := by
  intro other
  have both : (bits codes &&& bits others).testBit code = true := by
    rw [Nat.testBit_and, (testBit_bits codes code).mpr member, (testBit_bits others code).mpr other]
    rfl
  rw [apart, Nat.zero_testBit] at both
  cases both

/-! ## The characters that change, and what they become -/

namespace CaseRun

/-- The code points of a run in their order. -/
def codes (run : CaseRun) : List Nat :=
  (List.range ((run.last - run.first) / run.stride + 1)).map fun step =>
    run.first + run.stride * step

theorem mem_codes
    {run : CaseRun}
    {code : Nat}
    (covered : run.covers code = true) :
    code ∈ run.codes := by
  simp only [covers, Bool.and_eq_true, decide_eq_true_eq, beq_iff_eq] at covered
  rcases covered with ⟨⟨low, high⟩, strides⟩
  refine List.mem_map.mpr ⟨(code - run.first) / run.stride, List.mem_range.mpr ?_, ?_⟩
  · exact Nat.lt_succ_of_le (Nat.div_le_div_right (by omega))
  · rw [Nat.mul_div_cancel' (Nat.dvd_of_mod_eq_zero strides)]
    omega

end CaseRun

/-- The code points that the mapping changes. -/
def changedCodes : List Nat :=
  longCapitals.map Prod.fst ++ capitalRuns.flatMap CaseRun.codes

/-- The code points that the mapping yields instead, and the one in place of invalid ones. -/
def capitalCodes : List Nat :=
  0 :: longCapitals.flatMap Prod.snd ++
    capitalRuns.flatMap fun run => run.codes.map fun code : Nat => (code + run.distance).toNat

theorem capitalCodes_unchanged {code : Nat} (capital : code ∈ capitalCodes) :
    code ∉ changedCodes :=
  not_mem_of_bits (by decide +kernel) capital

theorem toNat_ofNat_cases (code : Nat) :
    (Char.ofNat code).toNat = code ∨ (Char.ofNat code).toNat = 0 := by
  by_cases valid : code.isValidChar
  · left
    rw [Char.ofNat, dif_pos valid]
    rfl
  · right
    rw [Char.ofNat, dif_neg valid]
    rfl

theorem mem_capitalCodes_ofNat {code : Nat} (capital : code ∈ capitalCodes) :
    (Char.ofNat code).toNat ∈ capitalCodes := by
  rcases toNat_ofNat_cases code with valid | invalid
  · rwa [valid]
  · rw [invalid]
    exact List.mem_cons_self

/-- A character that the mapping does not change stands for itself. -/
theorem upperCharacter_of_unchanged
    {character : Char}
    (unchanged : character.toNat ∉ changedCodes) :
    upperCharacter character = [character] := by
  rw [changedCodes, List.mem_append, not_or] at unchanged
  have short : longCapitals.lookup character.toNat = none := by
    rw [List.lookup_eq_none_iff]
    intro form member
    rw [bne_iff_ne]
    rintro same
    exact unchanged.1 (List.mem_map.mpr ⟨form, member, same.symm⟩)
  have alone : capitalRuns.find? (·.covers character.toNat) = none := by
    rw [List.find?_eq_none]
    intro run member covered
    exact unchanged.2 (List.mem_flatMap.mpr ⟨run, member, run.mem_codes covered⟩)
  rw [upperCharacter, short, alone]

theorem mem_longCapitals
    {code : Nat}
    {codes : List Nat}
    (long : longCapitals.lookup code = some codes) :
    (code, codes) ∈ longCapitals := by
  rcases List.lookup_eq_some_iff.mp long with ⟨front, back, divided, -⟩
  rw [divided]
  exact List.mem_append_right _ List.mem_cons_self

/-- A character becomes itself, or characters that are capitals. -/
theorem mem_upperCharacter
    {character capital : Char}
    (member : capital ∈ upperCharacter character) :
    upperCharacter character = [capital] ∧ capital = character ∨
      capital.toNat ∈ capitalCodes := by
  rw [upperCharacter] at member ⊢
  cases long : longCapitals.lookup character.toNat with
  | some codes =>
      rw [long] at member
      rcases List.mem_map.mp member with ⟨code, listed, rfl⟩
      refine Or.inr (mem_capitalCodes_ofNat (List.mem_append_left _ (List.mem_cons_of_mem _ ?_)))
      exact List.mem_flatMap.mpr ⟨_, mem_longCapitals long, listed⟩
  | none =>
      rw [long] at member
      cases found : capitalRuns.find? (·.covers character.toNat) with
      | some run =>
          rw [found] at member
          rw [List.mem_singleton.mp member]
          have covered : run.covers character.toNat = true :=
            List.find?_some (p := fun other : CaseRun => other.covers character.toNat) found
          refine Or.inr (mem_capitalCodes_ofNat (List.mem_append_right _ ?_))
          exact List.mem_flatMap.mpr
            ⟨run, List.mem_of_find?_eq_some found,
              List.mem_map.mpr ⟨_, run.mem_codes covered, rfl⟩⟩
      | none =>
          rw [found] at member
          have same := List.mem_singleton.mp member
          exact Or.inl ⟨by rw [same], same⟩

/-- What a character becomes in capitals does not change any more. -/
theorem upperCharacter_of_mem
    {character capital : Char}
    (member : capital ∈ upperCharacter character) :
    upperCharacter capital = [capital] := by
  rcases mem_upperCharacter member with ⟨unchanged, rfl⟩ | isCapital
  · exact unchanged
  · exact upperCharacter_of_unchanged (capitalCodes_unchanged isCapital)

theorem flatMap_upperCharacter_of_fixed
    {characters : List Char}
    (fixed : ∀ character ∈ characters, upperCharacter character = [character]) :
    characters.flatMap upperCharacter = characters := by
  induction characters with
  | nil => rfl
  | cons first rest hypothesis =>
      rw [List.flatMap_cons, fixed first List.mem_cons_self,
        hypothesis fun other member => fixed other (List.mem_cons_of_mem _ member)]
      rfl

/-- A text in capitals is put in capitals already. -/
theorem upper_upper (text : String) : upper (upper text) = upper text := by
  rw [upper, upper, String.toList_ofList, flatMap_upperCharacter_of_fixed]
  intro capital member
  rcases List.mem_flatMap.mp member with ⟨character, -, becomes⟩
  exact upperCharacter_of_mem becomes

/-! ## How long a text is in capitals -/

theorem length_upperCharacter (character : Char) :
    1 ≤ (upperCharacter character).length ∧ (upperCharacter character).length ≤ 3 := by
  rw [upperCharacter]
  cases long : longCapitals.lookup character.toNat with
  | some codes =>
      have sizes : ∀ form ∈ longCapitals, 1 ≤ form.2.length ∧ form.2.length ≤ 3 := by
        decide +kernel
      rw [List.length_map]
      exact sizes _ (mem_longCapitals long)
  | none =>
      cases capitalRuns.find? (·.covers character.toNat) with
      | some run => exact ⟨Nat.le_refl 1, Nat.le_add_left 1 2⟩
      | none => exact ⟨Nat.le_refl 1, Nat.le_add_left 1 2⟩

theorem length_flatMap_upperCharacter (characters : List Char) :
    characters.length ≤ (characters.flatMap upperCharacter).length ∧
      (characters.flatMap upperCharacter).length ≤ 3 * characters.length ∧
      ((characters.flatMap upperCharacter).length = characters.length ↔
        ∀ character ∈ characters, (upperCharacter character).length = 1) := by
  induction characters with
  | nil => simp
  | cons first rest hypothesis =>
      rcases hypothesis with ⟨least, most, same⟩
      rcases length_upperCharacter first with ⟨leastFirst, mostFirst⟩
      rw [List.flatMap_cons, List.length_append, List.length_cons, List.forall_mem_cons, ← same]
      omega

/-- A text keeps its length in capitals exactly if every capital form is a single character. -/
theorem length_upper (text : String) :
    text.length ≤ (upper text).length ∧ (upper text).length ≤ 3 * text.length ∧
      ((upper text).length = text.length ↔
        ∀ character ∈ text.toList, (upperCharacter character).length = 1) := by
  rw [upper, String.length_ofList, ← String.length_toList]
  exact length_flatMap_upperCharacter text.toList

end Bookkeeping.Text
