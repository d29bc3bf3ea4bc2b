import Bookkeeping.Proofs.Rounding

/-!
# Plain decimal numbers are read as what they are worth

The reader of decimal numbers is lenient: it skips characters, knows digits of many scripts
and powers of ten.  From the characters of a plain decimal number it loses nothing.  Their
digits become one coefficient, and the exponent counts those behind the point, so that the
number that is read is worth what the plain one is.  That fails only where there are more
digits than a decimal number can hold.

Numbers are compared under the smaller of two exponents, by whole numbers, and that is the
order of what they are worth.
-/

namespace Bookkeeping

open PlainDecimal

/-! ## Digits as one number -/

namespace Number

theorem ofDigits_dropWhile (digits : List Nat) :
    ofDigits (digits.dropWhile (· == 0)) = ofDigits digits := by
  induction digits with
  | nil => rfl
  | cons digit rest hypothesis =>
      rw [List.dropWhile_cons]
      split
      · rename_i isZero
        rw [hypothesis, eq_of_beq isZero]
        rfl
      · rfl

theorem ofDigits_lt {digits : List Nat} (small : ∀ digit ∈ digits, digit < 10) :
    ofDigits digits < 10 ^ digits.length := by
  induction digits using List.reverseRecOn with
  | nil => exact Nat.one_pos
  | append_singleton front last hypothesis =>
      have below := hypothesis fun digit member => small digit (List.mem_append_left _ member)
      have lastSmall := small last (List.mem_append_right _ (List.mem_singleton_self last))
      rw [ofDigits_append_singleton, List.length_append, List.length_singleton, Nat.pow_succ]
      omega

/-- A number has at most as many digits as write it, without the zeros at their front. -/
theorem length_digits_ofDigits_le {digits : List Nat} (small : ∀ digit ∈ digits, digit < 10) :
    (Number.digits (ofDigits digits)).length ≤ max 1 (digits.dropWhile (· == 0)).length := by
  have below : ofDigits digits < 10 ^ (digits.dropWhile (· == 0)).length := by
    rw [← ofDigits_dropWhile]
    exact ofDigits_lt fun digit member => small digit ((List.dropWhile_suffix _).subset member)
  cases width : (digits.dropWhile (· == 0)).length with
  | zero =>
      rw [width, Nat.pow_zero, Nat.lt_one_iff] at below
      rw [below]
      exact le_max_left 1 0
  | succ width' =>
      rw [width] at below
      exact (length_digits_le width' below).trans (le_max_right _ _)

end Number

/-! ## The number that is read -/

namespace PlainDecimal

/-- The digits behind the point; without a point there are none. -/
def behind (number : PlainDecimal) : Digits :=
  number.behind?.getD []

/--
Whether a decimal number can hold all digits of a plain one.  There is a most for the digits
behind the point, and one for all digits; zeros in front of all others do not count.
-/
structure IsHeld (number : PlainDecimal) : Prop where
  all : ((number.whole ++ number.behind).dropWhile (· == 0)).length ≤ Decimal.mostDigits
  behind : number.behind.length ≤ Decimal.mostDigits

/-- All digits as one number, as if there were no point among them. -/
def coefficient (number : PlainDecimal) : Nat :=
  Decimal.digitsNumber (number.whole.characters ++ number.behind.characters)

/-- The plain number as any decimal number. -/
def decimal (number : PlainDecimal) : Decimal :=
  .finite number.sign.isMinus number.coefficient (-(number.behind.length : Int))

theorem coefficient_eq (number : PlainDecimal) :
    number.coefficient = Number.ofDigits ((number.whole ++ number.behind).map Fin.val) := by
  rw [coefficient, Decimal.digitsNumber, List.map_append, Digits.map_toNat_characters,
    Digits.map_toNat_characters, ← List.map_append]

theorem areTooMany_iff (number : PlainDecimal) :
    Decimal.areTooMany number.whole.characters number.behind.characters = false ↔
      number.IsHeld := by
  have isZero (digit : Fin 10) : (Number.digitCharacter digit == '0') = (digit == 0) := by
    decide +revert
  have same :
      (number.whole.characters ++ number.behind.characters).dropWhile (· == '0') =
        Digits.characters ((number.whole ++ number.behind).dropWhile (· == 0)) := by
    rw [Digits.characters, Digits.characters, ← List.map_append, List.dropWhile_map,
      Digits.characters]
    simp only [Function.comp_def, isZero]
  rw [Decimal.areTooMany, same, Bool.or_eq_false_iff, decide_eq_false_iff_not,
    decide_eq_false_iff_not, not_lt, not_lt, Digits.characters, Digits.characters,
    List.length_map, List.length_map]
  constructor
  · rintro ⟨all, behind⟩
    exact ⟨all, behind⟩
  · intro held
    exact ⟨held.all, held.behind⟩

/-- Digits that can be held are a number with no more digits. -/
theorem IsHeld.length_digits_coefficient
    {number : PlainDecimal}
    (held : number.IsHeld) :
    (Number.digits number.coefficient).length ≤ Decimal.mostDigits := by
  have isZero : (fun digit : Fin 10 => digit.val == 0) = (· == 0) := by
    funext digit
    decide +revert
  have small : ∀ digit ∈ (number.whole ++ number.behind).map Fin.val, digit < 10 := by
    rintro digit member
    rcases List.mem_map.mp member with ⟨digit, -, rfl⟩
    exact digit.isLt
  have few := Number.length_digits_ofDigits_le small
  rw [List.dropWhile_map, List.length_map, ← coefficient_eq, Function.comp_def, isZero] at few
  exact few.trans (max_le (by decide) held.all)

/-- What is read is worth what the plain number is. -/
theorem value?_decimal (number : PlainDecimal) : number.decimal.value? = some number.value := by
  have behindWorth := Digits.scaled_fraction number.behind.length number.behind
  rw [List.take_length, List.drop_length, Nat.sub_self, pow_zero, mul_one, Digits.fraction,
    add_zero] at behindWorth
  have scale : (10 : ℚ) ^ (-(number.behind.length : Int)) * 10 ^ number.behind.length = 1 := by
    rw [← zpow_natCast, ← zpow_add₀ (by norm_num), neg_add_cancel, zpow_zero]
  have worth :
      (number.coefficient : ℚ) * 10 ^ (-(number.behind.length : Int)) = number.magnitude := by
    rw [coefficient_eq, List.map_append, Number.ofDigits_append, List.length_map, Nat.cast_add,
      Nat.cast_mul, Digits.ofDigits_val, Digits.ofDigits_val, ← behindWorth, magnitude]
    push_cast
    rw [mul_comm ((10 : ℚ) ^ number.behind.length) (Digits.fraction number.behind), ← add_mul,
      mul_assoc, mul_comm ((10 : ℚ) ^ number.behind.length), scale, mul_one]
    rfl
  rw [decimal, Decimal.value?, worth, value, Sign.factor, Decimal.signed]
  split <;> simp

end PlainDecimal

namespace Decimal

/-- A character that counts as it is: of ASCII, and neither blank nor skipped. -/
structure IsSolid (character : Char) : Prop where
  notBlank : Text.isBlank character = false
  notSkipped : character ≠ '_'
  isAscii : 0 < character.toNat ∧ character.toNat < 128

theorem isSolid_of_isDigit {character : Char} (isDigit : character.isDigit = true) :
    IsSolid character := by
  rcases Number.exists_digitCharacter isDigit with ⟨digit, rfl⟩
  refine ⟨?_, ?_, ?_⟩ <;> decide +revert

theorem isSolid_of_mem
    {number : PlainDecimal}
    {character : Char}
    (member : character ∈ number.characters) :
    IsSolid character := by
  rcases List.mem_append.mp member with sign | unsigned
  · cases kind : number.sign with
    | none =>
        rw [kind] at sign
        cases sign
    | plus | minus =>
        rw [kind] at sign
        rw [List.mem_singleton.mp sign]
        constructor <;> decide
  · rcases mem_unsigned unsigned with rfl | isDigit
    · constructor <;> decide
    · exact isSolid_of_isDigit isDigit

theorem plainCharacters_of_solid
    {characters : List Char}
    (solid : ∀ character ∈ characters, IsSolid character) :
    plainCharacters characters = some characters := by
  induction characters with
  | nil => rfl
  | cons first rest hypothesis =>
      have isSolid := solid first List.mem_cons_self
      rw [plainCharacters, if_neg isSolid.notSkipped, if_pos isSolid.isAscii,
        hypothesis fun character member => solid character (List.mem_cons_of_mem first member)]
      rfl

/-- Of solid characters none is lost before a number is looked for in them. -/
theorem ofText_of_solid
    {text : String}
    {characters : List Char}
    (same : text.toList = characters)
    (something : characters ≠ [])
    (solid : ∀ character ∈ characters, IsSolid character) :
    ofText text =
      match readSpecial? (takeSign characters).1 (takeSign characters).2 with
      | some special => .ok special
      | none => readNumeric (takeSign characters).1 (takeSign characters).2 := by
  have trimmed : Text.trimBy Text.isBlank ([] ++ characters ++ []) = characters :=
    Text.trimBy_between (by simp) (by simp) (fun character member => (solid character member).1)
      something
  rw [List.nil_append, List.append_nil] at trimmed
  have plain : plainCharacters (Text.trimBy Text.isBlank text.toList) = some characters := by
    rw [same, trimmed, plainCharacters_of_solid solid]
  cases special : readSpecial? (takeSign characters).1 (takeSign characters).2 with
  | none => simp only [ofText, plain, special]
  | some decimal => simp only [ofText, plain, special]

/-- A word that starts with another letter does not stand there. -/
theorem afterWord?_eq_none
    (word : String)
    {first : Char}
    (rest : List Char)
    (differs : ∃ letter others, word.toList = letter :: others ∧ first.toLower ≠ letter) :
    afterWord? word (first :: rest) = none := by
  rcases differs with ⟨letter, others, spelled, differs⟩
  rw [afterWord?, ← String.length_toList, spelled, List.length_cons, List.take_succ_cons,
    List.map_cons, if_neg]
  intro same
  exact differs (List.cons.inj same).1

/-- No number without a sign starts like a special value. -/
theorem readSpecial?_unsigned
    (negative : Bool)
    {whole : Digits}
    {behind? : Option Digits}
    (hasDigit : whole ≠ [] ∨ behind?.getD [] ≠ []) :
    readSpecial? negative (unsigned whole behind?) = none := by
  cases written : unsigned whole behind? with
  | nil => exact absurd written (unsigned_ne_nil hasDigit)
  | cons first rest =>
      have letters : first.toLower ≠ 'i' ∧ first.toLower ≠ 'n' ∧ first.toLower ≠ 's' := by
        have digits (digit : Fin 10) :
            (Number.digitCharacter digit).toLower ≠ 'i' ∧
              (Number.digitCharacter digit).toLower ≠ 'n' ∧
              (Number.digitCharacter digit).toLower ≠ 's' := by
          decide +revert
        rcases mem_unsigned (written ▸ List.mem_cons_self) with rfl | isDigit
        · decide
        · rcases Number.exists_digitCharacter isDigit with ⟨digit, rfl⟩
          exact digits digit
      rcases letters with ⟨notI, notN, notS⟩
      simp [readSpecial?, afterWord?_eq_none "inf" rest ⟨'i', _, rfl, notI⟩,
        afterWord?_eq_none "infinity" rest ⟨'i', _, rfl, notI⟩,
        afterWord?_eq_none "nan" rest ⟨'n', _, rfl, notN⟩,
        afterWord?_eq_none "snan" rest ⟨'s', _, rfl, notS⟩]

/-- The digits of a plain number are read whole, unless they are too many. -/
theorem readNumeric_unsigned (number : PlainDecimal) :
    readNumeric number.sign.isMinus (unsigned number.whole number.behind?) =
      if areTooMany number.whole.characters number.behind.characters then .error .malformed
      else .ok number.decimal := by
  have front := takeWhile_unsigned number.whole number.behind?
  have rest := fractionPart_unsigned number.whole number.behind?
  have something :
      (number.whole.characters.isEmpty && number.behind.characters.isEmpty) = false := by
    rw [Bool.and_eq_false_iff]
    simpa [Digits.characters, PlainDecimal.behind] using number.hasDigit
  have length : number.behind.characters.length = number.behind.length := List.length_map _
  simp only [readNumeric, front, rest]
  rw [← PlainDecimal.behind, something, Bool.false_or]
  split
  · rfl
  · rename_i notTooMany
    have held := (areTooMany_iff number).mp (Bool.eq_false_iff.mpr notTooMany)
    have all := held.length_digits_coefficient
    have behind := held.behind
    rw [coefficient] at all
    simp only [exponentPart, length]
    rw [if_neg]
    · rw [decimal, coefficient, Int.zero_sub]
    · simp only [greatestExponent, leastExponent, mostDigits] at all behind ⊢
      omega

variable {number : PlainDecimal}

theorem ofText_characters (number : PlainDecimal) :
    ofText (String.ofList number.characters) =
      if areTooMany number.whole.characters number.behind.characters then .error .malformed
      else .ok number.decimal := by
  rw [ofText_of_solid String.toList_ofList number.characters_ne_nil fun _ => isSolid_of_mem,
    PlainDecimal.characters, takeSign_unsigned number.sign number.hasDigit,
    readSpecial?_unsigned _ number.hasDigit]
  exact readNumeric_unsigned number

/-- A plain number whose digits can be held is read as it is. -/
theorem ofText_of_held (held : number.IsHeld) :
    ofText (String.ofList number.characters) = .ok number.decimal := by
  rw [ofText_characters, (areTooMany_iff number).mpr held]
  rfl

/-- Nothing else is ever read from the characters of a plain number. -/
theorem ofText_eq_ok
    {read : Decimal}
    (answered : ofText (String.ofList number.characters) = .ok read) :
    number.IsHeld ∧ read = number.decimal := by
  rw [ofText_characters] at answered
  split at answered
  · cases answered
  · rename_i notTooMany
    cases answered
    exact ⟨(areTooMany_iff number).mp (Bool.eq_false_iff.mpr notTooMany), rfl⟩

/-! ## The order of numbers -/

theorem scaled_worth
    (negative : Bool)
    (coefficient : Nat)
    {exponent least : Int}
    (below : least ≤ exponent) :
    (scaled negative coefficient exponent least : ℚ) * 10 ^ least =
      signed negative (coefficient * 10 ^ exponent) := by
  have power : (10 : ℚ) ^ (exponent - least).toNat * 10 ^ least = 10 ^ exponent := by
    rw [← zpow_natCast, ← zpow_add₀ (by norm_num)]
    congr 1
    omega
  have magnitude :
      ((coefficient * Nat.pow 10 (exponent - least).toNat : Nat) : ℚ) * 10 ^ least =
        coefficient * 10 ^ exponent := by
    rw [Nat.pow_eq]
    push_cast
    rw [mul_assoc, power]
  cases negative with
  | false => exact magnitude
  | true =>
      simp only [scaled, signed, if_true]
      push_cast at magnitude ⊢
      rw [neg_mul, magnitude]

variable {left right : Decimal} {leftWorth rightWorth : ℚ}

theorem isAtMost_iff
    (leftIs : left.value? = some leftWorth)
    (rightIs : right.value? = some rightWorth) :
    left.isAtMost right = true ↔ leftWorth ≤ rightWorth := by
  cases left with
  | finite negative coefficient exponent =>
      cases right with
      | finite otherNegative other otherExponent =>
          cases leftIs
          cases rightIs
          have scale : (0 : ℚ) < 10 ^ min exponent otherExponent := zpow_pos (by norm_num) _
          rw [isAtMost, decide_eq_true_eq,
            ← scaled_worth negative coefficient (min_le_left exponent otherExponent),
            ← scaled_worth otherNegative other (min_le_right exponent otherExponent),
            mul_le_mul_iff_of_pos_right scale, Int.cast_le]
      | infinite | notANumber => cases rightIs
  | infinite | notANumber => cases leftIs

theorem isEqual_iff
    (leftIs : left.value? = some leftWorth)
    (rightIs : right.value? = some rightWorth) :
    left.isEqual right = true ↔ leftWorth = rightWorth := by
  rw [isEqual, Bool.and_eq_true, isAtMost_iff leftIs rightIs, isAtMost_iff rightIs leftIs,
    le_antisymm_iff]

end Decimal

end Bookkeeping
