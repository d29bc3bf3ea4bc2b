import Bookkeeping.Amount
import Bookkeeping.Proofs.Readings

/-!
# Amounts are exactly what their texts say

A text is read as an amount if and only if it is, apart from blanks around it, a plain
decimal number above zero and below 10 ^ 15 that is a whole number of ten-thousandths, with
no more digits than a decimal number can hold.  The amount is that number, and it is written
with four places.  Every other value that can be written is refused in one way, with the
value as it was given.
-/

namespace Bookkeeping

open PlainDecimal

/-- Whether a number is fit for an amount. -/
def PlainDecimal.IsAmount (number : PlainDecimal) : Prop :=
  0 < number.value ∧ number.value < 10 ^ 15 ∧ ∃ units : Int, 10 ^ 4 * number.value = units

namespace Money

/-- The amount that a value names, if it names one. -/
def ofValue? (value : Value) : Option Money :=
  (Amount.ofValue value).toOption

theorem limit_eq : limit = 10 ^ 19 := by
  norm_num [limit]

theorem cast_ofUnits (negative : Bool) (units : Nat) :
    ((ofUnits negative units : Int) : ℚ) = Decimal.signed negative units := by
  cases negative <;> simp [ofUnits, Decimal.signed]

/-- Units are written by digits for the whole ones of the currency, and by four places. -/
theorem exists_digits (units : Nat) :
    ∃ whole behind : Digits,
      whole.map Fin.val = Number.digits (units / 10000) ∧
        behind.map Fin.val = Number.lastDigits 4 units ∧
        behind.length = 4 ∧
        10 ^ 4 * (whole.whole + behind.fraction) = units := by
  rcases Digits.exists_val (Number.digits_lt_ten (units / 10000)) with ⟨whole, sameWhole⟩
  rcases Digits.exists_val (Number.lastDigits_lt_ten 4 units) with ⟨behind, sameBehind⟩
  have length : behind.length = 4 := by
    rw [← List.length_map (f := Fin.val), sameBehind, Number.length_lastDigits]
  refine ⟨whole, behind, sameWhole, sameBehind, length, ?_⟩
  have divided : ((10000 * (units / 10000) + units % 10 ^ 4 : Nat) : ℚ) = units := by
    rw [show 10000 * (units / 10000) + units % 10 ^ 4 = units by omega]
  have scaled := Digits.scaled_fraction 4 behind
  rw [List.take_of_length_le length.le, List.drop_of_length_le length.le, length,
    ← Digits.ofDigits_val behind, sameBehind, Number.ofDigits_lastDigits] at scaled
  rw [mul_add, scaled, ← Digits.ofDigits_val whole, sameWhole, Number.ofDigits_digits, ← divided]
  push_cast
  simp only [Digits.fraction]
  ring

/-- An amount is written as what it comes to, always with four places. -/
theorem exists_text (amount : Money) :
    ∃ number : PlainDecimal,
      number.characters = amount.text.toList ∧
        (∃ behind, number.behind? = some behind ∧ behind.length = 4) ∧
        10 ^ 4 * number.value = amount := by
  rcases exists_digits amount.natAbs with ⟨whole, behind, sameWhole, sameBehind, length, worth⟩
  have hasDigit : behind ≠ [] := List.ne_nil_of_length_pos (by omega)
  let sign : Sign := if amount < 0 then .minus else .none
  refine ⟨⟨sign, whole, some behind, Or.inr hasDigit⟩, ?_, ⟨behind, rfl, length⟩, ?_⟩
  · have sameSign : sign.characters = (Decimal.signText (amount < 0)).toList := by
      simp only [sign, Decimal.signText]
      split <;> simp_all [Sign.characters]
    rw [text, String.toList_append, ← sameSign, String.toList_ofList, Number.naturalCharacters,
      ← sameWhole, ← sameBehind, List.map_map, List.map_map]
    rfl
  · rw [Nat.cast_natAbs, Int.cast_abs] at worth
    simp only [value, magnitude, Option.getD_some, sign]
    split
    · rename_i negative
      have below : (amount : ℚ) < 0 := by exact_mod_cast negative
      rw [abs_of_neg below] at worth
      simp only [Sign.factor, Sign.isMinus, if_true]
      linarith
    · rename_i nonnegative
      have above : (0 : ℚ) ≤ amount := by exact_mod_cast not_lt.mp nonnegative
      rw [abs_of_nonneg above] at worth
      simp only [Sign.factor, Sign.isMinus, Bool.false_eq_true, if_false]
      linarith

end Money

namespace Amount

/-! ## The grammar -/

theorem dropWhile_unsigned (whole : Digits) (behind? : Option Digits) :
    (unsigned whole behind?).dropWhile Char.isDigit =
      behind?.elim [] fun behind => '.' :: behind.characters := by
  rw [unsigned, List.dropWhile_append_of_pos fun _ => Digits.isDigit_of_mem]
  cases behind? <;> rfl

theorem isPlain_characters (number : PlainDecimal) : isPlain number.characters = true := by
  rcases number with ⟨sign, whole, behind?, hasDigit⟩
  have all (digits : Digits) : digits.characters.all Char.isDigit = true :=
    List.all_eq_true.mpr fun _ => Digits.isDigit_of_mem
  simp only [isPlain, PlainDecimal.characters, Decimal.takeSign_unsigned sign hasDigit,
    Decimal.takeWhile_unsigned, dropWhile_unsigned]
  cases whole with
  | nil =>
      cases behind? with
      | none => simp at hasDigit
      | some behind =>
          cases behind with
          | nil => simp at hasDigit
          | cons digit others => exact all (digit :: others)
  | cons digit others =>
      cases behind? with
      | none => rfl
      | some behind => exact all behind

/-- A plain number is written as its sign, its digits and what stands behind them. -/
theorem characters_of_parts
    {number : PlainDecimal}
    {characters unsigned rest : List Char}
    (divided : characters = number.sign.characters ++ unsigned)
    (parts : number.whole.characters ++ rest = unsigned)
    (isBehind : rest = number.behind?.elim [] fun behind => '.' :: behind.characters) :
    number.characters = characters := by
  rw [divided, ← parts, isBehind]
  rfl

/-- What passes as plain is a sign and digits, perhaps around a point. -/
theorem exists_of_isPlain {characters : List Char} (plain : isPlain characters = true) :
    ∃ number : PlainDecimal, number.characters = characters := by
  rcases Decimal.exists_sign characters with ⟨sign, divided, -⟩
  rw [isPlain] at plain
  generalize (Decimal.takeSign characters).2 = unsigned at divided plain
  have digits : ∀ character ∈ unsigned.takeWhile Char.isDigit, character.isDigit = true :=
    fun _ => List.mem_takeWhile_imp
  have parts : unsigned.takeWhile Char.isDigit ++ unsigned.dropWhile Char.isDigit = unsigned :=
    List.takeWhile_append_dropWhile
  rcases Digits.exists_characters digits with ⟨whole, sameWhole⟩
  simp only [← sameWhole] at plain parts
  cases whole with
  | nil =>
      split at plain
      · rename_i nothing _
        cases nothing
      · rename_i nothing _
        cases nothing
      · rename_i fraction isBehind
        rw [Bool.and_eq_true, List.all_eq_true] at plain
        rcases Digits.exists_characters plain.2 with ⟨behind, rfl⟩
        have something : behind ≠ [] := by
          rintro rfl
          exact absurd plain.1 (by decide)
        exact
          ⟨⟨sign, [], some behind, Or.inr something⟩, characters_of_parts divided parts isBehind⟩
      · cases plain
  | cons digit others =>
      split at plain
      · rename_i nothing
        exact
          ⟨⟨sign, digit :: others, none, Or.inl (List.cons_ne_nil _ _)⟩,
            characters_of_parts divided parts nothing⟩
      · rename_i fraction isBehind
        rcases Digits.exists_characters (List.all_eq_true.mp plain) with ⟨behind, rfl⟩
        exact
          ⟨⟨sign, digit :: others, some behind, Or.inl (List.cons_ne_nil _ _)⟩,
            characters_of_parts divided parts isBehind⟩
      · rename_i nothing _
        cases nothing
      · cases plain

theorem isPlain_iff (characters : List Char) :
    isPlain characters = true ↔ ∃ number : PlainDecimal, number.characters = characters := by
  constructor
  · exact exists_of_isPlain
  · rintro ⟨number, rfl⟩
    exact isPlain_characters number

/-! ## The range and the four places -/

section Number

variable {number : Decimal} {worth : ℚ}

theorem isInRange_iff (is : number.value? = some worth) :
    isInRange number = true ↔ 0 < worth ∧ worth < 10 ^ 15 := by
  have isFinite : number.isFinite = true := by
    cases number with
    | finite => rfl
    | infinite | notANumber => cases is
  have zero : nothing.value? = some 0 := by simp [nothing, Decimal.value?, Decimal.signed]
  have most : tooMuch.value? = some (10 ^ 15) := by
    norm_num [tooMuch, Decimal.value?, Decimal.signed]
  rw [isInRange, isFinite, Bool.true_and, Bool.and_eq_true, Bool.not_eq_true', Bool.not_eq_true',
    ← Bool.not_eq_true, ← Bool.not_eq_true, Decimal.isAtMost_iff is zero,
    Decimal.isAtMost_iff most is, not_le, not_le]

/-- Ten-thousandths nearest to a number in the range are never too many to be rounded to. -/
theorem natAbs_lt_of_nearest
    {units : ℤ}
    (nearest : IsNearest (10 ^ 4 * worth) units)
    (positive : 0 < worth)
    (below : worth < 10 ^ 15) :
    units.natAbs < 10 ^ Decimal.precision := by
  have near := abs_le.mp nearest.within
  have least : (-1 : ℚ) < units := by linarith [near.2]
  have most : (units : ℚ) < 10 ^ 19 + 1 := by linarith [near.1]
  have low : -1 < units := by exact_mod_cast least
  have high : units < 10 ^ 19 + 1 := by exact_mod_cast most
  have limited : units.natAbs < 10 ^ 19 + 1 := by omega
  exact limited.trans (by decide)

/-- A number is the amount that it comes to, or is refused if it is none. -/
theorem ofNumber_eq (value : Value) (is : number.value? = some worth) :
    (∃ amount : Money,
        (0 < worth ∧ worth < 10 ^ 15 ∧ 10 ^ 4 * worth = amount) ∧
          ofNumber value number = .ok amount) ∨
      (¬(0 < worth ∧ worth < 10 ^ 15 ∧ ∃ units : ℤ, 10 ^ 4 * worth = units) ∧
        ofNumber value number = .error (refusal value)) := by
  rw [ofNumber]
  by_cases range : isInRange number = true
  · rcases (isInRange_iff is).mp range with ⟨positive, below⟩
    cases number with
    | infinite | notANumber => cases is
    | finite negative coefficient exponent =>
        rcases Decimal.exists_fixed negative coefficient exponent with
          ⟨units, nearest, same, rounds⟩
        have equal := Decimal.isEqual_iff is same
        rw [Decimal.value?, Option.some.injEq] at is
        have small := natAbs_lt_of_nearest (is ▸ nearest) positive below
        rw [if_pos small] at rounds
        rw [range, rounds]
        simp only [Bool.not_true, Bool.false_eq_true, if_false]
        rw [Decimal.value?_places, Option.some.injEq, div_left_inj' (by norm_num)] at same
        split
        · rename_i exactly
          refine Or.inl ⟨_, ⟨positive, below, ?_⟩, rfl⟩
          rw [equal.mp exactly, Money.cast_ofUnits, same]
          ring
        · rename_i differs
          refine Or.inr ⟨?_, rfl⟩
          rintro ⟨-, -, others, whole⟩
          apply differs
          rw [is, whole] at nearest
          rw [equal, nearest.unique (IsNearest.self others), ← whole]
          ring
  · have outside : ¬(0 < worth ∧ worth < 10 ^ 15) := fun inside =>
      range ((isInRange_iff is).mpr inside)
    rw [Bool.not_eq_true] at range
    rw [range]
    exact Or.inr ⟨fun fit => outside ⟨fit.1, fit.2.1⟩, rfl⟩

end Number

/-! ## Texts and other values -/

theorem refusal_of_writable {value : Value} (writable : value.isWritable = true) :
    refusal value = .invalidAmount value := by
  rw [refusal, Value.written, if_pos writable]

theorem refusal_of_unwritable {value : Value} (unwritable : value.isWritable = false) :
    refusal value = .mismatched .integerUnwritable := by
  rw [refusal, Value.written, if_neg (Bool.eq_false_iff.mp unwritable)]

/-- A text is read as the number that stands in it, or is refused if none does that is fit. -/
theorem ofText_eq (text : String) :
    (∃ (amount : Money) (number : PlainDecimal),
        (number.StandsIn text ∧ number.IsAmount ∧ number.IsHeld ∧
            10 ^ 4 * number.value = amount) ∧
          ofText text = .ok amount) ∨
      ((¬∃ number : PlainDecimal, number.StandsIn text ∧ number.IsAmount ∧ number.IsHeld) ∧
        ofText text = .error (refusal (.text text))) := by
  by_cases plain : isPlain (Text.trimBy Text.isBlank text.toList) = true
  · rcases (isPlain_iff _).mp plain with ⟨number, same⟩
    have stands := (standsIn_iff number text).mpr same.symm
    have only {other : PlainDecimal} (standsToo : other.StandsIn text) :
        number.characters = other.characters :=
      same.trans ((standsIn_iff other text).mp standsToo)
    simp only [ofText, ← same, isPlain_characters number, Bool.not_true, Bool.false_eq_true,
      if_false]
    cases read : Decimal.ofText (String.ofList number.characters) with
    | error unreadable =>
        refine Or.inr ⟨?_, rfl⟩
        rintro ⟨other, standsToo, -, held⟩
        rw [only standsToo, Decimal.ofText_of_held held] at read
        cases read
    | ok found =>
        rcases Decimal.ofText_eq_ok read with ⟨held, rfl⟩
        rcases ofNumber_eq (.text text) number.value?_decimal with
          ⟨amount, ⟨positive, below, worth⟩, answered⟩ | ⟨unfit, refused⟩
        · exact Or.inl ⟨amount, number, ⟨stands, ⟨positive, below, amount, worth⟩, held, worth⟩,
            answered⟩
        · refine Or.inr ⟨?_, refused⟩
          rintro ⟨other, standsToo, fit, -⟩
          rw [IsAmount, ← value_eq_of_characters_eq (only standsToo)] at fit
          exact unfit fit
  · refine Or.inr ⟨?_, ?_⟩
    · rintro ⟨number, stands, -⟩
      rw [(standsIn_iff number text).mp stands] at plain
      exact plain (isPlain_characters number)
    · simp [ofText, plain]

/-- Only texts of plain numbers that are fit for amounts name one, and they name that number. -/
theorem ofValue_eq_ok_iff (value : Value) (amount : Money) :
    ofValue value = .ok amount ↔
      ∃ text, ∃ number : PlainDecimal,
        value = .text text ∧ number.StandsIn text ∧ number.IsAmount ∧ number.IsHeld ∧
          10 ^ 4 * number.value = amount := by
  cases value with
  | text text =>
      simp only [ofValue, Value.text.injEq, exists_and_left, ↓existsAndEq, true_and]
      constructor
      · intro answered
        rcases ofText_eq text with ⟨named, number, fit, answeredToo⟩ | ⟨-, refused⟩
        · rw [answered] at answeredToo
          cases answeredToo
          exact ⟨number, fit⟩
        · rw [refused] at answered
          cases answered
      · rintro ⟨number, stands, fit, held, worth⟩
        rcases ofText_eq text with
          ⟨named, other, ⟨standsToo, -, -, worthToo⟩, answered⟩ | ⟨unfit, -⟩
        · have same : number.characters = other.characters :=
            ((standsIn_iff number text).mp stands).symm.trans
              ((standsIn_iff other text).mp standsToo)
          rw [value_eq_of_characters_eq same, worthToo] at worth
          have exactly : named = amount := by exact_mod_cast worth
          rw [answered, exactly]
        · exact absurd ⟨number, stands, fit, held⟩ unfit
  | _ => simp [ofValue]

/-- What is read as an amount is money above zero that the ledger can hold. -/
theorem ofValue_ok
    {value : Value}
    {amount : Money}
    (named : ofValue value = .ok amount) :
    0 < amount ∧ amount < Money.limit := by
  rcases (ofValue_eq_ok_iff value amount).mp named with
    ⟨-, number, -, -, ⟨positive, below, -⟩, -, worth⟩
  rw [Money.limit_eq]
  constructor
  · have above : (0 : ℚ) < amount := by linarith
    exact_mod_cast above
  · have limited : (amount : ℚ) < 10 ^ 19 := by linarith
    exact_mod_cast limited

/-- A value is read as an amount, or refused. -/
theorem ofValue_total (value : Value) :
    (∃ amount, ofValue value = .ok amount) ∨ ofValue value = .error (refusal value) := by
  cases value with
  | text text =>
      rcases ofText_eq text with ⟨amount, -, -, answered⟩ | ⟨-, refused⟩
      · exact Or.inl ⟨amount, answered⟩
      · exact Or.inr refused
  | _ => exact Or.inr rfl

theorem ofValue_eq_of_named
    {value : Value}
    {amount : Money}
    (named : Money.ofValue? value = some amount) :
    ofValue value = .ok amount := by
  rw [Money.ofValue?] at named
  cases answered : ofValue value with
  | ok found =>
      rw [answered] at named
      cases named
      rfl
  | error failure =>
      rw [answered] at named
      cases named

theorem ofValue_eq_of_unnamed
    {value : Value}
    (unnamed : Money.ofValue? value = none) :
    ofValue value = .error (refusal value) := by
  rcases ofValue_total value with ⟨amount, answered⟩ | refused
  · rw [Money.ofValue?, answered] at unnamed
    cases unnamed
  · exact refused

/-- A number is read from its own characters only if its digits can be held. -/
theorem isHeld_of_named
    {number : PlainDecimal}
    {amount : Money}
    (answered : ofValue (.text (String.ofList number.characters)) = .ok amount) :
    number.IsHeld := by
  rcases (ofValue_eq_ok_iff _ amount).mp answered with
    ⟨text, read, given, stands, -, held, -⟩
  rw [Value.text.injEq] at given
  subst given
  have standsToo : number.StandsIn (String.ofList number.characters) :=
    ⟨[], [], by simp, by simp, by simp⟩
  have same : read.characters = number.characters :=
    ((standsIn_iff read _).mp stands).symm.trans ((standsIn_iff number _).mp standsToo)
  have reads := Decimal.ofText_of_held held
  rw [same] at reads
  exact (Decimal.ofText_eq_ok reads).1

/--
Exactly those values are read as amounts that are texts of plain decimal numbers, above
zero, below 10 ^ 15 and whole numbers of ten-thousandths, with no more digits than can be
held; the amount is that number, and written with four places it still is.  All other
values that can be written are refused as no amounts, and the notice quotes the value as it
was given.
-/
theorem ofValue_reads_plain_decimals (value : Value) :
    (∀ amount,
      ofValue value = .ok amount ↔
        ∃ text, ∃ number : PlainDecimal,
          value = .text text ∧ number.StandsIn text ∧ number.IsAmount ∧ number.IsHeld ∧
            10 ^ 4 * number.value = amount) ∧
      (∀ amount text, ∀ number : PlainDecimal,
        ofValue value = .ok amount → value = .text text → number.StandsIn text →
          ∃ written : PlainDecimal,
            written.characters = amount.text.toList ∧
              (∃ behind, written.behind? = some behind ∧ behind.length = 4) ∧
              written.value = number.value) ∧
      (value.isWritable = true →
        (¬∃ text, ∃ number : PlainDecimal,
            value = .text text ∧ number.StandsIn text ∧ number.IsAmount ∧ number.IsHeld) →
          ofValue value = .error (.invalidAmount value)) ∧
      ∀ failure,
        value.isWritable = true → ofValue value = .error failure →
          ∃ notice,
            failure.report = .ofLedger notice ∧ notice.kind = .invalidAmount ∧
              notice.details = [("value", .text value.shown)] := by
  refine ⟨ofValue_eq_ok_iff value, ?_, ?_, ?_⟩
  · rintro amount text number answered rfl stands
    rcases (ofValue_eq_ok_iff _ amount).mp answered with
      ⟨same, read, given, standsRead, -, -, worth⟩
    cases given
    have characters : number.characters = read.characters := by
      rw [← (standsIn_iff number text).mp stands, (standsIn_iff read text).mp standsRead]
    rcases Money.exists_text amount with ⟨written, sameText, places, worthWritten⟩
    refine ⟨written, sameText, places, ?_⟩
    rw [value_eq_of_characters_eq characters]
    linarith
  · intro writable unfit
    rcases ofValue_total value with ⟨amount, answered⟩ | refused
    · rcases (ofValue_eq_ok_iff value amount).mp answered with
        ⟨text, number, given, stands, fit, held, -⟩
      exact absurd ⟨text, number, given, stands, fit, held⟩ unfit
    · rw [refused, refusal_of_writable writable]
  · intro failure writable failed
    rcases ofValue_total value with ⟨amount, answered⟩ | refused
    · rw [answered] at failed
      cases failed
    · rw [refused, refusal_of_writable writable] at failed
      cases failed
      exact ⟨.invalidAmount value, rfl, rfl, rfl⟩

end Amount

namespace Sample

/-- The rule at work: half a unit between blanks, with a sign and nothing before the point. -/
theorem amount_between_blanks :
    Amount.ofValue (.text "\t+.5 ") = .ok 5000 ∧
      (∃ written : PlainDecimal,
        written.characters = (Money.text 5000).toList ∧ written.value = 1 / 2) ∧
      Amount.ofValue (.bool true) = .error (.invalidAmount (.bool true)) := by
  let half : PlainDecimal := ⟨.plus, [], some [5], Or.inr (by decide)⟩
  have worth : half.value = 1 / 2 := by
    have five : ((5 : Fin 10) : ℚ) = 5 := rfl
    norm_num [half, value, magnitude, Sign.factor, Sign.isMinus, Digits.whole, Digits.fraction,
      five]
  have stands : half.StandsIn "\t+.5 " :=
    ⟨['\t'], [' '], by decide, List.forall_mem_singleton.mpr (by decide),
      List.forall_mem_singleton.mpr (by decide)⟩
  have fit : half.IsAmount := by
    refine ⟨?_, ?_, 5000, ?_⟩ <;> norm_num [worth]
  have held : half.IsHeld := ⟨by decide, by decide⟩
  rcases Amount.ofValue_reads_plain_decimals (.text "\t+.5 ") with ⟨reads, writes, -, -⟩
  have answered : Amount.ofValue (.text "\t+.5 ") = .ok 5000 :=
    (reads 5000).mpr ⟨"\t+.5 ", half, rfl, stands, fit, held, by norm_num [worth]⟩
  rcases writes 5000 "\t+.5 " half answered rfl stands with ⟨written, sameText, -, same⟩
  rcases Amount.ofValue_reads_plain_decimals (.bool true) with ⟨-, -, refuses, -⟩
  refine ⟨answered, ⟨written, sameText, same.trans worth⟩, refuses rfl ?_⟩
  rintro ⟨text, number, given, -⟩
  cases given

/-- Half a unit, written with one digit more than can be held. -/
def longHalf : PlainDecimal :=
  ⟨.none, [], some (5 :: List.replicate Decimal.mostDigits 0), Or.inr (List.cons_ne_nil _ _)⟩

theorem not_isHeld_longHalf : ¬longHalf.IsHeld := by
  intro held
  have length : longHalf.behind.length = Decimal.mostDigits + 1 := by
    rw [PlainDecimal.behind, longHalf, Option.getD_some, List.length_cons, List.length_replicate]
  have most := held.behind
  omega

theorem isAmount_longHalf : longHalf.IsAmount := by
  have zeros : Digits.fraction (List.replicate Decimal.mostDigits 0) = 0 :=
    (Digits.fraction_eq_zero_iff _).mpr fun _ => List.eq_of_mem_replicate
  have five : ((5 : Fin 10) : ℚ) = 5 := rfl
  have worth : longHalf.value = 1 / 2 := by
    rw [value, magnitude, longHalf, Option.getD_some, Digits.fraction, zeros, Digits.whole, five]
    norm_num [Sign.factor, Sign.isMinus]
  refine ⟨?_, ?_, 5000, ?_⟩ <;> norm_num [worth]

/-- A separator before a digit is no white space before a plain number. -/
theorem separator_not_white
    {number : PlainDecimal}
    {front back : List Char}
    (divided : ['\x1c', '5'] = front ++ number.characters ++ back)
    (white : ∀ character ∈ front, Text.isWhiteSpace character = true) :
    False := by
  cases front with
  | nil =>
      have first : '\x1c' ∈ number.characters := by
        cases written : number.characters with
        | nil => exact absurd written number.characters_ne_nil
        | cons character rest =>
            rw [written] at divided
            rw [(List.cons.inj divided).1]
            exact List.mem_cons_self
      exact absurd (isBlank_of_mem first) (by decide)
  | cons character rest =>
      have notWhite := white character List.mem_cons_self
      rw [← (List.cons.inj divided).1] at notWhite
      exact absurd notWhite (by decide)

/-- An integer with one digit more than can be written. -/
def longInteger : Value := .int (10 ^ Number.longestInteger)

theorem isWritable_longInteger : longInteger.isWritable = false := by
  have power (digits : Nat) : ((10 : Int) ^ digits).natAbs = Nat.pow 10 digits :=
    Int.natAbs_pow 10 digits
  rw [longInteger, Value.isWritable, decide_eq_false_iff_not, power]
  exact Nat.lt_irrefl _

/-- No integer names an amount, however many digits it has. -/
theorem ofValue?_longInteger : Money.ofValue? longInteger = none :=
  rfl

/--
Information separators are stripped like white space, though they are none.  A number that is
fit for an amount is refused where its digits are too many to be held.  And a value that has
no text, being an integer of too many digits, cannot be refused as no amount.
-/
theorem amounts_beyond_grammar :
    (Amount.ofValue (.text "\x1c5") = .ok 50000 ∧
        ¬∃ (number : PlainDecimal) (front back : List Char),
          "\x1c5".toList = front ++ number.characters ++ back ∧
            (∀ character ∈ front, Text.isWhiteSpace character = true) ∧
            ∀ character ∈ back, Text.isWhiteSpace character = true) ∧
      (longHalf.IsAmount ∧
        ∀ amount, Amount.ofValue (.text (String.ofList longHalf.characters)) ≠ .ok amount) ∧
      ∃ mismatch,
        Amount.ofValue longInteger = .error (.mismatched mismatch) ∧
          mismatch.name = "ValueError" := by
  have stripped : Money.ofValue? (.text "\x1c5") = some 50000 := by decide +kernel
  refine ⟨⟨Amount.ofValue_eq_of_named stripped, ?_⟩, ⟨isAmount_longHalf, ?_⟩,
    .integerUnwritable, ?_, rfl⟩
  · rintro ⟨number, front, back, divided, white, -⟩
    exact separator_not_white divided white
  · intro amount answered
    exact not_isHeld_longHalf (Amount.isHeld_of_named answered)
  · rw [Amount.ofValue_eq_of_unnamed ofValue?_longInteger,
      Amount.refusal_of_unwritable isWritable_longInteger]

end Sample

end Bookkeeping
