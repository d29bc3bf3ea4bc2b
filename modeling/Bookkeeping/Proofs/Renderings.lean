import Bookkeeping.Proofs.Amounts

/-!
# Written amounts are read back

An amount is written with four places by one function and read by two: by the strict grammar
of amounts, and by the lenient one of decimal numbers.  All that is ever written is a plain
decimal number with four digits behind the point, perhaps below zero, or the mark that stands
for no number.  Both readers give a written amount back, so that it makes no difference through
how many hands it goes, nor in which of its forms it came first.
-/

namespace Bookkeeping

open PlainDecimal

/-! ## The last digits of a number -/

namespace Number

/-- It is enough that there are as many steps as digits. -/
theorem digitsWithin_eq
    {fuel others number : Nat}
    (enough : number ≤ fuel)
    (enoughToo : number ≤ others) :
    digitsWithin fuel number = digitsWithin others number := by
  induction fuel generalizing others number with
  | zero =>
      have isZero : number = 0 := by omega
      cases others <;> simp [digitsWithin, isZero]
  | succ fuel hypothesis =>
      cases others with
      | zero =>
          have isZero : number = 0 := by omega
          simp [digitsWithin, isZero]
      | succ others =>
          rw [digitsWithin, digitsWithin]
          split
          · rfl
          · have shorter : number / 10 ≤ fuel ∧ number / 10 ≤ others := by omega
            rw [hypothesis shorter.1 shorter.2]

theorem digits_of_lt {number : Nat} (small : number < 10) : digits number = [number] := by
  rw [digits, digitsWithin_eq le_rfl (Nat.le_succ number), digitsWithin, if_pos small]

theorem digits_of_le {number : Nat} (large : 10 ≤ number) :
    digits number = digits (number / 10) ++ [number % 10] := by
  rw [digits, digitsWithin_eq le_rfl (Nat.le_succ number), digitsWithin, if_neg (by omega),
    digitsWithin_eq (Nat.div_le_self number 10) le_rfl, digits]

/-- The digits of a number that is long enough end with the last ones. -/
theorem digits_append_lastDigits
    (width number : Nat)
    (long : 10 ^ width ≤ number) :
    digits (number / 10 ^ width) ++ lastDigits width number = digits number := by
  induction width generalizing number with
  | zero => simp [lastDigits]
  | succ width hypothesis =>
      have power : 10 ^ width * 10 = 10 ^ (width + 1) := (Nat.pow_succ ..).symm
      have some : 0 < 10 ^ width := Nat.pow_pos (by decide)
      have shorter : 10 ^ width ≤ number / 10 := by
        rw [Nat.le_div_iff_mul_le (by decide)]
        omega
      rw [lastDigits, ← List.append_assoc, ← power, Nat.mul_comm, ← Nat.div_div_eq_div_mul,
        hypothesis _ shorter, ← digits_of_le (by omega)]

theorem lastDigits_zero (width : Nat) : lastDigits width 0 = List.replicate width 0 := by
  induction width with
  | zero => rfl
  | succ width hypothesis =>
      rw [lastDigits, Nat.zero_div, hypothesis, Nat.zero_mod, List.replicate_succ']

/-- A number that is not longer fills its last digits up with zeros. -/
theorem replicate_append_digits
    (width number : Nat)
    (short : number < 10 ^ (width + 1)) :
    List.replicate (width + 1 - (digits number).length) 0 ++ digits number =
      lastDigits (width + 1) number := by
  induction width generalizing number with
  | zero =>
      have small : number < 10 := by simpa using short
      simp [digits_of_lt small, lastDigits, Nat.mod_eq_of_lt small]
  | succ width hypothesis =>
      rw [lastDigits]
      by_cases small : number < 10
      · rw [digits_of_lt small, List.length_singleton, Nat.add_sub_cancel,
          Nat.div_eq_of_lt small, lastDigits_zero, Nat.mod_eq_of_lt small]
      · have shorter : number / 10 < 10 ^ (width + 1) := by
          rw [Nat.div_lt_iff_lt_mul (by decide), ← Nat.pow_succ]
          exact short
        rw [digits_of_le (not_lt.mp small), List.length_append, List.length_singleton,
          Nat.add_sub_add_right, ← List.append_assoc, hypothesis _ shorter]

theorem lt_length_digits
    {width number : Nat}
    (long : 10 ^ width ≤ number) :
    width < (digits number).length := by
  have positive : 0 < number := Nat.lt_of_lt_of_le (Nat.pow_pos (by decide)) long
  exact (lt_length_digits_add_iff positive 0 width).mpr (by simpa using long)

end Number

/-! ## What is written -/

namespace Decimal

/-- The text of units, whole ones of the currency in front of the point and four places behind. -/
def unitsText (units : Nat) : String :=
  String.ofList (Number.naturalCharacters (units / 10000) ++
    '.' :: (Number.lastDigits 4 units).map Number.digitCharacter)

theorem isEmpty_places (units : Nat) :
    ((Number.lastDigits 4 units).map Number.digitCharacter).isEmpty = false := by
  simp [Number.lastDigits]

/-- With at most four digits all of them stand behind the point, after zeros. -/
theorem text_of_short
    (negative : Bool)
    {units : Nat}
    (short : units < 10 ^ 4) :
    text (.finite negative units (-4)) = signText negative ++ unitsText units := by
  have some := Number.length_digits_pos units
  have few := Number.length_digits_le 3 short
  have positional : (-4 : Int) ≤ 0 ∧ -6 < -4 + ((Number.digits units).length : Int) := by omega
  have low : -4 + ((Number.digits units).length : Int) ≤ 0 := by omega
  have zeros :
      (-4 + ((Number.digits units).length : Int)).natAbs = 4 - (Number.digits units).length := by
    omega
  have whole : Number.naturalCharacters (units / 10000) = ['0'] := by
    rw [show units / 10000 = 0 by omega]
    rfl
  have behind :
      List.replicate (4 - (Number.digits units).length) '0' ++
          (Number.digits units).map Number.digitCharacter =
        (Number.lastDigits 4 units).map Number.digitCharacter := by
    rw [← Number.replicate_append_digits 3 units short, List.map_append, List.map_replicate]
    rfl
  rw [text, finiteText, unitsText, whole]
  simp only [Number.naturalCharacters, List.length_map, if_pos positional, if_pos low, zeros,
    behind, isEmpty_places, Bool.false_eq_true, ↓reduceIte]
  exact String.append_empty

/-- With more digits the last four of them stand behind the point. -/
theorem text_of_long
    (negative : Bool)
    {units : Nat}
    (long : 10 ^ 4 ≤ units) :
    text (.finite negative units (-4)) = signText negative ++ unitsText units := by
  have many := Number.lt_length_digits long
  have positional : (-4 : Int) ≤ 0 ∧ -6 < -4 + ((Number.digits units).length : Int) := by omega
  have high : ¬-4 + ((Number.digits units).length : Int) ≤ 0 := by omega
  have divided :
      (Number.digits units).map Number.digitCharacter =
        Number.naturalCharacters (units / 10000) ++
          (Number.lastDigits 4 units).map Number.digitCharacter := by
    rw [← Number.digits_append_lastDigits 4 units long, List.map_append]
    rfl
  have front :
      (-4 + ((Number.digits units).length : Int)).toNat =
        (Number.naturalCharacters (units / 10000)).length := by
    have lengths := congrArg List.length divided
    rw [List.length_append, List.length_map, List.length_map, Number.length_lastDigits] at lengths
    omega
  rw [text, finiteText, unitsText]
  simp only [Number.naturalCharacters, List.length_map, if_pos positional, if_neg high, ↓reduceIte]
  simp only [divided, front, List.take_left, List.drop_left, isEmpty_places, Bool.false_eq_true,
    ↓reduceIte]
  exact String.append_empty

/-- Four places are always written out, and no power of ten is. -/
theorem text_places (negative : Bool) (units : Nat) :
    text (.finite negative units (-4)) = signText negative ++ unitsText units := by
  rcases Nat.lt_or_ge units (10 ^ 4) with short | long
  · exact text_of_short negative short
  · exact text_of_long negative long

/-- What is written is a plain number with four places, as which it can be held. -/
theorem exists_plain_text
    (negative : Bool)
    {units : Nat}
    (small : units < 10 ^ precision) :
    ∃ number : PlainDecimal,
      (text (.finite negative units (-4))).toList = number.characters ∧
        number.IsHeld ∧ number.decimal = .finite negative units (-4) := by
  rcases Money.exists_digits units with ⟨whole, behind, sameWhole, sameBehind, length, -⟩
  have hasDigit : whole ≠ [] ∨ (some behind).getD [] ≠ [] :=
    Or.inr (List.ne_nil_of_length_pos (by rw [Option.getD_some]; omega))
  let sign : Sign := if negative then .minus else .none
  have sameSign : sign.characters = (signText negative).toList ∧ sign.isMinus = negative := by
    cases negative <;> exact ⟨rfl, rfl⟩
  let number : PlainDecimal := ⟨sign, whole, some behind, hasDigit⟩
  refine ⟨number, ?_, ⟨?_, ?_⟩, ?_⟩
  · rw [text_places, String.toList_append, unitsText, String.toList_ofList, PlainDecimal.characters,
      sameSign.1, Number.naturalCharacters, ← sameWhole, ← sameBehind, List.map_map, List.map_map]
    rfl
  · have few : whole.length ≤ 28 := by
      rw [← List.length_map (f := Fin.val), sameWhole]
      exact Number.length_digits_le 27 ((Nat.div_le_self units 10000).trans_lt small)
    have all : (whole ++ behind).length ≤ 32 := by
      rw [List.length_append]
      omega
    exact ((List.dropWhile_suffix _).length_le.trans all).trans (by decide)
  · rw [PlainDecimal.behind, Option.getD_some, length]
    decide
  · have digits : number.coefficient = units := by
      rw [coefficient_eq, PlainDecimal.behind, Option.getD_some, List.map_append,
        Number.ofDigits_append, List.length_map, length, sameWhole, sameBehind,
        Number.ofDigits_digits, Number.ofDigits_lastDigits]
      omega
    rw [PlainDecimal.decimal, digits, sameSign.2, PlainDecimal.behind, Option.getD_some, length]
    rfl

/-! ## What is read -/

/-- What was written with four places is read back. -/
theorem ofText_text_places
    (negative : Bool)
    {units : Nat}
    (small : units < 10 ^ precision) :
    ofText (text (.finite negative units (-4))) = .ok (.finite negative units (-4)) := by
  rcases exists_plain_text negative small with ⟨number, written, held, same⟩
  rw [← String.ofList_toList (s := text _), written, ofText_of_held held, same]

theorem exists_naturalCharacters (number : Nat) :
    ∃ digits : Digits,
      digits.characters = Number.naturalCharacters number ∧
        digitsNumber digits.characters = number := by
  rcases Digits.exists_val (Number.digits_lt_ten number) with ⟨digits, same⟩
  refine ⟨digits, ?_, ?_⟩
  · rw [Number.naturalCharacters, ← same, List.map_map]
    rfl
  · rw [digitsNumber, Digits.map_toNat_characters, same, Number.ofDigits_digits]

/-- The mark that stands for no number is read as one, with the digits that it carries. -/
theorem readSpecial?_mark (negative : Bool) (digits : Digits) :
    readSpecial? negative ('N' :: 'a' :: 'N' :: digits.characters) =
      some (.notANumber negative false (digitsNumber digits.characters)) := by
  have follows :
      afterWord? "nan" ('N' :: 'a' :: 'N' :: digits.characters) = some digits.characters := rfl
  have all : digits.characters.all Char.isDigit = true :=
    List.all_eq_true.mpr fun _ => Digits.isDigit_of_mem
  have other : 'N'.toLower ≠ 'i' := by decide
  simp [readSpecial?, follows, all, afterWord?_eq_none "inf" _ ⟨'i', _, rfl, other⟩,
    afterWord?_eq_none "infinity" _ ⟨'i', _, rfl, other⟩]

/-- A written mark that stands for no number is read back. -/
theorem ofText_text_mark (negative : Bool) (payload : Nat) :
    ofText (text (.notANumber negative false payload)) =
      .ok (.notANumber negative false payload) := by
  have carried :
      ∃ digits : Digits,
        digits.characters =
            (if payload = 0 then "" else Number.naturalText payload).toList ∧
          digitsNumber digits.characters = payload := by
    split
    · rename_i nothing
      exact ⟨[], rfl, nothing.symm⟩
    · rw [Number.naturalText, String.toList_ofList]
      exact exists_naturalCharacters payload
  rcases carried with ⟨digits, written, worth⟩
  let mark := 'N' :: 'a' :: 'N' :: digits.characters
  have same :
      (text (.notANumber negative false payload)).toList = (signText negative).toList ++ mark := by
    rw [text, String.toList_append, String.toList_append, ← written, List.append_assoc]
    rfl
  have solid : ∀ character ∈ (signText negative).toList ++ mark, IsSolid character := by
    have letters : IsSolid '-' ∧ IsSolid 'N' ∧ IsSolid 'a' := by
      refine ⟨?_, ?_, ?_⟩ <;> constructor <;> decide
    rcases letters with ⟨minus, capital, small⟩
    have marked : ∀ character ∈ mark, IsSolid character := by
      simp only [mark, List.forall_mem_cons]
      exact ⟨capital, small, capital, fun _ member =>
        isSolid_of_isDigit (Digits.isDigit_of_mem member)⟩
    cases negative with
    | false => exact marked
    | true => exact List.forall_mem_cons.mpr ⟨minus, marked⟩
  have divided : takeSign ((signText negative).toList ++ mark) = (negative, mark) := by
    cases negative <;> rfl
  rw [ofText_of_solid same (by simp [mark]) solid, divided, readSpecial?_mark, worth]

variable {decimal rounded : Decimal}

/-- Whatever is rounded is written so that it is read back. -/
theorem ofText_text_of_fixed? (fixed : decimal.fixed? = some rounded) :
    ofText rounded.text = .ok rounded := by
  rcases shape_of_fixed? fixed with ⟨negative, units, small, rfl⟩ | ⟨negative, payload, -, rfl⟩
  · exact ofText_text_places negative small
  · exact ofText_text_mark negative payload

end Decimal

/-! ## Amounts and money -/

namespace Money

variable {amount : Money}

theorem text_decimal (amount : Money) : amount.decimal.text = amount.text :=
  Decimal.text_places (amount < 0) amount.natAbs

theorem natAbs_lt_of_lt_limit
    (positive : 0 < amount)
    (below : amount < 10 ^ 19) :
    amount.natAbs < 10 ^ Decimal.precision := by
  have limited : amount.natAbs < (10 ^ 19 : Int).natAbs :=
    Int.natAbs_lt_natAbs_of_nonneg_of_lt positive.le below
  exact limited.trans (by decide)

/-- Money above zero has one rounded form, in whatever form it came. -/
theorem fixed?_eq_decimal
    {number : Decimal}
    (positive : 0 < amount)
    (small : amount.natAbs < 10 ^ Decimal.precision)
    (worth : number.value? = some ((amount : ℚ) / 10 ^ 4)) :
    number.fixed? = some amount.decimal := by
  have above : (0 : ℚ) < amount := by exact_mod_cast positive
  have rounds := Decimal.exists_fixed_of_units small worth
  rcases rounds with ⟨rounded, fixed, same⟩
  rcases Decimal.shape_of_fixed? fixed with ⟨negative, units, -, rfl⟩ | ⟨negative, payload, -, rfl⟩
  · rw [Decimal.value?_places, Option.some.injEq, div_left_inj' (by norm_num)] at same
    cases negative with
    | false =>
        have exactly : (units : Int) = amount := by
          rw [Decimal.signed, if_neg Bool.false_ne_true] at same
          exact_mod_cast same
        rw [fixed, decimal, ← exactly, decide_eq_false (not_lt.mpr (Int.natCast_nonneg units)),
          Int.natAbs_natCast]
    | true =>
        have nonneg : (0 : ℚ) ≤ units := Nat.cast_nonneg units
        rw [Decimal.signed, if_pos rfl] at same
        linarith
  · cases same

/-- Whatever says money above zero is written as that money. -/
theorem fixedText_of_value
    {value : Value}
    {number : Decimal}
    (positive : 0 < amount)
    (below : amount < 10 ^ 19)
    (given : value.number = .ok number)
    (worth : number.value? = some ((amount : ℚ) / 10 ^ 4)) :
    value.fixedText = .ok amount.text := by
  have rounds := fixed?_eq_decimal positive (natAbs_lt_of_lt_limit positive below) worth
  rw [Value.fixedText, (Value.fixed_ok_iff value amount.decimal).mpr ⟨number, given, rounds⟩,
    ← text_decimal]
  rfl

theorem fixedText_decimal
    (positive : 0 < amount)
    (below : amount < 10 ^ 19) :
    (Value.decimal amount.decimal).fixedText = .ok amount.text :=
  fixedText_of_value positive below rfl amount.value?_decimal

end Money

namespace Value

theorem number_text (text : String) : (Value.text text).number = readDecimal text :=
  rfl

theorem number_int
    {number : Int}
    (short : number.natAbs < Nat.pow 10 Number.longestInteger) :
    (Value.int number).number = readDecimal (Number.integerText number) := by
  have writable : (Value.int number).isWritable = true := by
    rw [isWritable]
    exact decide_eq_true short
  simp only [Value.number, written, writable, if_true]
  rfl

theorem fixedText_ok_iff (value : Value) (text : String) :
    value.fixedText = .ok text ↔
      ∃ number rounded,
        value.number = .ok number ∧ number.fixed? = some rounded ∧ rounded.text = text := by
  constructor
  · intro written
    rw [fixedText] at written
    cases fixed : value.fixed with
    | error mismatch =>
        rw [fixed] at written
        cases written
    | ok rounded =>
        rw [fixed] at written
        rcases (fixed_ok_iff value rounded).mp fixed with ⟨number, given, rounds⟩
        exact ⟨number, rounded, given, rounds, Except.ok.inj written⟩
  · rintro ⟨number, rounded, given, rounds, rfl⟩
    rw [fixedText, (fixed_ok_iff value rounded).mpr ⟨number, given, rounds⟩]
    rfl

/-- What was written with four places is written the same when it comes as a text. -/
theorem fixedText_text
    {value : Value}
    {text : String}
    (written : value.fixedText = .ok text) :
    (Value.text text).fixedText = .ok text := by
  rcases (fixedText_ok_iff value text).mp written with ⟨number, rounded, -, rounds, rfl⟩
  have read : (Value.text rounded.text).number = .ok rounded := by
    rw [number_text, readDecimal, Decimal.ofText_text_of_fixed? rounds]
  exact (fixedText_ok_iff _ _).mpr ⟨rounded, rounded, read, Decimal.fixed?_fixed? rounds, rfl⟩

end Value

namespace Amount

/-- Money above zero that the ledger can hold is read back from its text as an amount. -/
theorem ofValue_text
    {amount : Money}
    (positive : 0 < amount)
    (below : amount < 10 ^ 19) :
    ofValue (.text amount.text) = .ok amount := by
  have small := Money.natAbs_lt_of_lt_limit positive below
  rcases Decimal.exists_plain_text (amount < 0) small with ⟨number, written, held, same⟩
  have worth := number.value?_decimal
  rw [same, ← Money.decimal, Money.value?_decimal, Option.some.injEq] at worth
  have scaled : 10 ^ 4 * number.value = amount := by
    rw [← worth]
    ring
  have least : (0 : ℚ) < amount := by exact_mod_cast positive
  have greatest : (amount : ℚ) < 10 ^ 19 := by exact_mod_cast below
  have stands : number.StandsIn amount.text := by
    rw [← Money.text_decimal, Money.decimal]
    exact ⟨[], [], by simp [written], by simp, by simp⟩
  exact (ofValue_eq_ok_iff _ amount).mpr ⟨_, number, rfl, stands,
    ⟨by linarith, by linarith, amount, scaled⟩, held, scaled⟩

/-- An accepted amount is the number that stands in the text. -/
theorem worth_of_ofValue
    {text : String}
    {amount : Money}
    {number : PlainDecimal}
    (accepted : ofValue (.text text) = .ok amount)
    (stands : number.StandsIn text) :
    10 ^ 4 * number.value = amount := by
  rcases (ofValue_eq_ok_iff _ amount).mp accepted with ⟨given, read, same, standsRead, -, -, worth⟩
  cases same
  have characters : number.characters = read.characters := by
    rw [← (standsIn_iff number text).mp stands, (standsIn_iff read text).mp standsRead]
  rw [value_eq_of_characters_eq characters, worth]

/--
Money above zero that the ledger can hold is accepted back from its text, in whatever form it is
written there.  The text of an accepted amount is accepted again as that amount, and it is the
same for all texts of one number.  And what was written once with four places is not written
otherwise when it is given as a text, whatever value it was.
-/
theorem text_round_trips :
    (∀ (amount : Money) (value : Value) (number : Decimal),
      0 < amount → amount < 10 ^ 19 → value.number = .ok number →
        number.value? = some ((amount : ℚ) / 10 ^ 4) →
          ∃ text, value.fixedText = .ok text ∧ ofValue (.text text) = .ok amount) ∧
      (∀ (value : Value) (amount : Money),
        ofValue value = .ok amount →
          ∃ text,
            (Value.decimal amount.decimal).fixedText = .ok text ∧
              ofValue (.text text) = .ok amount) ∧
      (∀ (text other : String) (amount otherAmount : Money) (number otherNumber : PlainDecimal),
        ofValue (.text text) = .ok amount → ofValue (.text other) = .ok otherAmount →
          number.StandsIn text → otherNumber.StandsIn other →
            number.value = otherNumber.value →
              (Value.decimal amount.decimal).fixedText =
                (Value.decimal otherAmount.decimal).fixedText) ∧
      ∀ (value : Value) (text : String),
        value.fixedText = .ok text → (Value.text text).fixedText = .ok text := by
  refine ⟨?_, ?_, ?_, fun value text => Value.fixedText_text⟩
  · intro amount value number positive below given worth
    exact ⟨amount.text, Money.fixedText_of_value positive below given worth,
      ofValue_text positive below⟩
  · intro value amount accepted
    rcases ofValue_ok accepted with ⟨positive, below⟩
    rw [Money.limit_eq] at below
    exact ⟨amount.text, Money.fixedText_decimal positive below, ofValue_text positive below⟩
  · intro text other amount otherAmount number otherNumber accepted acceptedToo stands standsToo
      same
    have units : (amount : ℚ) = otherAmount := by
      rw [← worth_of_ofValue accepted stands, ← worth_of_ofValue acceptedToo standsToo, same]
    have exactly : amount = otherAmount := by exact_mod_cast units
    rw [exactly]

end Amount

namespace Sample

/-- The rule at work: digits of another script, skipped characters and a power of ten. -/
theorem lenient_text_round_trips :
    (Value.text "-١_٢e-5").fixedText = .ok "-0.0001" ∧
      (Value.text "-0.0001").fixedText = .ok "-0.0001" ∧
      ∃ text, (Value.int 21).fixedText = .ok text ∧ Amount.ofValue (.text text) = .ok 210000 := by
  have written : (Value.text "-١_٢e-5").fixedText = .ok "-0.0001" := rfl
  rcases Amount.text_round_trips with ⟨accepts, -, -, again⟩
  refine ⟨written, again _ _ written, ?_⟩
  have number : (Value.int 21).number = .ok (.finite false 21 0) :=
    Value.number_int (by decide +kernel)
  exact accepts 210000 (.int 21) (.finite false 21 0) (by decide) (by decide) number
    (by norm_num [Decimal.value?, Decimal.signed])

end Sample

end Bookkeeping
