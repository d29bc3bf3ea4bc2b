import Bookkeeping.Fixed
import Bookkeeping.Money
import Bookkeeping.Proofs.Numerals
import Mathlib.Algebra.Order.Ring.Abs
import Mathlib.Tactic.FieldSimp

/-!
# Rounding to four places

A decimal number is brought to four places by the nearest multiple of a ten-thousandth, and by
the even one of two that are equally near.  That is said of the number itself, a rational one,
and not of its digits: however many of them are dropped or appended, nothing is rounded twice.
Whether the result has more than twenty-eight digits is asked of the result as well.

Rounding to the nearest whole number is the same for both signs and keeps the order, and it
leaves whole numbers alone.  Everything else about four places follows.
-/

namespace Bookkeeping

/-! ## The nearest whole number -/

/-- No whole number is nearer to a number, and where another one is as near this one is even. -/
structure IsNearest (number : ℚ) (whole : ℤ) : Prop where
  nearest : ∀ other : ℤ, |number - whole| ≤ |number - other|
  even : ∀ other : ℤ, other ≠ whole → |number - other| = |number - whole| → Even whole

namespace IsNearest

variable {number : ℚ} {whole : ℤ}

/-- The nearest whole number lies within half of one. -/
theorem within (nearest : IsNearest number whole) : |number - whole| ≤ 1 / 2 := by
  have above := nearest.nearest (whole + 1)
  have below := nearest.nearest (whole - 1)
  push_cast at above below
  rw [abs_le]
  rcases abs_cases (number - whole) with ⟨same, sign⟩ | ⟨same, sign⟩
  · rcases abs_cases (number - (whole + 1)) with ⟨other, otherSign⟩ | ⟨other, otherSign⟩
    · constructor <;> linarith
    · constructor <;> linarith
  · rcases abs_cases (number - (whole - 1)) with ⟨other, otherSign⟩ | ⟨other, otherSign⟩
    · constructor <;> linarith
    · constructor <;> linarith

/-- Half way between two whole numbers both are equally near. -/
theorem even_of_tie
    (nearest : IsNearest number whole)
    (tie : |number - whole| = 1 / 2) :
    Even whole := by
  rcases abs_cases (number - whole) with ⟨same, -⟩ | ⟨same, -⟩
  · refine nearest.even (whole + 1) (by omega) ?_
    have other : number - (whole + 1 : ℤ) = -(1 / 2) := by
      push_cast
      linarith
    rw [other, tie, abs_neg, abs_of_pos (by norm_num)]
  · refine nearest.even (whole - 1) (by omega) ?_
    have other : number - (whole - 1 : ℤ) = 1 / 2 := by
      push_cast
      linarith
    rw [other, tie, abs_of_pos (by norm_num)]

/-- Any other whole number is at least one away. -/
theorem one_le_of_ne
    (number : ℚ)
    {whole other : ℤ}
    (different : other ≠ whole) :
    1 ≤ |number - whole| + |number - other| := by
  have apart : (1 : ℚ) ≤ |(other : ℚ) - whole| := by
    exact_mod_cast Int.one_le_abs (sub_ne_zero.mpr different)
  have around := abs_sub_le (other : ℚ) number whole
  rw [abs_sub_comm (other : ℚ) number] at around
  linarith

/-- What lies within half of a whole number is nearest to it, and on the border if it is even. -/
theorem of_within
    (within : |number - whole| ≤ 1 / 2)
    (even : |number - whole| = 1 / 2 → Even whole) :
    IsNearest number whole where
  nearest other := by
    by_cases same : other = whole
    · rw [same]
    · have apart := one_le_of_ne number same
      linarith
  even other different tie := by
    have apart := one_le_of_ne number different
    exact even (le_antisymm within (by linarith))

/-- A number has only one nearest whole number. -/
theorem unique
    {other : ℤ}
    (nearest : IsNearest number whole)
    (nearestToo : IsNearest number other) :
    whole = other := by
  by_contra different
  have tie : |number - other| = |number - whole| :=
    le_antisymm (nearestToo.nearest whole) (nearest.nearest other)
  rcases nearest.even other (Ne.symm different) tie with ⟨half, rfl⟩
  rcases nearestToo.even _ different tie.symm with ⟨otherHalf, rfl⟩
  -- Two even numbers are further apart than both can be from a number that they are nearest to.
  have apart : 2 ≤ |((otherHalf + otherHalf : ℤ) : ℚ) - (half + half : ℤ)| := by
    have least : 2 ≤ |(otherHalf + otherHalf) - (half + half)| := by
      rw [le_abs]
      omega
    exact_mod_cast least
  have around := abs_sub_le ((otherHalf + otherHalf : ℤ) : ℚ) number (half + half : ℤ)
  rw [abs_sub_comm ((otherHalf + otherHalf : ℤ) : ℚ) number] at around
  have near := nearest.within
  have nearToo := nearestToo.within
  linarith

/-- A whole number is nearest to itself. -/
theorem self (whole : ℤ) : IsNearest whole whole := by
  apply of_within
  · rw [sub_self, abs_zero]
    norm_num
  · intro tie
    rw [sub_self, abs_zero] at tie
    norm_num at tie

/-- Both signs are rounded alike. -/
theorem neg (nearest : IsNearest number whole) : IsNearest (-number) (-whole : ℤ) := by
  have same : |-number - ((-whole : ℤ) : ℚ)| = |number - whole| := by
    rw [Int.cast_neg, neg_sub_neg, abs_sub_comm]
  apply of_within
  · rw [same]
    exact nearest.within
  · intro tie
    rw [same] at tie
    exact (nearest.even_of_tie tie).neg

/-- Rounding keeps the order. -/
theorem mono
    {greater : ℚ}
    {above : ℤ}
    (ordered : number ≤ greater)
    (nearest : IsNearest number whole)
    (nearestToo : IsNearest greater above) :
    whole ≤ above := by
  by_contra less
  have passed : above + 1 ≤ whole := by omega
  have apart : (above : ℚ) + 1 ≤ whole := by exact_mod_cast passed
  have low := (abs_le.mp nearest.within).1
  have high := (abs_le.mp nearestToo.within).2
  -- The two numbers would have to meet half way, where they are rounded alike.
  have met : number = greater := by linarith
  subst met
  have same := nearest.unique nearestToo
  omega

end IsNearest

namespace Number

/-- A rounded quotient that is half a unit away from the quotient is even. -/
theorem roundedQuotient_of_tie
    {numerator denominator : Nat}
    (positive : 0 < denominator)
    (tie :
      2 * numerator = 2 * (roundedQuotient numerator denominator * denominator) + denominator ∨
        2 * (roundedQuotient numerator denominator * denominator) =
          2 * numerator + denominator) :
    Even (roundedQuotient numerator denominator) := by
  have split := Nat.div_add_mod numerator denominator
  have small := Nat.mod_lt numerator positive
  rw [Nat.mul_comm denominator] at split
  simp only [roundedQuotient] at tie ⊢
  split at tie
  · omega
  · split at tie
    · rw [Nat.add_mul] at tie
      omega
    · rename_i notBelow notAbove
      rw [if_neg notBelow, if_neg notAbove, Nat.even_iff]
      omega

/-- A rounded quotient is nearest to the quotient. -/
theorem isNearest_roundedQuotient
    (numerator : Nat)
    {denominator : Nat}
    (positive : 0 < denominator) :
    IsNearest ((numerator : ℚ) / denominator)
      ((roundedQuotient numerator denominator : Nat) : ℤ) := by
  have scale : (0 : ℚ) < denominator := by exact_mod_cast positive
  have half : (1 : ℚ) / 2 * denominator = denominator / 2 := by ring
  have distance :
      |(numerator : ℚ) / denominator - ((roundedQuotient numerator denominator : Nat) : ℤ)| *
          denominator =
        |(numerator : ℚ) - roundedQuotient numerator denominator * denominator| := by
    rw [← abs_of_pos scale, ← abs_mul, abs_of_pos scale, sub_mul, div_mul_cancel₀ _ scale.ne']
    simp
  rcases roundedQuotient_within_half numerator denominator positive with ⟨low, high⟩
  have below :
      (2 * numerator : ℚ) ≤
        2 * (roundedQuotient numerator denominator * denominator) + denominator := by
    exact_mod_cast low
  have above :
      (2 * (roundedQuotient numerator denominator * denominator) : ℚ) ≤
        2 * numerator + denominator := by
    exact_mod_cast high
  apply IsNearest.of_within
  · apply le_of_mul_le_mul_right _ scale
    rw [distance, half, abs_le]
    constructor <;> linarith
  · intro tie
    rw [tie, half] at distance
    rw [Int.even_coe_nat]
    apply roundedQuotient_of_tie positive
    rcases eq_or_eq_neg_of_abs_eq distance.symm with more | less
    · left
      have exactly :
          (2 * numerator : ℚ) =
            2 * (roundedQuotient numerator denominator * denominator) + denominator := by
        linarith
      exact_mod_cast exactly
    · right
      have exactly :
          (2 * (roundedQuotient numerator denominator * denominator) : ℚ) =
            2 * numerator + denominator := by
        linarith
      exact_mod_cast exactly

/-! ## How many digits a number has -/

theorem length_digitsWithin
    (fuel number : Nat)
    (enough : number ≤ fuel) :
    0 < (digitsWithin fuel number).length ∧
      number < 10 ^ (digitsWithin fuel number).length ∧
      (0 < number → 10 ^ ((digitsWithin fuel number).length - 1) ≤ number) := by
  induction fuel generalizing number with
  | zero =>
      have isZero : number = 0 := by omega
      simp [digitsWithin, isZero]
  | succ fuel hypothesis =>
      rw [digitsWithin]
      split
      · simp only [List.length_singleton]
        omega
      · rcases hypothesis (number / 10) (by omega) with ⟨some, below, above⟩
        have least := above (by omega)
        rw [List.length_append, List.length_singleton, Nat.add_sub_cancel]
        refine ⟨by omega, ?_, fun _ => ?_⟩
        · rw [Nat.pow_succ]
          omega
        · calc 10 ^ (digitsWithin fuel (number / 10)).length
              = 10 ^ ((digitsWithin fuel (number / 10)).length - 1) * 10 := by
                rw [← Nat.pow_succ, Nat.succ_eq_add_one, Nat.sub_add_cancel some]
            _ ≤ number / 10 * 10 := Nat.mul_le_mul_right 10 least
            _ ≤ number := Nat.div_mul_le_self number 10

theorem length_digits_pos (number : Nat) : 0 < (digits number).length :=
  (length_digitsWithin number number le_rfl).1

theorem lt_pow_length_digits (number : Nat) : number < 10 ^ (digits number).length :=
  (length_digitsWithin number number le_rfl).2.1

theorem pow_length_digits_le {number : Nat} (positive : 0 < number) :
    10 ^ ((digits number).length - 1) ≤ number :=
  (length_digitsWithin number number le_rfl).2.2 positive

/-- Zeros appended to a number are as many more digits of it. -/
theorem lt_length_digits_add_iff
    {number : Nat}
    (positive : 0 < number)
    (zeros most : Nat) :
    most < (digits number).length + zeros ↔ 10 ^ most ≤ number * 10 ^ zeros := by
  have some := length_digits_pos number
  constructor
  · intro more
    calc 10 ^ most
        ≤ 10 ^ ((digits number).length - 1 + zeros) :=
          Nat.pow_le_pow_right (by decide) (by omega)
      _ = 10 ^ ((digits number).length - 1) * 10 ^ zeros := Nat.pow_add ..
      _ ≤ number * 10 ^ zeros := Nat.mul_le_mul_right _ (pow_length_digits_le positive)
  · intro reached
    have power : 10 ^ most < 10 ^ ((digits number).length + zeros) :=
      calc 10 ^ most
          ≤ number * 10 ^ zeros := reached
        _ < 10 ^ (digits number).length * 10 ^ zeros :=
          Nat.mul_lt_mul_of_pos_right (lt_pow_length_digits number) (Nat.pow_pos (by decide))
        _ = 10 ^ ((digits number).length + zeros) := (Nat.pow_add ..).symm
    exact (Nat.pow_lt_pow_iff_right (by decide)).mp power

theorem length_digits_le
    (width : Nat)
    {number : Nat}
    (short : number < 10 ^ (width + 1)) :
    (digits number).length ≤ width + 1 := by
  rcases Nat.eq_zero_or_pos number with rfl | positive
  · exact Nat.le_add_left 1 width
  · by_contra longer
    have reached := (lt_length_digits_add_iff positive 0 (width + 1)).mp (by omega)
    rw [Nat.pow_zero, Nat.mul_one] at reached
    omega

end Number

/-! ## Four places -/

namespace Decimal

/-- A sign in front of a magnitude. -/
def signed (negative : Bool) (magnitude : ℚ) : ℚ :=
  if negative then -magnitude else magnitude

/-- The number that is meant, unless it is a special value. -/
def value? : Decimal → Option ℚ
  | .finite negative coefficient exponent =>
    some (signed negative (coefficient * 10 ^ exponent))
  | .infinite _ | .notANumber _ _ _ => none

/-- More digits dropped than there are leave nothing, so that the shortcut changes nothing. -/
theorem roundedQuotient_of_dropped
    {coefficient dropped : Nat}
    (more : (Number.digits coefficient).length < dropped) :
    Number.roundedQuotient coefficient (10 ^ dropped) = 0 := by
  have short : 2 * coefficient < 10 ^ dropped :=
    calc 2 * coefficient
        < 10 * 10 ^ (Number.digits coefficient).length := by
          have below := Number.lt_pow_length_digits coefficient
          omega
      _ = 10 ^ ((Number.digits coefficient).length + 1) := by rw [Nat.pow_succ, Nat.mul_comm]
      _ ≤ 10 ^ dropped := Nat.pow_le_pow_right (by decide) more
  have whole : coefficient / 10 ^ dropped = 0 := Nat.div_eq_of_lt (by omega)
  have rest : coefficient % 10 ^ dropped = coefficient := Nat.mod_eq_of_lt (by omega)
  rw [Number.roundedQuotient, whole, rest, if_pos short]

/-- The point moved to the right by four places and as many more as the exponent tells. -/
theorem shifted_left
    (coefficient : Nat)
    {exponent : Int}
    (least : -4 ≤ exponent) :
    (10 : ℚ) ^ 4 * (coefficient * 10 ^ exponent) =
      ((coefficient * 10 ^ (exponent + 4).toNat : Nat) : ℤ) := by
  have power : (10 : ℚ) ^ 4 * 10 ^ exponent = 10 ^ (exponent + 4).toNat := by
    rw [← zpow_natCast, ← zpow_natCast, ← zpow_add₀ (by norm_num)]
    congr 1
    omega
  rw [mul_left_comm, power]
  push_cast
  rfl

/-- The point moved to the left, where the exponent tells of more than four places. -/
theorem shifted_right
    (coefficient : Nat)
    {exponent : Int}
    (below : exponent < -4) :
    (10 : ℚ) ^ 4 * (coefficient * 10 ^ exponent) =
      coefficient / ((10 ^ (-4 - exponent).toNat : Nat) : ℚ) := by
  have power : (10 : ℚ) ^ 4 * 10 ^ exponent = (10 ^ (-4 - exponent).toNat)⁻¹ := by
    rw [← zpow_natCast, ← zpow_natCast, ← zpow_neg, ← zpow_add₀ (by norm_num)]
    congr 1
    omega
  rw [mul_left_comm, power, div_eq_mul_inv]
  push_cast
  rfl

/-- The ten-thousandths of a number are the nearest ones, and there is a most that they may be. -/
theorem exists_tenThousandths (coefficient : Nat) (exponent : Int) :
    ∃ units : Nat,
      IsNearest (10 ^ 4 * (coefficient * 10 ^ exponent)) units ∧
        tenThousandths? coefficient exponent =
          if units < 10 ^ precision then some units else none := by
  rw [tenThousandths?]
  split
  · rename_i nothing
    refine ⟨0, ?_, rfl⟩
    rw [nothing, Nat.cast_zero, zero_mul, mul_zero]
    exact IsNearest.self 0
  · rename_i something
    split
    · rename_i least
      refine ⟨coefficient * 10 ^ (exponent + 4).toNat, ?_, ?_⟩
      · rw [shifted_left coefficient least]
        exact IsNearest.self _
      · simp only [Number.lt_length_digits_add_iff (Nat.pos_of_ne_zero something), ← not_lt,
          ite_not, Nat.pow_eq]
    · rename_i below
      refine ⟨Number.roundedQuotient coefficient (10 ^ (-4 - exponent).toNat), ?_, ?_⟩
      · rw [shifted_right coefficient (not_le.mp below)]
        exact Number.isNearest_roundedQuotient coefficient (Nat.pow_pos (by decide))
      · simp only [Nat.pow_eq,
          ite_eq_right_iff.mpr fun more => (roundedQuotient_of_dropped more).symm, ← not_lt,
          ite_not]

theorem value?_places (negative : Bool) (units : Nat) :
    value? (.finite negative units (-4)) = some (signed negative units / 10 ^ 4) := by
  have scale : (10 : ℚ) ^ (-4 : ℤ) = (10 ^ 4)⁻¹ := by norm_num
  rw [value?, scale, ← div_eq_mul_inv]
  cases negative with
  | false => rfl
  | true => rw [signed, signed, if_pos rfl, if_pos rfl, neg_div]

/-- A finite number is rounded to the nearest ten-thousandths, and its sign is kept. -/
theorem exists_fixed (negative : Bool) (coefficient : Nat) (exponent : Int) :
    ∃ units : ℤ,
      IsNearest (10 ^ 4 * signed negative (coefficient * 10 ^ exponent)) units ∧
        value? (.finite negative units.natAbs (-4)) = some ((units : ℚ) / 10 ^ 4) ∧
        fixed? (.finite negative coefficient exponent) =
          if units.natAbs < 10 ^ precision then some (.finite negative units.natAbs (-4))
          else none := by
  rcases exists_tenThousandths coefficient exponent with ⟨units, nearest, found⟩
  have rounds :
      fixed? (.finite negative coefficient exponent) =
        if units < 10 ^ precision then some (.finite negative units (-4)) else none := by
    rw [fixed?, found]
    split <;> rfl
  cases negative with
  | false =>
      exact ⟨units, nearest, value?_places false units, rounds⟩
  | true =>
      have worth := value?_places true units
      refine ⟨-units, ?_, ?_, ?_⟩
      · rw [signed, if_pos rfl, mul_neg]
        exact nearest.neg
      · rw [Int.natAbs_neg, Int.natAbs_natCast, worth, signed, if_pos rfl]
        push_cast
        rfl
      · rw [Int.natAbs_neg, Int.natAbs_natCast]
        exact rounds

/-- Numbers with four places are left as they are, or have too many digits. -/
theorem fixed?_places (negative : Bool) (units : Nat) :
    fixed? (.finite negative units (-4)) =
      if units < 10 ^ precision then some (.finite negative units (-4)) else none := by
  rcases exists_tenThousandths units (-4) with ⟨others, nearest, found⟩
  rw [shifted_left units (le_refl (-4))] at nearest
  have same := nearest.unique (IsNearest.self _)
  have exactly : others = units := by simpa using same
  rw [fixed?, found, exactly]
  split <;> rfl

/-- Numbers with four places and at most twenty-eight digits are left as they are. -/
theorem fixed?_of_places
    (negative : Bool)
    {units : Nat}
    (small : units < 10 ^ precision) :
    fixed? (.finite negative units (-4)) = some (.finite negative units (-4)) := by
  rw [fixed?_places, if_pos small]

variable {decimal rounded : Decimal} {exact : ℚ}

/-- What is rounded has the nearest ten-thousandths for its value. -/
theorem nearest_of_fixed?
    (fixed : decimal.fixed? = some rounded)
    (worth : decimal.value? = some exact) :
    ∃ units : ℤ,
      IsNearest (10 ^ 4 * exact) units ∧ rounded.value? = some ((units : ℚ) / 10 ^ 4) := by
  cases decimal with
  | finite negative coefficient exponent =>
      cases worth
      rcases exists_fixed negative coefficient exponent with ⟨units, nearest, same, rounds⟩
      rw [rounds] at fixed
      split at fixed
      · cases fixed
        exact ⟨units, nearest, same⟩
      · cases fixed
  | infinite | notANumber => cases worth

/-- A rounded number is half a ten-thousandth away at most. -/
theorem fixed?_near
    {value : ℚ}
    (fixed : decimal.fixed? = some rounded)
    (worth : decimal.value? = some exact)
    (roundedWorth : rounded.value? = some value) :
    |value - exact| ≤ 5 / 10 ^ 5 := by
  rcases nearest_of_fixed? fixed worth with ⟨units, nearest, same⟩
  rw [roundedWorth, Option.some.injEq] at same
  have distance : 10 ^ 4 * |value - exact| = |10 ^ 4 * exact - units| := by
    rw [same, abs_sub_comm, ← abs_of_pos (show (0 : ℚ) < 10 ^ 4 by norm_num), ← abs_mul,
      abs_of_pos (show (0 : ℚ) < 10 ^ 4 by norm_num), mul_sub, mul_div_cancel₀ _ (by norm_num)]
  have half := nearest.within
  rw [← distance] at half
  linarith

/-- Rounding keeps the order. -/
theorem fixed?_mono
    {greater roundedGreater : Decimal}
    {above value valueAbove : ℚ}
    (ordered : exact ≤ above)
    (fixed : decimal.fixed? = some rounded)
    (fixedGreater : greater.fixed? = some roundedGreater)
    (worth : decimal.value? = some exact)
    (worthGreater : greater.value? = some above)
    (roundedWorth : rounded.value? = some value)
    (roundedWorthGreater : roundedGreater.value? = some valueAbove) :
    value ≤ valueAbove := by
  rcases nearest_of_fixed? fixed worth with ⟨units, nearest, same⟩
  rcases nearest_of_fixed? fixedGreater worthGreater with ⟨others, nearestGreater, sameGreater⟩
  rw [roundedWorth, Option.some.injEq] at same
  rw [roundedWorthGreater, Option.some.injEq] at sameGreater
  have less : (units : ℚ) ≤ others := by
    exact_mod_cast nearest.mono (by linarith) nearestGreater
  rw [same, sameGreater]
  linarith

/-- A whole number of ten-thousandths with at most twenty-eight digits is rounded to itself. -/
theorem exists_fixed_of_units
    {units : ℤ}
    (small : units.natAbs < 10 ^ precision)
    (worth : decimal.value? = some ((units : ℚ) / 10 ^ 4)) :
    ∃ rounded : Decimal,
      decimal.fixed? = some rounded ∧ rounded.value? = some ((units : ℚ) / 10 ^ 4) := by
  cases decimal with
  | finite negative coefficient exponent =>
      rcases exists_fixed negative coefficient exponent with ⟨others, nearest, same, rounds⟩
      rw [value?, Option.some.injEq] at worth
      rw [worth, mul_div_cancel₀ _ (by norm_num)] at nearest
      rw [nearest.unique (IsNearest.self units)] at same rounds
      rw [if_pos small] at rounds
      exact ⟨_, rounds, same⟩
  | infinite | notANumber => cases worth

/-- Only numbers with four places are given back, and quiet marks that stand for no number. -/
theorem shape_of_fixed? (fixed : decimal.fixed? = some rounded) :
    (∃ negative units, units < 10 ^ precision ∧ rounded = .finite negative units (-4)) ∨
      ∃ negative payload,
        payload < 10 ^ precision ∧ rounded = .notANumber negative false payload := by
  cases decimal with
  | finite negative coefficient exponent =>
      rcases exists_fixed negative coefficient exponent with ⟨units, -, -, rounds⟩
      rw [rounds] at fixed
      split at fixed
      · rename_i small
        cases fixed
        exact Or.inl ⟨negative, units.natAbs, small, rfl⟩
      · cases fixed
  | infinite negative => cases fixed
  | notANumber negative signaling payload =>
      cases signaling with
      | true => cases fixed
      | false =>
          cases fixed
          exact Or.inr ⟨negative, payload % 10 ^ precision, Nat.mod_lt _ (by decide), rfl⟩

/-- Nothing is rounded twice. -/
theorem fixed?_fixed? (fixed : decimal.fixed? = some rounded) :
    rounded.fixed? = some rounded := by
  rcases shape_of_fixed? fixed with ⟨negative, units, small, rfl⟩ | ⟨negative, payload, small, rfl⟩
  · exact fixed?_of_places negative small
  · simp [fixed?, Nat.mod_eq_of_lt small]

end Decimal

theorem Money.value?_decimal (amount : Money) :
    amount.decimal.value? = some ((amount : ℚ) / 10 ^ 4) := by
  rw [decimal, Decimal.value?_places, Decimal.signed, Nat.cast_natAbs, Int.cast_abs]
  split
  · rename_i negative
    have below : (amount : ℚ) < 0 := by exact_mod_cast of_decide_eq_true negative
    rw [abs_of_neg below, neg_neg]
  · rename_i nonnegative
    have above : (0 : ℚ) ≤ amount := by
      exact_mod_cast not_lt.mp fun below => nonnegative (decide_eq_true below)
    rw [abs_of_nonneg above]

/-- Money that can be compared: it lies below 10 ^ 24 in either direction. -/
def Money.IsComparable (amount : Money) : Prop :=
  amount.natAbs < 10 ^ 28

instance (amount : Money) : Decidable amount.IsComparable :=
  inferInstanceAs (Decidable (amount.natAbs < 10 ^ 28))

/-- Money is the number of its ten-thousandths with its sign. -/
theorem Money.ofUnits_natAbs (amount : Money) : ofUnits (amount < 0) amount.natAbs = amount := by
  rw [ofUnits]
  split
  · rename_i below
    rw [Int.ofNat_natAbs_of_nonpos (Int.le_of_lt (of_decide_eq_true below)), Int.neg_neg]
  · rename_i above
    have nonnegative := of_decide_eq_false (Bool.eq_false_iff.mpr above)
    exact Int.natAbs_of_nonneg (Int.not_lt.mp nonnegative)

/-- Money is compared as it is, or refused where it is too large to be compared. -/
theorem Money.fixed_eq (amount : Money) :
    amount.fixed = if amount.IsComparable then .ok amount else .error .decimalOutOfRange := by
  by_cases small : amount.IsComparable
  · rw [fixed, decimal, Decimal.fixed?_of_places _ small, if_pos small]
    exact congrArg Except.ok (ofUnits_natAbs amount)
  · have large : ¬amount.natAbs < 10 ^ Decimal.precision := small
    rw [fixed, decimal, Decimal.fixed?_places, if_neg large, if_neg small]

namespace Value

theorem fixed_ok_iff (value : Value) (rounded : Decimal) :
    value.fixed = .ok rounded ↔
      ∃ number, value.number = .ok number ∧ number.fixed? = some rounded := by
  rw [fixed]
  cases named : value.number with
  | error mismatch => simp [bind, Except.bind]
  | ok number => cases fixed : number.fixed? <;> simp [bind, Except.bind, fixed]

theorem fixed_decimal (number : Decimal) :
    (Value.decimal number).fixed = number.fixed?.elim (.error .decimalOutOfRange) .ok := by
  cases fixed : number.fixed? <;> simp [Value.fixed, Value.number, bind, Except.bind, fixed]

theorem fixed_decimal_ok {number rounded : Decimal} :
    (Value.decimal number).fixed = .ok rounded ↔ number.fixed? = some rounded := by
  rw [fixed_decimal]
  cases number.fixed? <;> simp

/--
A finite number is rounded to the nearest multiple of a ten-thousandth, the even one of two,
with its sign kept; that is refused exactly where more than twenty-eight digits would be needed,
and for infinities.  So a rounded number is half a ten-thousandth away at most, rounding keeps
the order, rounded numbers are not changed again, and neither is the money of the ledger below
10 ^ 24, whichever decimal number says it.
-/
theorem fixed_is_nearest :
    (∀ (negative : Bool) (coefficient : Nat) (exponent : Int),
      ∃ units : ℤ,
        IsNearest (10 ^ 4 * Decimal.signed negative (coefficient * 10 ^ exponent)) units ∧
          (Decimal.finite negative units.natAbs (-4)).value? = some ((units : ℚ) / 10 ^ 4) ∧
          (Value.decimal (.finite negative coefficient exponent)).fixed =
            if units.natAbs < 10 ^ 28 then .ok (.finite negative units.natAbs (-4))
            else .error .decimalOutOfRange) ∧
      (∀ negative : Bool,
        (Value.decimal (.infinite negative)).fixed = .error .decimalOutOfRange) ∧
      Mismatch.decimalOutOfRange.name = "InvalidOperation" ∧
      (∀ (number rounded : Decimal) (exact value : ℚ),
        number.value? = some exact → (Value.decimal number).fixed = .ok rounded →
          rounded.value? = some value → |value - exact| ≤ 5 / 10 ^ 5) ∧
      (∀ (number rounded greater roundedGreater : Decimal) (exact value above valueAbove : ℚ),
        number.value? = some exact → greater.value? = some above → exact ≤ above →
          (Value.decimal number).fixed = .ok rounded →
          (Value.decimal greater).fixed = .ok roundedGreater →
          rounded.value? = some value → roundedGreater.value? = some valueAbove →
            value ≤ valueAbove) ∧
      (∀ (value : Value) (rounded : Decimal),
        value.fixed = .ok rounded → (Value.decimal rounded).fixed = .ok rounded) ∧
      ∀ amount : Money,
        amount.natAbs < 10 ^ 28 →
          (Value.decimal amount.decimal).fixed = .ok amount.decimal ∧
            ∀ number : Decimal,
              number.value? = some ((amount : ℚ) / 10 ^ 4) →
                ∃ rounded,
                  (Value.decimal number).fixed = .ok rounded ∧
                    rounded.value? = some ((amount : ℚ) / 10 ^ 4) := by
  refine ⟨?_, fun _ => rfl, rfl, ?_, ?_, ?_, ?_⟩
  · intro negative coefficient exponent
    rcases Decimal.exists_fixed negative coefficient exponent with ⟨units, nearest, same, rounds⟩
    refine ⟨units, nearest, same, ?_⟩
    rw [fixed_decimal, rounds, Decimal.precision]
    split <;> rfl
  · intro number rounded exact value worth fixed roundedWorth
    exact Decimal.fixed?_near (fixed_decimal_ok.mp fixed) worth roundedWorth
  · intro number rounded greater roundedGreater exact value above valueAbove worth worthGreater
      ordered fixed fixedGreater roundedWorth roundedWorthGreater
    exact Decimal.fixed?_mono ordered (fixed_decimal_ok.mp fixed) (fixed_decimal_ok.mp fixedGreater)
      worth worthGreater roundedWorth roundedWorthGreater
  · intro value rounded fixed
    rcases (fixed_ok_iff value rounded).mp fixed with ⟨number, -, rounds⟩
    exact fixed_decimal_ok.mpr (Decimal.fixed?_fixed? rounds)
  · intro amount small
    constructor
    · exact fixed_decimal_ok.mpr (Decimal.fixed?_of_places _ small)
    · intro number worth
      rcases Decimal.exists_fixed_of_units small worth with ⟨rounded, rounds, same⟩
      exact ⟨rounded, fixed_decimal_ok.mpr rounds, same⟩

end Value

namespace Sample

/-- The rule at work: half a ten-thousandth below zero is rounded to a zero with its sign. -/
theorem half_rounds_to_even :
    (Value.decimal (.finite true 5 (-5))).fixed = .ok (.finite true 0 (-4)) ∧
      (Value.decimal (.finite true 0 (-4))).fixed = .ok (.finite true 0 (-4)) ∧
      |(-0 : ℚ) / 10 ^ 4 - -(5 * 10 ^ (-5 : ℤ))| ≤ 5 / 10 ^ 5 := by
  have rounds : (Value.decimal (.finite true 5 (-5))).fixed = .ok (.finite true 0 (-4)) := rfl
  rcases Value.fixed_is_nearest with ⟨-, -, -, near, -, once, -⟩
  exact ⟨rounds, once _ _ rounds, near _ _ _ _ rfl rounds (Decimal.value?_places true 0)⟩

-- A digit more than there may be can come of rounding alone.
example :
    (Value.decimal (.finite false (10 ^ 29 - 5) (-5))).fixed = .error .decimalOutOfRange := by
  rfl

end Sample

end Bookkeeping
