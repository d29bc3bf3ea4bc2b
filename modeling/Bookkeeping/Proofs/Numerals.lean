import Bookkeeping.Number.Decimal
import Mathlib.Algebra.Order.Field.Rat
import Mathlib.Data.List.Induction
import Mathlib.Data.List.TakeWhile
import Mathlib.Data.Set.List
import Mathlib.Tactic.Linarith
import Mathlib.Tactic.NormNum
import Mathlib.Tactic.Ring

/-!
# Plain decimal numbers

The grammar of plain decimal numbers beside the functions that read them: an optional
sign, and ASCII digits with at most one point among them.  A number is given by its
parts, and from its parts it has both its characters and its value, a rational number.
Nothing here bounds how many digits there are.
-/

namespace Bookkeeping

/-! ## Digits and their characters -/

namespace Number

theorem isDigit_digitCharacter (digit : Fin 10) : (digitCharacter digit).isDigit = true := by
  decide +revert

theorem toNat_digitCharacter (digit : Fin 10) : (digitCharacter digit).toNat - 48 = digit := by
  decide +revert

/-- Every digit among the characters is the character of a digit. -/
theorem exists_digitCharacter {character : Char} (isDigit : character.isDigit = true) :
    ∃ digit : Fin 10, digitCharacter digit = character := by
  simp only [Char.isDigit, Bool.and_eq_true, decide_eq_true_eq, ge_iff_le,
    UInt32.le_iff_toNat_le] at isDigit
  have low : 48 ≤ character.toNat := isDigit.1
  have high : character.toNat ≤ 57 := isDigit.2
  refine ⟨⟨character.toNat - 48, by omega⟩, ?_⟩
  rw [digitCharacter, Nat.add_sub_cancel' low, Char.ofNat_toNat]

theorem digits_lt_ten (number : Nat) : ∀ digit ∈ digits number, digit < 10 := by
  have within (fuel : Nat) : ∀ digit ∈ digitsWithin fuel number, digit < 10 := by
    induction fuel generalizing number with
    | zero => simp [digitsWithin, Nat.mod_lt]
    | succ fuel hypothesis =>
        rw [digitsWithin]
        split
        · simpa
        · intro digit member
          rcases List.mem_append.mp member with front | last
          · exact hypothesis _ digit front
          · rw [List.mem_singleton.mp last]
            exact Nat.mod_lt _ (by decide)
  exact within number

theorem lastDigits_lt_ten (width number : Nat) :
    ∀ digit ∈ lastDigits width number, digit < 10 := by
  induction width generalizing number with
  | zero => simp [lastDigits]
  | succ width hypothesis =>
      intro digit member
      rcases List.mem_append.mp member with front | last
      · exact hypothesis _ digit front
      · rw [List.mem_singleton.mp last]
        exact Nat.mod_lt _ (by decide)

theorem ofDigits_lastDigits (width number : Nat) :
    ofDigits (lastDigits width number) = number % 10 ^ width := by
  induction width generalizing number with
  | zero => simp [lastDigits, ofDigits, Nat.mod_one]
  | succ width hypothesis =>
      rw [lastDigits, ofDigits_append_singleton, hypothesis, Nat.pow_succ,
        Nat.mul_comm (10 ^ width) 10, Nat.mod_mul]
      omega

theorem ofDigits_append (front back : List Nat) :
    ofDigits (front ++ back) = ofDigits front * 10 ^ back.length + ofDigits back := by
  induction back using List.reverseRecOn with
  | nil => simp [ofDigits]
  | append_singleton back last hypothesis =>
      rw [← List.append_assoc, ofDigits_append_singleton, ofDigits_append_singleton, hypothesis,
        List.length_append, List.length_singleton, Nat.pow_succ]
      ring

end Number

/-- Digits in their order, the most significant one first. -/
abbrev Digits := List (Fin 10)

namespace Digits

def characters (digits : Digits) : List Char :=
  digits.map fun digit : Fin 10 => Number.digitCharacter digit

/-- What digits are worth in front of a point: each ten times what it is worth one place on. -/
def whole : Digits → ℚ
  | [] => 0
  | digit :: rest => digit * 10 ^ rest.length + whole rest

/-- What digits are worth behind a point: a tenth for the first, and so on. -/
def fraction : Digits → ℚ
  | [] => 0
  | digit :: rest => (digit + fraction rest) / 10

theorem isDigit_of_mem
    {digits : Digits}
    {character : Char}
    (member : character ∈ digits.characters) :
    character.isDigit = true := by
  rcases List.mem_map.mp member with ⟨digit, -, rfl⟩
  exact Number.isDigit_digitCharacter digit

theorem exists_characters
    {characters : List Char}
    (digits : ∀ character ∈ characters, character.isDigit = true) :
    ∃ digits : Digits, digits.characters = characters := by
  have inRange :
      characters ∈ Set.range (List.map fun digit : Fin 10 => Number.digitCharacter digit) := by
    rw [Set.range_list_map]
    exact fun character member => Number.exists_digitCharacter (digits character member)
  exact inRange

theorem exists_val {numbers : List Nat} (small : ∀ number ∈ numbers, number < 10) :
    ∃ digits : Digits, digits.map Fin.val = numbers := by
  have inRange : numbers ∈ Set.range (List.map (Fin.val : Fin 10 → Nat)) := by
    rw [Set.range_list_map]
    exact fun number member => ⟨⟨number, small number member⟩, rfl⟩
  exact inRange

theorem ofDigits_val (digits : Digits) :
    (Number.ofDigits (digits.map Fin.val) : ℚ) = digits.whole := by
  induction digits with
  | nil => rfl
  | cons digit rest hypothesis =>
      rw [List.map_cons, ← List.singleton_append, Number.ofDigits_append, List.length_map, whole,
        ← hypothesis, Nat.cast_add, Nat.cast_mul]
      simp [Number.ofDigits]

theorem map_toNat_characters (digits : Digits) :
    (digits.characters.map fun character => character.toNat - 48) = digits.map Fin.val := by
  simp only [characters, List.map_map, Function.comp_def, Number.toNat_digitCharacter]

theorem eq_of_characters_eq
    {digits others : Digits}
    (same : digits.characters = others.characters) :
    digits = others := by
  have values := congrArg (List.map fun character => character.toNat - 48) same
  rw [map_toNat_characters, map_toNat_characters] at values
  exact (List.map_inj_right fun _ _ => Fin.ext).mp values

theorem fraction_nonneg (digits : Digits) : 0 ≤ digits.fraction := by
  induction digits with
  | nil => exact le_refl 0
  | cons digit rest hypothesis =>
      have nonneg : (0 : ℚ) ≤ digit := Nat.cast_nonneg _
      rw [fraction]
      linarith

/-- Digits behind a point are worth nothing exactly if they are all zero. -/
theorem fraction_eq_zero_iff (digits : Digits) :
    digits.fraction = 0 ↔ ∀ digit ∈ digits, digit = 0 := by
  induction digits with
  | nil => simp [fraction]
  | cons digit rest hypothesis =>
      have nonneg := fraction_nonneg rest
      rw [List.forall_mem_cons, ← hypothesis, fraction]
      constructor
      · intro nothing
        have digitNonneg : (0 : ℚ) ≤ digit := Nat.cast_nonneg _
        have sum : (digit : ℚ) + fraction rest = 0 := by linarith
        have zero : (digit : ℚ) = 0 := by linarith
        constructor
        · exact Fin.val_eq_zero_iff.mp (by exact_mod_cast zero)
        · linarith
      · rintro ⟨rfl, nothing⟩
        rw [nothing]
        simp

/-- The point moved to the right: the digits that it passes count as whole ones. -/
theorem scaled_fraction (places : Nat) (digits : Digits) :
    10 ^ places * digits.fraction =
      whole (digits.take places) * 10 ^ (places - digits.length) +
        fraction (digits.drop places) := by
  induction places generalizing digits with
  | zero => simp [whole]
  | succ places hypothesis =>
      cases digits with
      | nil => simp [whole, fraction]
      | cons digit rest =>
          have room :
              10 ^ (rest.take places).length * (10 : ℚ) ^ (places - rest.length) =
                10 ^ places := by
            rw [← pow_add, List.length_take]
            congr 1
            omega
          calc 10 ^ (places + 1) * fraction (digit :: rest)
              = digit * 10 ^ places + 10 ^ places * fraction rest := by
                rw [fraction, pow_succ]
                ring
            _ = digit * (10 ^ (rest.take places).length * 10 ^ (places - rest.length)) +
                  (whole (rest.take places) * 10 ^ (places - rest.length) +
                    fraction (rest.drop places)) := by
                rw [hypothesis, room]
            _ = _ := by
                rw [List.take_succ_cons, List.drop_succ_cons, List.length_cons,
                  Nat.add_sub_add_right, whole]
                ring

end Digits

/-! ## The grammar -/

/-- What may stand in front of the digits of a number. -/
inductive Sign where
  | none
  | plus
  | minus

namespace Sign

def characters : Sign → List Char
  | .none => []
  | .plus => ['+']
  | .minus => ['-']

def isMinus : Sign → Bool
  | .none | .plus => false
  | .minus => true

def factor (sign : Sign) : ℚ :=
  if sign.isMinus then -1 else 1

end Sign

/-- A plain decimal number: digits, perhaps a point among them and a sign before them. -/
structure PlainDecimal where
  sign : Sign
  whole : Digits
  /-- The digits behind the point, if there is one. -/
  behind? : Option Digits
  hasDigit : whole ≠ [] ∨ behind?.getD [] ≠ []

namespace PlainDecimal

/-- The characters of a number without its sign. -/
def unsigned (whole : Digits) (behind? : Option Digits) : List Char :=
  whole.characters ++ behind?.elim [] fun behind => '.' :: behind.characters

def characters (number : PlainDecimal) : List Char :=
  number.sign.characters ++ unsigned number.whole number.behind?

/-- What the digits are worth without the sign. -/
def magnitude (number : PlainDecimal) : ℚ :=
  number.whole.whole + Digits.fraction (number.behind?.getD [])

/-- The number that is written. -/
def value (number : PlainDecimal) : ℚ :=
  number.sign.factor * number.magnitude

/-- A text is the number, apart from blanks in front of it and behind it. -/
def StandsIn (number : PlainDecimal) (text : String) : Prop :=
  ∃ front back,
    text.toList = front ++ number.characters ++ back ∧
      (∀ character ∈ front, Text.isBlank character = true) ∧
      ∀ character ∈ back, Text.isBlank character = true

theorem mem_unsigned
    {whole : Digits}
    {behind? : Option Digits}
    {character : Char}
    (member : character ∈ unsigned whole behind?) :
    character = '.' ∨ character.isDigit = true := by
  rcases List.mem_append.mp member with whole | rest
  · exact Or.inr (Digits.isDigit_of_mem whole)
  · cases behind? with
    | none => cases rest
    | some behind =>
        rcases List.mem_cons.mp rest with rfl | behind
        · exact Or.inl rfl
        · exact Or.inr (Digits.isDigit_of_mem behind)

theorem unsigned_ne_nil
    {whole : Digits}
    {behind? : Option Digits}
    (hasDigit : whole ≠ [] ∨ behind?.getD [] ≠ []) :
    unsigned whole behind? ≠ [] := by
  cases behind? with
  | none => simpa [unsigned, Digits.characters] using hasDigit
  | some behind => simp [unsigned]

theorem characters_ne_nil (number : PlainDecimal) : number.characters ≠ [] := by
  rw [characters, ne_eq, List.append_eq_nil_iff, not_and_or]
  exact Or.inr (unsigned_ne_nil number.hasDigit)

end PlainDecimal

/-! ## Blanks around a number -/

namespace Text

theorem isBlank_of_isDigit {character : Char} (isDigit : character.isDigit = true) :
    isBlank character = false := by
  rcases Number.exists_digitCharacter isDigit with ⟨digit, rfl⟩
  decide +revert

variable {drops : Char → Bool} {kept : List Char}

theorem dropWhile_of_kept
    (keeps : ∀ character ∈ kept, drops character = false)
    (something : kept ≠ [])
    (rest : List Char) :
    (kept ++ rest).dropWhile drops = kept ++ rest := by
  cases kept with
  | nil => exact absurd rfl something
  | cons first others =>
      have solid := keeps first List.mem_cons_self
      rw [List.cons_append, List.dropWhile_cons_of_neg (by simp [solid])]

theorem trimBy_between
    {front back : List Char}
    (dropsFront : ∀ character ∈ front, drops character = true)
    (dropsBack : ∀ character ∈ back, drops character = true)
    (keeps : ∀ character ∈ kept, drops character = false)
    (something : kept ≠ []) :
    trimBy drops (front ++ kept ++ back) = kept := by
  have keepsTurned : ∀ character ∈ kept.reverse, drops character = false := by
    simpa using keeps
  have turned := dropWhile_of_kept keepsTurned (by simpa using something) []
  rw [List.append_nil] at turned
  rw [trimBy, List.append_assoc, List.dropWhile_append_of_pos dropsFront,
    dropWhile_of_kept keeps something, List.reverse_append,
    List.dropWhile_append_of_pos (by simpa using dropsBack), turned, List.reverse_reverse]

theorem exists_trimBy (drops : Char → Bool) (characters : List Char) :
    ∃ front back,
      characters = front ++ trimBy drops characters ++ back ∧
        (∀ character ∈ front, drops character = true) ∧
        ∀ character ∈ back, drops character = true := by
  refine ⟨characters.takeWhile drops,
    ((characters.dropWhile drops).reverse.takeWhile drops).reverse, ?_, ?_, ?_⟩
  · rw [trimBy, List.append_assoc, ← List.reverse_append, List.takeWhile_append_dropWhile,
      List.reverse_reverse, List.takeWhile_append_dropWhile]
  · exact fun character member => List.mem_takeWhile_imp member
  · exact fun character member => List.mem_takeWhile_imp (List.mem_reverse.mp member)

end Text

namespace PlainDecimal

theorem isBlank_of_mem
    {number : PlainDecimal}
    {character : Char}
    (member : character ∈ number.characters) :
    Text.isBlank character = false := by
  rcases List.mem_append.mp member with sign | unsigned
  · cases kind : number.sign with
    | none =>
        rw [kind] at sign
        cases sign
    | plus =>
        rw [kind] at sign
        rw [List.mem_singleton.mp sign]
        decide
    | minus =>
        rw [kind] at sign
        rw [List.mem_singleton.mp sign]
        decide
  · rcases mem_unsigned unsigned with rfl | digit
    · decide
    · exact Text.isBlank_of_isDigit digit

/-- A text is a number exactly if the characters of the number are what is left when trimmed. -/
theorem standsIn_iff (number : PlainDecimal) (text : String) :
    number.StandsIn text ↔ Text.trimBy Text.isBlank text.toList = number.characters := by
  constructor
  · rintro ⟨front, back, divided, blankFront, blankBack⟩
    rw [divided, Text.trimBy_between blankFront blankBack (fun _ => isBlank_of_mem)
      number.characters_ne_nil]
  · intro same
    rcases Text.exists_trimBy Text.isBlank text.toList with ⟨front, back, divided, blank⟩
    rw [same] at divided
    exact ⟨front, back, divided, blank⟩

end PlainDecimal

/-! ## Signs, and the digits around the point -/

namespace Decimal

open PlainDecimal

variable {whole : Digits} {behind? : Option Digits}

theorem takeSign_unsigned
    (sign : Sign)
    (hasDigit : whole ≠ [] ∨ behind?.getD [] ≠ []) :
    takeSign (sign.characters ++ unsigned whole behind?) =
      (sign.isMinus, unsigned whole behind?) := by
  cases sign with
  | plus => rfl
  | minus => rfl
  | none =>
      change takeSign (unsigned whole behind?) = _
      cases written : unsigned whole behind? with
      | nil => exact absurd written (unsigned_ne_nil hasDigit)
      | cons first rest =>
          have kind : first = '.' ∨ first.isDigit = true :=
            mem_unsigned (written ▸ List.mem_cons_self)
          rw [takeSign.eq_def]
          split
          · simp_all
          · simp_all
          · rfl

theorem exists_sign (characters : List Char) :
    ∃ sign : Sign,
      characters = sign.characters ++ (takeSign characters).2 ∧
        (takeSign characters).1 = sign.isMinus := by
  rw [takeSign.eq_def]
  split
  · exact ⟨.minus, rfl, rfl⟩
  · exact ⟨.plus, rfl, rfl⟩
  · exact ⟨.none, rfl, rfl⟩

theorem takeWhile_unsigned (whole : Digits) (behind? : Option Digits) :
    (unsigned whole behind?).takeWhile Char.isDigit = whole.characters := by
  rw [unsigned, List.takeWhile_append_of_pos fun _ => Digits.isDigit_of_mem]
  cases behind? with
  | none => exact List.append_nil _
  | some behind => exact List.append_nil _

theorem fractionPart_unsigned (whole : Digits) (behind? : Option Digits) :
    fractionPart ((unsigned whole behind?).dropWhile Char.isDigit) =
      (Digits.characters (behind?.getD []), []) := by
  rw [unsigned, List.dropWhile_append_of_pos fun _ => Digits.isDigit_of_mem]
  cases behind? with
  | none => rfl
  | some behind =>
      have rest : behind.characters.dropWhile Char.isDigit = [] :=
        List.dropWhile_eq_nil_iff.mpr fun _ => Digits.isDigit_of_mem
      have all : behind.characters.takeWhile Char.isDigit = behind.characters :=
        List.takeWhile_eq_self_iff.mpr fun _ => Digits.isDigit_of_mem
      change (_, _) = _
      rw [rest, all]
      rfl

end Decimal

namespace PlainDecimal

/-- The characters of a number leave no choice of what it is worth. -/
theorem value_eq_of_characters_eq
    {number other : PlainDecimal}
    (same : number.characters = other.characters) :
    number.value = other.value := by
  have taken := Decimal.takeSign_unsigned number.sign number.hasDigit
  rw [← characters, same, characters,
    Decimal.takeSign_unsigned other.sign other.hasDigit] at taken
  rcases Prod.mk.inj taken with ⟨sameSign, sameUnsigned⟩
  have sameWhole : other.whole = number.whole := by
    apply Digits.eq_of_characters_eq
    rw [← Decimal.takeWhile_unsigned other.whole other.behind?, sameUnsigned,
      Decimal.takeWhile_unsigned]
  have sameBehind : other.behind?.getD [] = number.behind?.getD [] := by
    have parts := Decimal.fractionPart_unsigned other.whole other.behind?
    rw [sameUnsigned, Decimal.fractionPart_unsigned] at parts
    exact Digits.eq_of_characters_eq (Prod.mk.inj parts).1.symm
  rw [value, value, Sign.factor, Sign.factor, magnitude, magnitude, sameSign, sameWhole,
    sameBehind]

end PlainDecimal

end Bookkeeping
