/-!
# Code points

A text is a list of code points.  Those of the halves, in which characters beyond
the basic plane are written in units of sixteen bits, are no characters, but
clients can send them.  A text is kept as characters all the same: a half is kept
as a mark and a stand-in behind it, and the character that serves as the mark is
kept twice.  Every other code point is kept as its character, so that the code
points of a text can be told from what is kept.
-/

namespace Bookkeeping.Text

/-! ## Halves -/

/-- Whether a unit is the first half of a character beyond the basic plane. -/
def isHighSurrogate (unit : Nat) : Bool :=
  0xD800 ≤ unit && unit < 0xDC00

/-- Whether a unit is the second half of a character beyond the basic plane. -/
def isLowSurrogate (unit : Nat) : Bool :=
  0xDC00 ≤ unit && unit < 0xE000

/-- Whether a code point is a half, and so no character. -/
def isHalf (point : Nat) : Bool :=
  0xD800 ≤ point && point < 0xE000

/-- The character of two halves. -/
def joined (high low : Nat) : Nat :=
  0x10000 + (high - 0xD800) * 1024 + (low - 0xDC00)

/-! ## Texts as they are kept -/

/-- The greatest code point, whose character serves as the mark. -/
def greatestPoint : Nat := 0x10FFFF

/-- The mark in front of a character that stands for something else. -/
def escapeMark : Char := Char.ofNat greatestPoint

/-- The distance from a half to its stand-in. -/
def halfDistance : Nat := 0x100000

/-- The characters as which a code point is kept. -/
def pointCharacters (point : Nat) : List Char :=
  if isHalf point then [escapeMark, Char.ofNat (point + halfDistance)]
  else if point = greatestPoint then [escapeMark, escapeMark]
  else [Char.ofNat point]

/-- The characters as which a list of code points is kept. -/
def ofPoints (points : List Nat) : List Char :=
  points.flatMap pointCharacters

/-- The characters as which a list of characters is kept. -/
def kept (characters : List Char) : List Char :=
  ofPoints (characters.map Char.toNat)

/-- The code point for which a character stands behind the mark. -/
def escaped? (character : Char) : Option Nat :=
  if character = escapeMark then some greatestPoint
  else if isHalf (character.toNat - halfDistance) then some (character.toNat - halfDistance)
  else none

/-- The code points of a text, given the characters as which it is kept. -/
def points : List Char → List Nat
  | [] => []
  | [character] => [character.toNat]
  | first :: second :: rest =>
    match if first = escapeMark then escaped? second else none with
    | some point => point :: points rest
    | none => first.toNat :: points (second :: rest)

/-- How many code points a text has. -/
def size (text : String) : Nat :=
  (points text.toList).length

/-! ## Units of sixteen bits -/

/-- The characters of a single unit; a number that is no unit is kept as its character. -/
def unitCharacters (unit : Nat) : List Char :=
  if isHalf unit then pointCharacters unit else [Char.ofNat unit]

/-- The characters of units: two halves in a row make one character. -/
def ofUnits : List Nat → List Char
  | [] => []
  | [unit] => unitCharacters unit
  | high :: low :: rest =>
    if isHighSurrogate high && isLowSurrogate low then
      pointCharacters (joined high low) ++ ofUnits rest
    else unitCharacters high ++ ofUnits (low :: rest)

/-! ## Units of eight bits -/

/-- The bytes of a code point, of which there are one to four. -/
def pointBytes (point : Nat) : List UInt8 :=
  let later (size : Nat) : UInt8 := UInt8.ofNat (0x80 + point / size % 64)
  if point < 0x80 then [UInt8.ofNat point]
  else if point < 0x800 then [UInt8.ofNat (0xC0 + point / 64), later 1]
  else if point < 0x10000 then [UInt8.ofNat (0xE0 + point / 4096), later 64, later 1]
  else [UInt8.ofNat (0xF0 + point / 262144), later 4096, later 64, later 1]

/-- The bytes of a text. -/
def bytes (characters : List Char) : List UInt8 :=
  (points characters).flatMap pointBytes

/-! ## Texts with halves -/

/-- Whether a text holds a half. -/
def hasHalf (text : String) : Bool :=
  (points text.toList).any isHalf

/-- The character for whatever is none. -/
def replacementCharacter : Char := Char.ofNat 0xFFFD

/-- The characters of a text, each half of one replaced. -/
def wholeCharacters (text : String) : List Char :=
  (points text.toList).map fun point =>
    if isHalf point then replacementCharacter else Char.ofNat point

/-- A run of halves in a text. -/
structure HalfRun where
  /-- How many code points precede the run. -/
  start : Nat
  /-- The first half. -/
  first : Nat
  /-- How many halves the run has. -/
  length : Nat
deriving DecidableEq, Repr

/-- The first run of halves, behind code points that were passed already. -/
def firstHalvesFrom (start : Nat) : List Nat → Option HalfRun
  | [] => none
  | point :: rest =>
    if isHalf point then some ⟨start, point, (rest.takeWhile isHalf).length + 1⟩
    else firstHalvesFrom (start + 1) rest

/-- The first run of halves in a text, as long as it is. -/
def firstHalves? (text : String) : Option HalfRun :=
  firstHalvesFrom 0 (points text.toList)

/-! ## Reading back -/

/-- A character in front of a text that is not the mark is a code point of its own. -/
theorem points_cons {first : Char} (plain : first ≠ escapeMark) (rest : List Char) :
    points (first :: rest) = first.toNat :: points rest := by
  cases rest with
  | nil => rfl
  | cons second rest => simp only [points, if_neg plain]

/-- Without the mark each character is a code point of its own. -/
theorem points_of_unmarked {characters : List Char} (unmarked : escapeMark ∉ characters) :
    points characters = characters.map Char.toNat := by
  induction characters with
  | nil => rfl
  | cons first rest hypothesis =>
    have plain : first ≠ escapeMark := by
      rintro rfl
      exact unmarked List.mem_cons_self
    rw [points_cons plain, hypothesis fun member => unmarked (List.mem_cons_of_mem _ member)]
    rfl

/-- The mark and a character that stands for a code point are that code point. -/
theorem points_escapeMark {second : Char} {point : Nat} (stands : escaped? second = some point)
    (rest : List Char) :
    points (escapeMark :: second :: rest) = point :: points rest := by
  simp only [points, if_true, stands]

/-- The code point of a character. -/
theorem toNat_ofNat {point : Nat} (valid : point.isValidChar) :
    (Char.ofNat point).toNat = point := by
  rw [Char.ofNat, dif_pos valid]
  rfl

/-- A code point is read back from the characters as which it is kept. -/
theorem points_pointCharacters {point : Nat} (known : point ≤ greatestPoint) (rest : List Char) :
    points (pointCharacters point ++ rest) = point :: points rest := by
  unfold greatestPoint at known
  rw [pointCharacters]
  split
  case isTrue half =>
    have bounds : 0xD800 ≤ point ∧ point < 0xE000 := by simpa [isHalf] using half
    have number : (Char.ofNat (point + halfDistance)).toNat = point + halfDistance := by
      refine toNat_ofNat (.inr ?_)
      unfold halfDistance
      omega
    have other : Char.ofNat (point + halfDistance) ≠ escapeMark := by
      intro same
      have numbers := congrArg Char.toNat same
      rw [number] at numbers
      have greatest : escapeMark.toNat = 0x10FFFF := rfl
      unfold halfDistance at numbers
      omega
    refine points_escapeMark ?_ rest
    rw [escaped?, if_neg other, number, Nat.add_sub_cancel, if_pos half]
  case isFalse whole =>
    split
    case isTrue greatest =>
      subst greatest
      exact points_escapeMark rfl rest
    case isFalse smaller =>
      unfold greatestPoint at smaller
      have valid : point.isValidChar := by
        simp only [isHalf, Bool.and_eq_true, decide_eq_true_eq, not_and] at whole
        rcases Nat.lt_or_ge point 0xD800 with low | high
        · exact .inl low
        · exact .inr ⟨by have := whole high; omega, by omega⟩
      have number := toNat_ofNat valid
      have other : Char.ofNat point ≠ escapeMark := by
        intro same
        have numbers := congrArg Char.toNat same
        rw [number] at numbers
        exact smaller numbers
      rw [List.singleton_append, points_cons other, number]

/-- The code points of a text are read back from the characters as which it is kept. -/
theorem points_ofPoints {codes : List Nat} (known : ∀ code ∈ codes, code ≤ greatestPoint) :
    points (ofPoints codes) = codes := by
  induction codes with
  | nil => rfl
  | cons code rest hypothesis =>
    have first := points_pointCharacters (known code List.mem_cons_self) (ofPoints rest)
    have others := hypothesis fun other member => known other (.tail _ member)
    exact first.trans (congrArg (code :: ·) others)

end Bookkeeping.Text
