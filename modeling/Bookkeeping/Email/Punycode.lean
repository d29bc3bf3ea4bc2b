/-!
# Punycode

A label with characters beyond ASCII is also written with ASCII characters alone:
first its own ones, then, behind a hyphen, digits in base thirty-six that tell
which other characters stand where.  They are told in the order of their code
points; each is told by how far it is from the one before, counting all places
of all code points between.
-/

namespace Bookkeeping.Email.Punycode

/-- The digit of a value: the letters come first. -/
def digit (value : Nat) : Char :=
  if value < 26 then Char.ofNat (97 + value) else Char.ofNat (22 + value)

def value? (character : Char) : Option Nat :=
  let code := character.toNat
  if 97 ≤ code ∧ code ≤ 122 then some (code - 97)
  else if 48 ≤ code ∧ code ≤ 57 then some (code - 22)
  else none

/-- The values of the digits of a number below the last are at least this. -/
def threshold (bias place : Nat) : Nat :=
  if place ≤ bias then 1 else if bias + 26 ≤ place then 26 else place - bias

theorem threshold_pos (bias place : Nat) : 0 < threshold bias place := by
  unfold threshold
  split
  · omega
  · split <;> omega

/-- Scales a distance down until it is small, and counts the places that it loses. -/
def scaled (distance places : Nat) : Nat × Nat :=
  if 455 < distance then scaled (distance / 35) (places + 36) else (distance, places)
termination_by distance
decreasing_by exact Nat.div_lt_self (by omega) (by omega)

/-- The bias for the next number, after a distance that led to so many characters. -/
def adapted (distance count : Nat) (isFirst : Bool) : Nat :=
  let halved := if isFirst then distance / 700 else distance / 2
  let (small, places) := scaled (halved + halved / count) 0
  places + 36 * small / (small + 38)

/-! ## Writing -/

/-- The digits of a number, the lowest first; a digit below its threshold is the last. -/
def digits (bias place number : Nat) : List Char :=
  let lowest := threshold bias place
  if number < lowest then [digit number]
  else
    let steps := 36 - lowest
    digit (lowest + (number - lowest) % steps) ::
      digits bias (place + 36) ((number - lowest) / steps)
termination_by number
decreasing_by
  have positive := threshold_pos bias place
  have smaller := Nat.div_le_self (number - threshold bias place) (36 - threshold bias place)
  omega

/-- What is written, and what the next number will count from. -/
structure Writing where
  written : List Char
  distance : Nat
  bias : Nat
  count : Nat
  isFirst : Bool

/-- Passes a character of the label while the characters of one code point are told. -/
def Writing.pass (code : Nat) (writing : Writing) (character : Char) : Writing :=
  if character.toNat < code then { writing with distance := writing.distance + 1 }
  else if character.toNat = code then
    { written := writing.written ++ digits writing.bias 36 writing.distance
      distance := 0
      bias := adapted writing.distance (writing.count + 1) writing.isFirst
      count := writing.count + 1
      isFirst := false }
  else writing

/-- Tells all characters of code points in growing order, of which the first follows `passed`. -/
def writeFrom (label : List Char) (passed : Nat) (writing : Writing) : List Nat → Writing
  | [] => writing
  | code :: rest =>
    let far := { writing with
      distance := writing.distance + (code - passed) * (writing.count + 1) }
    let told := label.foldl (Writing.pass code) far
    writeFrom label (code + 1) { told with distance := told.distance + 1 } rest

/-- Puts a number into growing ones, unless it is among them. -/
def inserted (number : Nat) : List Nat → List Nat
  | [] => [number]
  | next :: rest =>
    if number < next then number :: next :: rest
    else if number = next then next :: rest
    else next :: inserted number rest

/-- Whether a character needs no digits. -/
def isBasic (character : Char) : Bool :=
  character.toNat < 128

/-- The characters that write a label. -/
def encode (label : List Char) : List Char :=
  let basic := label.filter isBasic
  let codes := ((label.filter (!isBasic ·)).map Char.toNat).foldr inserted []
  let front := if basic.isEmpty then [] else basic ++ ['-']
  front ++ (writeFrom label 128 ⟨[], 0, 72, basic.length, true⟩ codes).written

/-! ## Reading -/

/-- What has been read, and the number under way. -/
structure Reading where
  read : List Char
  code : Nat
  position : Nat
  bias : Nat
  isFirst : Bool
  number : Nat
  weight : Nat
  place : Nat

/-- Nothing but the basic characters has been read. -/
def Reading.start (basic : List Char) : Reading where
  read := basic
  code := 128
  position := 0
  bias := 72
  isFirst := true
  number := 0
  weight := 1
  place := 36

/-- Puts the character in that the number under way tells, if there is such a character. -/
def Reading.complete (reading : Reading) : Option Reading :=
  let count := reading.read.length + 1
  let reached := reading.position + reading.number
  let code := reading.code + reached / count
  let position := reached % count
  if code.isValidChar then
    some {
      read := reading.read.take position ++ Char.ofNat code :: reading.read.drop position
      code := code
      position := position + 1
      bias := adapted reading.number count reading.isFirst
      isFirst := false
      number := 0
      weight := 1
      place := 36 }
  else none

def Reading.next (reading : Reading) (character : Char) : Option Reading := do
  let value ← value? character
  let lowest := threshold reading.bias reading.place
  let further := { reading with number := reading.number + value * reading.weight }
  if value < lowest then further.complete
  else
    return { further with
      weight := reading.weight * (36 - lowest)
      place := reading.place + 36 }

/-- The label that characters write. -/
def decode? (characters : List Char) : Option (List Char) := do
  let reversed := characters.reverse
  let ending := (reversed.takeWhile (· != '-')).reverse
  let basic := (reversed.drop (ending.length + 1)).reverse
  let reading ← ending.foldlM Reading.next (.start basic)
  if reading.weight = 1 then return reading.read else none

end Bookkeeping.Email.Punycode
