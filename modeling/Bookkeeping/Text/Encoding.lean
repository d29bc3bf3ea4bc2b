import Bookkeeping.Text.CodePoint

/-!
# Bytes that write a text

A text can come as bytes in units of one, two or four bytes, in either order.
The first bytes tell which, since a text that is sent starts with an ASCII
character: its zero bytes are then where the unit has them.
-/

namespace Bookkeeping.Text

/-- How bytes write a text. -/
inductive Encoding where
  /-- Units of one byte. -/
  | single
  /-- Units of two bytes. -/
  | double (isBigEndian : Bool)
  /-- Units of four bytes. -/
  | quadruple (isBigEndian : Bool)
deriving DecidableEq, Repr

/-- The encoding that the first bytes tell. -/
def Encoding.ofBytes : List UInt8 → Encoding
  | [first, second] =>
    if first = 0 then .double true else if second = 0 then .double false else .single
  | first :: second :: third :: fourth :: _ =>
    if first = 0 then (if second = 0 then .quadruple true else .double true)
    else if second = 0 then
      (if third = 0 ∧ fourth = 0 then .quadruple false else .double false)
    else .single
  | _ => .single

/-- The number that two bytes write. -/
def pairNumber (isBigEndian : Bool) (first second : UInt8) : Nat :=
  if isBigEndian then first.toNat * 256 + second.toNat else second.toNat * 256 + first.toNat

/-- The units that pairs of bytes write; no byte may be left over. -/
def doubleUnits? (isBigEndian : Bool) : List UInt8 → Option (List Nat)
  | [] => some []
  | first :: second :: rest =>
    (doubleUnits? isBigEndian rest).map (pairNumber isBigEndian first second :: ·)
  | [_] => none

/-- The numbers that fours of bytes write; no byte may be left over. -/
def quadrupleUnits? (isBigEndian : Bool) : List UInt8 → Option (List Nat)
  | [] => some []
  | first :: second :: third :: fourth :: rest =>
    let front := pairNumber isBigEndian first second
    let back := pairNumber isBigEndian third fourth
    let number := if isBigEndian then front * 65536 + back else back * 65536 + front
    (quadrupleUnits? isBigEndian rest).map (number :: ·)
  | _ => none

/-- The text that is read when another one was sent, in units of one byte. -/
def received? (sent : String) : Option String :=
  let bytes := bytes sent.toList
  match Encoding.ofBytes bytes with
  | .single => some sent
  | .double isBigEndian =>
    (doubleUnits? isBigEndian bytes).map fun units => String.ofList (ofUnits units)
  | .quadruple isBigEndian =>
    match quadrupleUnits? isBigEndian bytes with
    | none => none
    | some codes =>
      if codes.all (· ≤ greatestPoint) then some (String.ofList (ofPoints codes)) else none

end Bookkeeping.Text
