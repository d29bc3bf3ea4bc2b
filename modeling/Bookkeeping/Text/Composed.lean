import Bookkeeping.Text.Combining
import Bookkeeping.Text.Decomposition

/-!
# The composed form

Texts that read the same may be written with composed characters or with their
parts.  The composed form of a text takes all characters apart, puts the marks in
order, and composes every character with the marks that follow it, as long as no
mark of the same class is left between them.
-/

namespace Bookkeeping.Text

/-- Whether a code point meets the base with nothing of its class or a higher one between. -/
def meetsBase (between : List Nat) (code : Nat) : Bool :=
  match between.getLast? with
  | none => true
  | some last => combiningClass last < combiningClass code

/-- Composes a base with what follows it, behind the marks that did not compose with it. -/
def composedFrom (base : Nat) (between : List Nat) : List Nat → List Nat
  | [] => base :: between
  | code :: rest =>
    match if meetsBase between code then whole? base code else none with
    | some whole => composedFrom whole between rest
    | none =>
      if combiningClass code = 0 then base :: between ++ composedFrom code [] rest
      else composedFrom base (between ++ [code]) rest

/-- The composed form of code points. -/
def composedCodes (codes : List Nat) : List Nat :=
  match ordered (codes.flatMap decomposed) with
  | [] => []
  | base :: rest => composedFrom base [] rest

/-- The composed form of a text; plain characters are composed already. -/
def composed (characters : List Char) : List Char :=
  if characters.all (·.toNat < 192) then characters
  else (composedCodes (characters.map Char.toNat)).map Char.ofNat

end Bookkeeping.Text
