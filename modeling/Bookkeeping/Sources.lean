import Bookkeeping.Identifier
import Bookkeeping.Timestamp

/-!
# Sources of identifiers and times

Every kind of identifier has a counter, and all kinds share one clock.  What
was drawn is never given back, so no identifier is drawn twice.
-/

namespace Bookkeeping

/-- How many identifiers of each kind were drawn, and the current time. -/
structure Sources where
  users : Nat
  accounts : Nat
  entries : Nat
  groups : Nat
  clock : Timestamp
  /-- How far the zone of the clock is ahead, in microseconds; nobody has to say. -/
  zone : Option Int
deriving DecidableEq

namespace Sources

/-- Nothing was drawn yet. -/
def fresh : Sources where
  users := 0
  accounts := 0
  entries := 0
  groups := 0
  clock := .opening
  zone := none

/-- How many identifiers of a kind were drawn. -/
def count (sources : Sources) : Identifier.Kind → Nat
  | .user => sources.users
  | .account => sources.accounts
  | .entry => sources.entries
  | .group => sources.groups

/-- The sources after one more identifier of a kind. -/
def advance (sources : Sources) : Identifier.Kind → Sources
  | .user => { sources with users := sources.users + 1 }
  | .account => { sources with accounts := sources.accounts + 1 }
  | .entry => { sources with entries := sources.entries + 1 }
  | .group => { sources with groups := sources.groups + 1 }

def upcoming (sources : Sources) (kind : Identifier.Kind) : Identifier :=
  .drawn kind (sources.count kind + 1)

/-- The sources after an object of a kind was made: it took an identifier and a second. -/
def afterMaking (sources : Sources) (kind : Identifier.Kind) : Sources :=
  { sources.advance kind with clock := sources.clock.next }

end Sources

end Bookkeeping
