import Bookkeeping.Value

/-!
# Severities

How grave a record is.  A severity is a rank, and the name that a record bears
for it; a record is kept from some severity upward.  Two severities have a second
name, which is only understood, never written.  A configuration may also refer to a
severity by the place where it is defined, or to another part of the configuration.
-/

namespace Bookkeeping

/-- A rank of records with its name. -/
structure Severity where
  rank : Int
  name : String
deriving DecidableEq

namespace Severity

/-- What only helps to find a mistake. -/
def debug : Severity := ⟨10, "DEBUG"⟩

/-- What went as it should. -/
def info : Severity := ⟨20, "INFO"⟩

/-- What may be a mistake. -/
def warning : Severity := ⟨30, "WARNING"⟩

/-- What went wrong. -/
def error : Severity := ⟨40, "ERROR"⟩

/-- What cannot be lived with. -/
def critical : Severity := ⟨50, "CRITICAL"⟩

/-- The rank below all others, as a threshold that everything passes. -/
def unset : Severity := ⟨0, "NOTSET"⟩

/-- The severities with a name of their own. -/
def all : List Severity :=
  [unset, debug, info, warning, error, critical]

/-- The second names. -/
def aliases : List (String × Severity) :=
  [("WARN", warning), ("FATAL", critical)]

/-- The severity that a name means. -/
def named? (name : String) : Option Severity :=
  (all.find? fun severity => severity.name = name).or (aliases.lookup name)

/-- The severity of a rank. -/
def ofRank (rank : Int) : Severity :=
  (all.find? fun severity => severity.rank = rank).getD
    ⟨rank, "Level " ++ Number.integerText rank⟩

/-- The severities that are defined outside of the configuration, by their places. -/
def definedOutside? (place : String) : Option Severity :=
  if place = "sys.maxsize" then some (ofRank (Number.wordLimit - 1))
  else
    let front := "logging."
    if place.startsWith front then named? (String.ofList (place.toList.drop front.length))
    else none

/-- The parts of the configuration that can be read as a rank. -/
def configured? (part : String) : Option Severity :=
  match Text.strip part with
  | "version" => some (ofRank 1)
  | "disable_existing_loggers" => some unset
  | _ => none

/-- What follows a mark in front of a text. -/
def behind? (mark text : String) : Option String :=
  if text.startsWith mark then some (String.ofList (text.toList.drop mark.length)) else none

/-- The severity that a text refers to or names. -/
def ofText? (text : String) : Option Severity :=
  match behind? "ext://" text, behind? "cfg://" text with
  | some place, _ => definedOutside? place
  | none, some part => configured? part
  | none, none => named? text

/-- The severity that a value means: by name, by rank, or by a truth value as a rank. -/
def ofValue? : Value → Option Severity
  | .text text => ofText? text
  | .int rank => some (ofRank rank)
  | .bool true => some ⟨1, "Level " ++ (Value.bool true).shown⟩
  | .bool false => some unset
  | _ => none

/-- A severity is found by its name. -/
theorem named?_name {severity : Severity} (member : severity ∈ all) :
    named? severity.name = some severity := by
  simp only [all, List.mem_cons, List.not_mem_nil, or_false] at member
  rcases member with rfl | rfl | rfl | rfl | rfl | rfl <;> rfl

end Severity

end Bookkeeping
