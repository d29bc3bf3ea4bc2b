import Bookkeeping.Announcement
import Bookkeeping.Settings

/-!
# Keeping records

A recorder writes the records that are grave enough.  Each record has an origin,
a name with parts between points, and an origin passes its threshold on to the
origins below it.  Everything obeys the configured level, except for what the
database layer reports about itself: that is kept from warnings upward, and its
statements are kept while the configuration asks for debugging.
-/

namespace Bookkeeping

/-- Something that an origin says. -/
structure OriginRecord where
  origin : String
  severity : Severity
  message : String

/-- From which severity upward records are kept. -/
structure Recorder where
  /-- The threshold of everything that has none of its own. -/
  threshold : Severity
  /-- The threshold of the statements of the database layer. -/
  statementThreshold : Severity

/-- Why something that an origin should say is not said. -/
inductive RecordFault where
  /-- It has fewer or more than an origin, a severity and a message. -/
  | badCount (parts : Nat)
  /-- The origin is no text. -/
  | origin
  /-- The name of the severity is no text. -/
  | severityName (value : Value)
  /-- No severity has the name. -/
  | unknownSeverity (name : String)
  /-- The name is known, but is not one of a severity. -/
  | noSeverity

namespace RecordFault

def report : RecordFault → Report
  | .badCount parts =>
    Failure.plainReport "ValueError"
      (if parts < 3 then
        "not enough values to unpack (expected 3, got " ++ Number.naturalText parts ++ ")"
      else "too many values to unpack (expected 3)")
  | .origin => Failure.plainReport "TypeError" "A logger name must be a string"
  | .severityName value =>
    Failure.plainReport "TypeError"
      ("attribute name must be string, not '" ++ value.kind ++ "'")
  | .unknownSeverity name =>
    Failure.plainReport "AttributeError"
      ("module 'logging' has no attribute '" ++ name ++ "'")
  | .noSeverity => Failure.plainReport "TypeError" "level must be an integer"

end RecordFault

namespace OriginRecord

/-- The origin that a value names; one that does not count as given is the uppermost one. -/
def originOf (value : Value) : Except RecordFault String :=
  match value with
  | .text name => .ok name
  | _ => if value.isTruthy then .error .origin else .ok ""

/-- The names that are known and are not those of a severity. -/
def otherNames : List String :=
  ["debug", "info", "warning", "warn", "error", "critical", "fatal", "exception", "log"]

/-- The severity that a value names. -/
def severityOf : Value → Except RecordFault Severity
  | .text name =>
    match Severity.named? name with
    | some severity => .ok severity
    | none => .error (if otherNames.contains name then .noSeverity else .unknownSeverity name)
  | value => .error (.severityName value)

/-- What a list of an origin, a severity and a message says. -/
def ofParts : List Value → Except RecordFault OriginRecord
  | [origin, severity, message] => do
    return ⟨← originOf origin, ← severityOf severity, message.shown⟩
  | parts => .error (.badCount parts.length)

end OriginRecord

namespace Recorder

/-- The origin of what the database layer reports. -/
def databaseOrigin : String := "sqlalchemy"

/-- The origin of the statements that the database layer reports. -/
def statementOrigin : String := databaseOrigin ++ ".engine"

/-- The origin of records that name none. -/
def rootOrigin : String := "root"

/-- Whether an origin is another one, or lies below it. -/
def isWithin (origin upper : String) : Bool :=
  origin == upper || (upper ++ ".").toList.isPrefixOf origin.toList

/-- The threshold that a level means; without one it stays at warnings. -/
def thresholdOf? : Value → Option Severity
  | .null => some .warning
  | level => Severity.ofValue? level

/-- The recorder that settings ask for; there is none if the level is unknown. -/
def ofSettings? (settings : Settings) : Option Recorder :=
  (thresholdOf? (settings.value .logLevel)).map fun threshold => {
    threshold := threshold
    statementThreshold := if (settings.value .debug).isTruthy then .info else .warning }

/-- The report on settings whose level is unknown. -/
def unknownLevel : Report :=
  Failure.plainReport "ValueError" "Unable to configure root logger"

/-- The threshold that an origin obeys. -/
def thresholdAt (recorder : Recorder) (origin : String) : Severity :=
  if isWithin origin statementOrigin then recorder.statementThreshold
  else if isWithin origin databaseOrigin then .warning
  else recorder.threshold

/-- Whether a record is kept; one without a rank never is. -/
def keeps (recorder : Recorder) (record : OriginRecord) : Bool :=
  0 < record.severity.rank && (recorder.thresholdAt record.origin).rank ≤ record.severity.rank

/-- The line that a record makes. -/
def line (record : OriginRecord) : String :=
  let origin := if record.origin.isEmpty then rootOrigin else record.origin
  record.severity.name ++ " [" ++ origin ++ "] " ++ record.message

/-- The lines of the records that are kept. -/
def lines (recorder : Recorder) (records : List OriginRecord) : List String :=
  (records.filter recorder.keeps).map line

/-- What is put on record when a recorder is set up. -/
def opening (settings : Settings) : Announcement :=
  .recordsKept (settings.value .logLevel) (settings.value .environment)

def ofAnnouncement (announcement : Announcement) : OriginRecord where
  origin := announcement.origin
  severity := announcement.severity
  message := announcement.message

/--
Sets up a recorder and lets it keep what lists of parts say; the answer tells the
thresholds and the lines.
-/
def session (settings : Settings) (parts : List (List Value)) : Except Report Value := do
  match ofSettings? settings with
  | none => .error unknownLevel
  | some recorder =>
    let records ← (parts.mapM OriginRecord.ofParts).mapError RecordFault.report
    let lines := recorder.lines (ofAnnouncement (opening settings) :: records)
    .ok (.record [("root", .text recorder.threshold.name),
      (statementOrigin, .text recorder.statementThreshold.name),
      ("lines", .list (lines.map Value.text))])

end Recorder

end Bookkeeping
