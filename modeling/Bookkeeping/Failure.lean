import Bookkeeping.Identifier
import Bookkeeping.Mismatch
import Bookkeeping.Money
import Bookkeeping.Notice
import Bookkeeping.Timestamp.Reader

/-!
# Failures

Whatever can go wrong while the bank works.  Refusals of the ledger itself come
with a notice; all other failures are known by the name of their kind and a
message.  A failure may carry the one that caused it.
-/

namespace Bookkeeping

/-- A condition on rows that every insertion is checked against. -/
inductive Constraint where
  /-- A debit may not be negative. -/
  | debitNonNegative
  /-- A credit may not be negative. -/
  | creditNonNegative
  /-- Exactly one side of an entry is positive, and the other is zero. -/
  | singleSide
  /-- A row may only refer to rows that exist. -/
  | reference
  /-- A column has to be given. -/
  | given (column : String)
  /-- No two users share an address. -/
  | distinctEmail
deriving DecidableEq, Repr

/-- How a violated constraint is reported. -/
def Constraint.message : Constraint → String
  | .debitNonNegative => "CHECK constraint failed: check_debit_non_negative"
  | .creditNonNegative => "CHECK constraint failed: check_credit_non_negative"
  | .singleSide => "CHECK constraint failed: check_single_side"
  | .reference => "FOREIGN KEY constraint failed"
  | .given column => "NOT NULL constraint failed: " ++ column
  | .distinctEmail => "UNIQUE constraint failed: users.email"

/-- What someone tried to do to an entry. -/
inductive Change where
  | update
  | delete
deriving DecidableEq, Repr

/-- A change in the words of its report. -/
def Change.participle : Change → String
  | .update => "updated"
  | .delete => "deleted"

/-- Why an operation failed. -/
inductive Failure where
  /-- The value is no amount. -/
  | invalidAmount (value : Value)
  /-- The accounts keep different currencies. -/
  | currencyMismatch (expected actual : String)
  /-- The balance is below the amount. -/
  | insufficientFunds (account : Identifier) (requested available : Money)
  /-- A transfer from an account to itself. -/
  | sameAccountTransfer (account : Identifier)
  /-- The account is the bank's own. -/
  | systemAccount (account : Identifier)
  /-- No account has the identifier. -/
  | accountNotFound (account : Identifier)
  /-- No account of the bank's own has the name. -/
  | settlementNotFound (name : Value)
  /-- No entry belongs to the group. -/
  | transactionNotFound (group : Identifier)
  /-- No user has the identifier. -/
  | userNotFound (user : Identifier)
  /-- Another user has the address. -/
  | userAlreadyExists (email : Value)
  /-- The entry was posted and stays as it is. -/
  | immutableEntry (entry : Identifier) (change : Change)
  /-- The unit of work could not be committed. -/
  | commitFailed (cause : Failure)
  /-- The unit of work failed and could not be rolled back. -/
  | rollbackFailed (cause rollback : Failure)
  /-- A row violates a constraint. -/
  | violated (constraint : Constraint)
  /-- Another unit of work holds the lock for writing. -/
  | locked
  /-- An earlier failure has already undone the unit of work. -/
  | undone (cause : Failure)
  /-- The storage refused to commit. -/
  | storageRefused
  /-- The storage was lost while rolling back. -/
  | storageLost
  /-- An integer does not fit the storage. -/
  | integerTooLarge
  /-- A list has no member at the index. -/
  | indexOutOfRange
  /-- The value names no operation of the ledger. -/
  | unknownOperation (value : Value)
  /-- The text names no level of isolation. -/
  | unknownIsolation (level : String)
  /-- The text is no identifier. -/
  | malformedIdentifier
  /-- The storage keeps no values of this kind; the statement has the value at a place. -/
  | unstorable (place : Nat) (value : Value)
  /-- The text holds a half of a character, which has no bytes. -/
  | unwritable (run : Text.HalfRun)
  /-- A value cannot be used for what it was handed in for. -/
  | mismatched (mismatch : Mismatch)
  /-- The text is no time. -/
  | untimely (fault : Timestamp.Fault)
  /-- The clock cannot go on. -/
  | calendarEnd
  /-- A failure of the caller's own, raised in the midst of its work. -/
  | raised (kind : String) (details : Value)

/-- How a failure is told to others. -/
inductive Report where
  /-- A failure of the ledger itself is told by its notice. -/
  | ofLedger (notice : Notice)
  /-- Any other failure is told by a name and a message; others quote it by its details. -/
  | ofHost (name message : String) (details : Value)

namespace Report

def message : Report → String
  | .ofLedger notice => notice.message
  | .ofHost _ message _ => message

/-- The report as another failure quotes it. -/
def quoted : Report → String
  | .ofLedger notice => notice.quoted
  | .ofHost name _ details => name ++ "(" ++ details.quoted ++ ")"

/-- The notice of a report of the ledger itself. -/
def notice? : Report → Option Notice
  | .ofLedger notice => some notice
  | .ofHost _ _ _ => none

def value : Report → Value
  | .ofLedger notice => notice.report
  | .ofHost name message _ => .record [("error", .text name), ("message", .text message)]

end Report

namespace Failure

/-- A failure that others quote by its message. -/
def plainReport (name message : String) : Report :=
  .ofHost name message (.text message)

/-- A failure of the database, which is quoted with the name that the database gives it. -/
def databaseReport (name message : String) : Report :=
  .ofHost name message (.text ("(sqlite3." ++ name ++ ") " ++ message))

/-- Where the database layer explains a failure. -/
def explanation (code : String) : String :=
  " (Background on this error at: https:" ++ "//sqlalche.me/e/21/" ++ code ++ ")"

/-- What is told of a session that an earlier failure has undone. -/
def undoneMessage (cause : String) : String :=
  "This Session's transaction has been rolled back due to a previous exception during " ++
    "flush. To begin a new transaction with this Session, first issue Session.rollback(). " ++
    "Original exception was: " ++ cause

/-- What is told of a text that has no bytes. -/
def unwritableMessage (run : Text.HalfRun) : String :=
  let start := Number.naturalText run.start
  "'utf-8' codec can't encode " ++
    (if run.length = 1 then
      "character '\\u" ++ String.ofList (Text.hexText 4 run.first) ++ "' in position " ++ start
    else
      "characters in position " ++ start ++ "-" ++
        Number.naturalText (run.start + run.length - 1)) ++
    ": surrogates not allowed"

def report : Failure → Report
  | .invalidAmount value => .ofLedger (.invalidAmount value)
  | .currencyMismatch expected actual =>
    .ofLedger (.currencyMismatch (.text expected) (.text actual))
  | .insufficientFunds account requested available =>
    .ofLedger (.insufficientFunds (.text account.text) (.text requested.text)
      (.text available.text))
  | .sameAccountTransfer account => .ofLedger (.sameAccountTransfer (.text account.text))
  | .systemAccount account => .ofLedger (.systemAccount (.text account.text))
  | .accountNotFound account => .ofLedger (.accountNotFound (.text account.text))
  | .settlementNotFound name => .ofLedger (.accountNotFound name)
  | .transactionNotFound group => .ofLedger (.transactionNotFound (.text group.text))
  | .userNotFound user => .ofLedger (.userNotFound (.text user.text))
  | .userAlreadyExists email => .ofLedger (.userAlreadyExists email)
  | .immutableEntry entry change =>
    .ofLedger (.immutableEntry (.text entry.text) (.text change.participle))
  | .commitFailed cause => .ofLedger (.commitFailed cause.report.message)
  | .rollbackFailed cause rollback =>
    .ofLedger (.rollbackFailed cause.report.message rollback.report.message
      cause.report.quoted rollback.report.quoted)
  | .violated constraint => databaseReport "IntegrityError" constraint.message
  | .locked => databaseReport "OperationalError" "database is locked"
  | .undone cause =>
    let message := undoneMessage cause.report.message
    .ofHost "PendingRollbackError" (message ++ explanation "7s2a") (.text message)
  | .storageRefused => plainReport "SQLAlchemyError" "disk I/O error"
  | .storageLost => plainReport "SQLAlchemyError" "connection lost"
  | .integerTooLarge =>
    plainReport "OverflowError" "Python int too large to convert to SQLite INTEGER"
  | .indexOutOfRange => plainReport "IndexError" "list index out of range"
  | .unknownOperation value =>
    plainReport "ValueError" (value.quoted ++ " is not a valid OperationType")
  | .unknownIsolation level =>
    plainReport "ArgumentError"
      ("Invalid value " ++ Text.quoted level ++ " for isolation_level. Valid isolation levels " ++
        "for 'sqlite' are READ UNCOMMITTED, SERIALIZABLE, AUTOCOMMIT")
  | .malformedIdentifier => plainReport "ValueError" "badly formed hexadecimal UUID string"
  | .unstorable place value =>
    databaseReport "ProgrammingError"
      ("Error binding parameter " ++ Number.naturalText place ++ ": type '" ++ value.kind ++
        "' is not supported")
  | .unwritable run => plainReport "UnicodeEncodeError" (unwritableMessage run)
  | .mismatched mismatch => plainReport mismatch.name mismatch.message
  | .untimely fault => plainReport "ValueError" fault.message
  | .calendarEnd => plainReport "OverflowError" "date value out of range"
  | .raised kind details =>
    .ofHost kind (if kind = "KeyError" then details.quoted else details.shown) details

def message (failure : Failure) : String :=
  failure.report.message

/-- The notice of a failure of the ledger itself. -/
def notice? (failure : Failure) : Option Notice :=
  failure.report.notice?

/-- Whether a failure is one of the database, and not one of the host that talks to it. -/
def isOfDatabase : Failure → Bool
  | .violated _ | .locked | .undone _ | .storageRefused | .storageLost | .unstorable _ _
  | .unknownIsolation _ => true
  | _ => false

end Failure

end Bookkeeping
