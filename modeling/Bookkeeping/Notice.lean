import Bookkeeping.Mismatch

/-!
# Notices

Everything that the ledger refuses is reported by a notice: a kind from a
closed set, a message for people, and details for programs.  Clients branch on
the kind, never on the message, and the kind alone fixes the status of an HTTP
answer.
-/

namespace Bookkeeping

/-- The closed set of reasons that a notice can give. -/
inductive NoticeKind where
  | invalidAmount
  | currencyMismatch
  | insufficientFunds
  | sameAccountTransfer
  | systemAccount
  | accountNotFound
  | transactionNotFound
  | userNotFound
  | userAlreadyExists
  | immutableEntry
  | commitFailed
  | rollbackFailed
deriving DecidableEq, Repr

namespace NoticeKind

/-- The code by which programs know a kind. -/
def code : NoticeKind → String
  | .invalidAmount => "INVALID_AMOUNT"
  | .currencyMismatch => "CURRENCY_MISMATCH"
  | .insufficientFunds => "INSUFFICIENT_FUNDS"
  | .sameAccountTransfer => "SAME_ACCOUNT_TRANSFER"
  | .systemAccount => "SYSTEM_ACCOUNT"
  | .accountNotFound => "ACCOUNT_NOT_FOUND"
  | .transactionNotFound => "TRANSACTION_NOT_FOUND"
  | .userNotFound => "USER_NOT_FOUND"
  | .userAlreadyExists => "USER_ALREADY_EXISTS"
  | .immutableEntry => "IMMUTABLE_ENTRY"
  | .commitFailed => "COMMIT_FAILED"
  | .rollbackFailed => "ROLLBACK_FAILED"

/-- The name under which a kind appears when one failure quotes another. -/
def name : NoticeKind → String
  | .invalidAmount => "InvalidAmount"
  | .currencyMismatch => "CurrencyMismatch"
  | .insufficientFunds => "InsufficientFunds"
  | .sameAccountTransfer => "SameAccountTransfer"
  | .systemAccount => "SystemAccountOperation"
  | .accountNotFound => "AccountNotFound"
  | .transactionNotFound => "TransactionNotFound"
  | .userNotFound => "UserNotFound"
  | .userAlreadyExists => "UserAlreadyExists"
  | .immutableEntry => "ImmutableEntryError"
  | .commitFailed => "CommitFailedError"
  | .rollbackFailed => "RollbackFailedError"

/-- Whether the client sent something that will be refused every time. -/
def isClientError : NoticeKind → Bool
  | .invalidAmount | .currencyMismatch | .insufficientFunds | .sameAccountTransfer
  | .systemAccount => true
  | _ => false

/-- Whether the client named something that does not exist. -/
def isNotFound : NoticeKind → Bool
  | .accountNotFound | .transactionNotFound | .userNotFound => true
  | _ => false

/--
The status of an HTTP answer.  A failed commit or rollback left nothing behind,
so the client may try again.
-/
def status (kind : NoticeKind) : Nat :=
  if kind.isClientError then 400
  else if kind.isNotFound then 404
  else
    match kind with
    | .userAlreadyExists => 409
    | .commitFailed | .rollbackFailed => 503
    | _ => 500

end NoticeKind

/-- A refusal or failure of the ledger, as it is reported. -/
structure Notice where
  kind : NoticeKind
  message : String
  details : List (String × Value)

namespace Notice

/-- The report of a notice: kind, message and details. -/
def report (notice : Notice) : Value :=
  .record [("error", .text notice.kind.code), ("message", .text notice.message),
    ("details", .record notice.details)]

/-- The notice as another failure quotes it: its name and its message. -/
def quoted (notice : Notice) : String :=
  notice.kind.name ++ "(" ++ Text.quoted notice.message ++ ")"

/-- A value is no amount of money. -/
def invalidAmount (value : Value) : Notice where
  kind := .invalidAmount
  message := "amount must be a positive decimal with at most 4 fractional digits"
  details := [("value", .text value.shown)]

/-- Two accounts of one operation keep different currencies. -/
def currencyMismatch (expected actual : Value) : Notice where
  kind := .currencyMismatch
  message := "currency mismatch: expected " ++ expected.shown ++ ", got " ++ actual.shown
  details := [("expected", expected), ("actual", actual)]

/-- A balance is below the amount that should leave the account. -/
def insufficientFunds (account requested available : Value) : Notice where
  kind := .insufficientFunds
  message := "insufficient funds in account " ++ account.shown ++ ": requested " ++
    requested.shown ++ ", available " ++ available.shown
  details := [("account_id", .text account.shown), ("requested", .text requested.shown),
    ("available", .text available.shown)]

/-- A transfer names one account twice. -/
def sameAccountTransfer (account : Value) : Notice where
  kind := .sameAccountTransfer
  message := "cannot transfer to the same account"
  details := [("account_id", .text account.shown)]

/-- A client's operation names an account of the bank's own. -/
def systemAccount (account : Value) : Notice where
  kind := .systemAccount
  message := "account " ++ account.shown ++ " is a system account"
  details := [("account_id", .text account.shown)]

/-- No account has the identifier or the name. -/
def accountNotFound (account : Value) : Notice where
  kind := .accountNotFound
  message := "Account " ++ account.shown ++ " not found"
  details := [("account_id", .text account.shown)]

/-- No entry belongs to the group. -/
def transactionNotFound (group : Value) : Notice where
  kind := .transactionNotFound
  message := "Transaction " ++ group.shown ++ " not found"
  details := [("transaction_id", .text group.shown)]

/-- No user has the identifier. -/
def userNotFound (user : Value) : Notice where
  kind := .userNotFound
  message := "User " ++ user.shown ++ " not found"
  details := [("user_id", .text user.shown)]

/-- Another user has the address. -/
def userAlreadyExists (email : Value) : Notice where
  kind := .userAlreadyExists
  message := "User with email '" ++ email.shown ++ "' already exists"
  details := [("email", email)]

/-- An entry that was posted should be changed. -/
def immutableEntry (entry change : Value) : Notice where
  kind := .immutableEntry
  message := "Entry " ++ entry.shown ++ " is immutable and cannot be " ++ change.shown
  details := [("entry_id", .text entry.shown), ("operation", change)]

/-- The work was done, but could not be committed. -/
def commitFailed (cause : String) : Notice where
  kind := .commitFailed
  message := "commit failed: " ++ cause
  details := []

/-- The work failed, and could not be rolled back either. -/
def rollbackFailed (cause rollback quotedCause quotedRollback : String) : Notice where
  kind := .rollbackFailed
  message := "tx failed: " ++ cause ++ ", rollback failed: " ++ rollback
  details := [("original", .text quotedCause), ("rollback_error", .text quotedRollback)]

end Notice

/-! ## Notices on request -/

/-- What a notice can be about: a plain value, an error of the host, or another notice. -/
inductive Subject where
  | value (value : Value)
  | error (name : String) (arguments : List Value)
  | notice (notice : Notice)

namespace Subject

/-- The subject inside of a message. -/
def shown : Subject → String
  | .value given => given.shown
  | .error _ [] => ""
  | .error name [argument] => if name = "KeyError" then argument.quoted else argument.shown
  | .error _ arguments => "(" ++ Value.quotedMembers arguments ++ ")"
  | .notice told => told.message

/-- The subject as details quote it. -/
def quoted : Subject → String
  | .value given => given.quoted
  | .error name arguments => name ++ "(" ++ Value.quotedMembers arguments ++ ")"
  | .notice told => told.quoted

/-- Whether the subject can be written: no integer in it has too many digits. -/
def isWritable : Subject → Bool
  | .value given => given.isWritable
  | .error _ arguments => Value.areWritable arguments
  | .notice _ => true

/-- The subject as a value of its own; an error is known by its text. -/
def plain : Subject → Value
  | .value given => given
  | subject => .text subject.shown

end Subject

/-- Why no notice is made of a name and subjects. -/
inductive NoticeFault where
  /-- No notice has the name. -/
  | unknown (name : String)
  /-- The name is the one that all notices share, and has no kind. -/
  | general (name : String)
  /-- Some subjects are missing. -/
  | missing (name : String) (subjects : List String)
  /-- There are more subjects than the notice has, which are `most` and at least `least`. -/
  | tooMany (name : String) (least most given : Nat)
  /-- A subject cannot be written. -/
  | mismatched (mismatch : Mismatch)

namespace NoticeFault

def name : NoticeFault → String
  | .unknown _ | .general _ => "AttributeError"
  | .missing _ _ | .tooMany _ _ _ _ => "TypeError"
  | .mismatched mismatch => mismatch.name

/-- Names between apostrophes: divided by commas, and with a word in front of the last. -/
def enumerated (names : List String) : String :=
  let quoted := names.map fun name => "'" ++ name ++ "'"
  match quoted with
  | [] => ""
  | [only] => only
  | [first, second] => first ++ " and " ++ second
  | _ =>
    String.join (quoted.dropLast.map (· ++ ", ")) ++ "and " ++ (quoted.getLast?.getD "")

def message : NoticeFault → String
  | .unknown name => "module 'double_entry_bank.exceptions' has no attribute '" ++ name ++ "'"
  | .general name => "'" ++ name ++ "' object has no attribute 'kind'"
  | .missing name subjects =>
    name ++ ".__init__() missing " ++ Number.naturalText subjects.length ++
      " required positional argument" ++ (if subjects.length = 1 then "" else "s") ++ ": " ++
      enumerated subjects
  | .tooMany name least most given =>
    let bounds := if least = most then Number.naturalText (most + 1)
      else "from " ++ Number.naturalText (least + 1) ++ " to " ++ Number.naturalText (most + 1)
    name ++ ".__init__() takes " ++ bounds ++ " positional arguments but " ++
      Number.naturalText (given + 1) ++ " were given"
  | .mismatched mismatch => mismatch.message

end NoticeFault

namespace Notice

/-- The name that all notices share. -/
def generalName : String := "LedgerError"

/-- What the subjects of a notice are called, by the name of the notice. -/
def subjectNames : List (String × List String) :=
  [("InvalidAmount", ["value"]), ("CurrencyMismatch", ["expected", "actual"]),
    ("InsufficientFunds", ["account_id", "requested", "available"]),
    ("SameAccountTransfer", ["account_id"]), ("SystemAccountOperation", ["account_id"]),
    ("AccountNotFound", ["account_id"]), ("TransactionNotFound", ["transaction_id"]),
    ("UserNotFound", ["user_id"]), ("UserAlreadyExists", ["email"]),
    ("ImmutableEntryError", ["entry_id", "operation"]), ("CommitFailedError", ["cause"]),
    ("RollbackFailedError", ["original", "rollback_error"])]

/-- The notice that has a name, about as many subjects as it has. -/
def named? (name : String) (subjects : List Subject) : Option Notice :=
  match name, subjects with
  | "InvalidAmount", [value] => some (.invalidAmount value.plain)
  | "CurrencyMismatch", [expected, actual] => some (.currencyMismatch expected.plain actual.plain)
  | "InsufficientFunds", [account, requested, available] =>
    some (.insufficientFunds account.plain requested.plain available.plain)
  | "SameAccountTransfer", [account] => some (.sameAccountTransfer account.plain)
  | "SystemAccountOperation", [account] => some (.systemAccount account.plain)
  | "AccountNotFound", [account] => some (.accountNotFound account.plain)
  | "TransactionNotFound", [group] => some (.transactionNotFound group.plain)
  | "UserNotFound", [user] => some (.userNotFound user.plain)
  | "UserAlreadyExists", [email] => some (.userAlreadyExists email.plain)
  | "ImmutableEntryError", [entry, change] => some (.immutableEntry entry.plain change.plain)
  | "CommitFailedError", [cause] => some (.commitFailed cause.shown)
  | "RollbackFailedError", [cause, rollback] =>
    some (.rollbackFailed cause.shown rollback.shown cause.quoted rollback.quoted)
  | _, _ => none

/-- The fault of making a notice of the general name. -/
def generalFault (given : Nat) : NoticeFault :=
  if given = 0 then .missing generalName ["message"]
  else if 2 < given then .tooMany generalName 1 2 given
  else .general generalName

/-- The notice that has a name, about the given subjects. -/
def build (name : String) (subjects : List Subject) : Except NoticeFault Notice :=
  match named? name subjects, subjectNames.lookup name with
  | some notice, _ =>
    if subjects.all Subject.isWritable then .ok notice else .error (.mismatched .integerUnwritable)
  | none, some names =>
    if subjects.length < names.length then .error (.missing name (names.drop subjects.length))
    else .error (.tooMany name names.length names.length subjects.length)
  | none, none =>
    .error (if name = generalName then generalFault subjects.length else .unknown name)

end Notice

end Bookkeeping
