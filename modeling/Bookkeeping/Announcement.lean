import Bookkeeping.Failure
import Bookkeeping.Severity

/-!
# Announcements

What the bank puts on record while it works.  An announcement names the part of
the bank that makes it, a severity, and what happened.
-/

namespace Bookkeeping

/-- Something that is put on record. -/
inductive Announcement where
  /-- Records are kept from now on, from a severity upward and in an environment. -/
  | recordsKept (level environment : Value)
  /-- An account was opened for an owner. -/
  | accountOpened (account owner : Identifier) (currency : String)
  /-- The counterparty of deposits and withdrawals was created. -/
  | settlementSeeded (account : Identifier) (currency : String)
  /-- Money entered the ledger. -/
  | depositCompleted (group account : Identifier) (amount : Money)
  /-- Money left the ledger. -/
  | withdrawalCompleted (group account : Identifier) (amount : Money)
  /-- Money moved between two accounts. -/
  | transferCompleted (group source destination : Identifier) (amount : Money)
  /-- The stored balance of an account is the one that its entries give. -/
  | balanceConfirmed (account : Identifier) (balance : Money)
  /-- The stored balance of an account is not the one that its entries give. -/
  | balanceMismatch (account : Identifier) (stored calculated : Money)
  /-- A unit of work failed and could not be rolled back. -/
  | rollbackFailed (cause rollback : Failure)
  /-- The database did not answer a check of its health. -/
  | databaseUnreachable

namespace Announcement

/-- The part of the bank that makes an announcement. -/
def origin : Announcement → String
  | .recordsKept _ _ => "double_entry_bank.logging_config"
  | .accountOpened _ _ _ | .settlementSeeded _ _ => "double_entry_bank.services.account_service"
  | .rollbackFailed _ _ => "double_entry_bank.store.unit_of_work"
  | .databaseUnreachable => "double_entry_bank.api.health"
  | _ => "double_entry_bank.services.ledger_service"

def severity : Announcement → Severity
  | .balanceMismatch _ _ _ | .rollbackFailed _ _ => .error
  | .databaseUnreachable => .warning
  | _ => .info

def message : Announcement → String
  | .recordsKept level environment =>
    "Logger initialized level=" ++ level.shown ++ " environment=" ++ environment.shown
  | .accountOpened account owner currency =>
    "Account opened account_id=" ++ account.text ++ " owner_id=" ++ owner.text ++
      " currency=" ++ currency
  | .settlementSeeded account currency =>
    "Settlement account seeded account_id=" ++ account.text ++ " currency=" ++ currency
  | .depositCompleted group account amount =>
    "Deposit completed tx_id=" ++ group.text ++ " account_id=" ++ account.text ++
      " amount=" ++ amount.text
  | .withdrawalCompleted group account amount =>
    "Withdrawal completed tx_id=" ++ group.text ++ " account_id=" ++ account.text ++
      " amount=" ++ amount.text
  | .transferCompleted group source destination amount =>
    "Transfer completed tx_id=" ++ group.text ++ " from_id=" ++ source.text ++
      " to_id=" ++ destination.text ++ " amount=" ++ amount.text
  | .balanceConfirmed account balance =>
    "Account reconciled successfully account_id=" ++ account.text ++ " balance=" ++ balance.text
  | .balanceMismatch account stored calculated =>
    "Balance mismatch detected account_id=" ++ account.text ++ " stored_balance=" ++
      stored.text ++ " calculated=" ++ calculated.text
  | .rollbackFailed cause rollback =>
    "Rollback failed error=" ++ cause.report.quoted ++ " rollback_error=" ++
      rollback.report.quoted
  | .databaseUnreachable => "Health check could not reach the database"

/-- The line that an announcement leaves on record. -/
def line (announcement : Announcement) : String :=
  announcement.severity.name ++ " " ++ announcement.origin ++ " " ++ announcement.message

end Announcement

end Bookkeeping
