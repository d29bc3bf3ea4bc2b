import Bookkeeping.Ledger.Record
import Bookkeeping.Service.Accounts
import Bookkeeping.Service.Inspection
import Bookkeeping.Service.Movements

/-!
# Calls

The operations that a bank offers, as values.  Whoever serves a client turns the
client's request into a call, and the reply into an answer.
-/

namespace Bookkeeping

/-- An operation of the bank with its arguments. -/
inductive Call where
  | createUser (email : Value)
  | openAccount (owner : Identifier) (name currency : Value)
  | ensureSettlement
  | showAccount (id : Identifier)
  | listAccounts (owner : Identifier)
  | deposit (account : Identifier) (amount : Value) (description : Value)
  | withdraw (account : Identifier) (amount : Value) (description : Value)
  | transfer (source destination : Identifier) (amount : Value) (description : Value)
  | reconcile (account : Identifier)
  | reconcileAll
  | history (account : Identifier) (limit offset : Value)
  | entriesOfGroup (group : Identifier)
  | ping

/-- What a call answers. -/
inductive Reply where
  | user (user : Seen User)
  | account (account : Seen Account)
  | accounts (accounts : List Account)
  | group (group : Identifier)
  | reconciliation (reconciliation : Reconciliation)
  | reconciliations (reconciliations : List Reconciliation)
  | entries (entries : List Entry)
  | nothing

namespace Call

def perform (surroundings : Surroundings) : Call → Activity Reply
  | .createUser email => Reply.user <$> Service.createUser surroundings email
  | .openAccount owner name currency =>
    Reply.account <$> Service.openAccount surroundings owner name currency
  | .ensureSettlement => Reply.account <$> Service.ensureSettlement surroundings
  | .showAccount id => (Reply.account ∘ Seen.plain) <$> Service.account surroundings id
  | .listAccounts owner => Reply.accounts <$> Service.accountsOf surroundings owner
  | .deposit account amount description =>
    Reply.group <$> Service.deposit surroundings account amount description
  | .withdraw account amount description =>
    Reply.group <$> Service.withdraw surroundings account amount description
  | .transfer source destination amount description =>
    Reply.group <$> Service.transfer surroundings source destination amount description
  | .reconcile account => Reply.reconciliation <$> Service.reconcile surroundings account
  | .reconcileAll => Reply.reconciliations <$> Service.reconcileAll surroundings
  | .history account limit offset =>
    Reply.entries <$> Service.history surroundings account limit offset
  | .entriesOfGroup group => Reply.entries <$> Service.entriesOfGroup surroundings group
  | .ping => (fun _ => Reply.nothing) <$> Service.ping surroundings

def movesMoney : Call → Bool
  | .deposit _ _ _ | .withdraw _ _ _ | .transfer _ _ _ _ => true
  | _ => false

end Call

def Reconciliation.record (reconciliation : Reconciliation) : Value :=
  .record [("account_id", .text reconciliation.account.text),
    ("matched", .bool reconciliation.isMatched),
    ("stored_balance", .text reconciliation.stored.text),
    ("calculated_balance", .text reconciliation.calculated.text),
    ("difference", .text reconciliation.difference.text)]

def Reply.value : Reply → Value
  | .user seen => seen.record User.record
  | .account seen => seen.record Account.record
  | .accounts rows => .list (rows.map Account.record)
  | .group id => .text id.text
  | .reconciliation result => result.record
  | .reconciliations results => .list (results.map Reconciliation.record)
  | .entries rows => .list (rows.map Entry.record)
  | .nothing => .null

end Bookkeeping
