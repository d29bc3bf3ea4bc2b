import Bookkeeping.Amount
import Bookkeeping.Announcement
import Bookkeeping.Argument
import Bookkeeping.Bank
import Bookkeeping.Configuration
import Bookkeeping.Connection
import Bookkeeping.Connection.Address
import Bookkeeping.Connection.File
import Bookkeeping.Connection.Kind
import Bookkeeping.Connection.Server
import Bookkeeping.Email
import Bookkeeping.Email.Direction
import Bookkeeping.Email.Domain
import Bookkeeping.Email.Mapping
import Bookkeeping.Email.Permitted
import Bookkeeping.Email.Punycode
import Bookkeeping.Failure
import Bookkeeping.Fixed
import Bookkeeping.Http.Exchange
import Bookkeeping.Http.Path
import Bookkeeping.Http.QueryInteger
import Bookkeeping.Http.Service
import Bookkeeping.Http.Validation
import Bookkeeping.Identifier
import Bookkeeping.Json.Printer
import Bookkeeping.Json.Reader
import Bookkeeping.Ledger.Migration
import Bookkeeping.Ledger.Order
import Bookkeeping.Ledger.Record
import Bookkeeping.Ledger.Revision
import Bookkeeping.Ledger.Row
import Bookkeeping.Ledger.Schema
import Bookkeeping.Ledger.Stored
import Bookkeeping.Ledger.Tables
import Bookkeeping.Ledger.Totals
import Bookkeeping.Mismatch
import Bookkeeping.Money
import Bookkeeping.Notice
import Bookkeeping.Number.Binary64
import Bookkeeping.Number.Decimal
import Bookkeeping.Number.Digits
import Bookkeeping.Number.Integer
import Bookkeeping.Number.Rounding
import Bookkeeping.Number.Significant
import Bookkeeping.Proofs.Accumulation
import Bookkeeping.Proofs.Acknowledgements
import Bookkeeping.Proofs.Agreement
import Bookkeeping.Proofs.Amounts
import Bookkeeping.Proofs.Announcements
import Bookkeeping.Proofs.Answers
import Bookkeeping.Proofs.Bodies
import Bookkeeping.Proofs.Capitals
import Bookkeeping.Proofs.Checks
import Bookkeeping.Proofs.Conservation
import Bookkeeping.Proofs.Currencies
import Bookkeeping.Proofs.Deed
import Bookkeeping.Proofs.Drift
import Bookkeeping.Proofs.Entering
import Bookkeeping.Proofs.Evolution
import Bookkeeping.Proofs.Exchanges
import Bookkeeping.Proofs.Faults
import Bookkeeping.Proofs.Funding
import Bookkeeping.Proofs.Groups
import Bookkeeping.Proofs.History
import Bookkeeping.Proofs.Integrity
import Bookkeeping.Proofs.Intentions
import Bookkeeping.Proofs.Interleavings
import Bookkeeping.Proofs.Invisibility
import Bookkeeping.Proofs.Isolation
import Bookkeeping.Proofs.Journal
import Bookkeeping.Proofs.Keeping
import Bookkeeping.Proofs.Movement
import Bookkeeping.Proofs.Numerals
import Bookkeeping.Proofs.Operations
import Bookkeeping.Proofs.Outcomes
import Bookkeeping.Proofs.Paging
import Bookkeeping.Proofs.Primitives
import Bookkeeping.Proofs.Procedures
import Bookkeeping.Proofs.Prospect
import Bookkeeping.Proofs.Queries
import Bookkeeping.Proofs.Readings
import Bookkeeping.Proofs.Reconciliation
import Bookkeeping.Proofs.Record
import Bookkeeping.Proofs.Refusals
import Bookkeeping.Proofs.Registration
import Bookkeeping.Proofs.Renderings
import Bookkeeping.Proofs.Revisions
import Bookkeeping.Proofs.Rounding
import Bookkeeping.Proofs.Routes
import Bookkeeping.Proofs.Rows
import Bookkeeping.Proofs.Run
import Bookkeeping.Proofs.Sequence
import Bookkeeping.Proofs.Settlement
import Bookkeeping.Proofs.Spending
import Bookkeeping.Proofs.Steps
import Bookkeeping.Proofs.Totals
import Bookkeeping.Proofs.Transfers
import Bookkeeping.Proofs.Units
import Bookkeeping.Proofs.Write
import Bookkeeping.Recorder
import Bookkeeping.Scenario.Operation
import Bookkeeping.Scenario.Run
import Bookkeeping.Scenario.Step
import Bookkeeping.Service.Accounts
import Bookkeeping.Service.Call
import Bookkeeping.Service.Inspection
import Bookkeeping.Service.Movements
import Bookkeeping.Settings
import Bookkeeping.Severity
import Bookkeeping.Sources
import Bookkeeping.Text.Alphabetic
import Bookkeeping.Text.Blank
import Bookkeeping.Text.CodePoint
import Bookkeeping.Text.Combining
import Bookkeeping.Text.Composed
import Bookkeeping.Text.Decomposition
import Bookkeeping.Text.Digit
import Bookkeeping.Text.Divided
import Bookkeeping.Text.Encoding
import Bookkeeping.Text.Hexadecimal
import Bookkeeping.Text.Mark
import Bookkeeping.Text.Numeral
import Bookkeeping.Text.Percent
import Bookkeeping.Text.Printable
import Bookkeeping.Text.Quoted
import Bookkeeping.Text.Ranges
import Bookkeeping.Text.Table
import Bookkeeping.Text.Uppercase
import Bookkeeping.Timestamp
import Bookkeeping.Timestamp.Reader
import Bookkeeping.Unit.Queries
import Bookkeeping.Unit.Session
import Bookkeeping.Unit.Transaction
import Bookkeeping.Value
import Bookkeeping.Value.Comparison
import Bookkeeping.Value.Conversion
