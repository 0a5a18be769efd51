import Bailiwick.Address.Declared
import Bailiwick.Address.V4
import Bailiwick.Address.V6
import Bailiwick.Client
import Bailiwick.CommandLine
import Bailiwick.Config
import Bailiwick.Create.Checks
import Bailiwick.Create.Flow
import Bailiwick.Create.Lifecycle
import Bailiwick.Decimal.Binary
import Bailiwick.Decimal.Shortest
import Bailiwick.Domain
import Bailiwick.Event
import Bailiwick.Files
import Bailiwick.Host
import Bailiwick.HostName.Basic
import Bailiwick.HostName.Text
import Bailiwick.Idna.Ascii
import Bailiwick.Idna.Label
import Bailiwick.Idna.Mapping
import Bailiwick.Idna.Punycode
import Bailiwick.Instant.Basic
import Bailiwick.Instant.Calendar
import Bailiwick.Instant.Text
import Bailiwick.Json.Basic
import Bailiwick.Json.Reader
import Bailiwick.Json.Writer
import Bailiwick.Ledger
import Bailiwick.Main
import Bailiwick.Placement
import Bailiwick.Proofs.Address.Declared
import Bailiwick.Proofs.Address.Display
import Bailiwick.Proofs.Address.Distinct
import Bailiwick.Proofs.Address.Grammar
import Bailiwick.Proofs.Address.V4
import Bailiwick.Proofs.Address.V6
import Bailiwick.Proofs.Alone
import Bailiwick.Proofs.Config.Loading
import Bailiwick.Proofs.Config.Usable
import Bailiwick.Proofs.Create.Atomicity
import Bailiwick.Proofs.Create.Audit
import Bailiwick.Proofs.Create.Body
import Bailiwick.Proofs.Create.Commit
import Bailiwick.Proofs.Create.Contest
import Bailiwick.Proofs.Create.Course
import Bailiwick.Proofs.Create.Depth
import Bailiwick.Proofs.Create.Flow
import Bailiwick.Proofs.Create.FlowExchanges
import Bailiwick.Proofs.Create.Formal
import Bailiwick.Proofs.Create.Frame
import Bailiwick.Proofs.Create.Grounds
import Bailiwick.Proofs.Create.Independence
import Bailiwick.Proofs.Create.Levels
import Bailiwick.Proofs.Create.Lifecycle
import Bailiwick.Proofs.Create.Linkage
import Bailiwick.Proofs.Create.Notices
import Bailiwick.Proofs.Create.Outcome
import Bailiwick.Proofs.Create.Peers
import Bailiwick.Proofs.Create.Placing
import Bailiwick.Proofs.Create.QueueIndependence
import Bailiwick.Proofs.Create.Reads
import Bailiwick.Proofs.Create.Rehearsal
import Bailiwick.Proofs.Create.Reordering
import Bailiwick.Proofs.Create.Replay
import Bailiwick.Proofs.Create.RequestTransaction
import Bailiwick.Proofs.Create.Runs
import Bailiwick.Proofs.Create.Session
import Bailiwick.Proofs.Create.Span
import Bailiwick.Proofs.Create.Stages
import Bailiwick.Proofs.Create.Superordinate
import Bailiwick.Proofs.Create.Tenure
import Bailiwick.Proofs.Create.Trails
import Bailiwick.Proofs.Create.Uniqueness
import Bailiwick.Proofs.Create.Verdict
import Bailiwick.Proofs.EditsAndTurns
import Bailiwick.Proofs.Exchanges
import Bailiwick.Proofs.HostName.Checks
import Bailiwick.Proofs.HostName.Closure
import Bailiwick.Proofs.HostName.Correction
import Bailiwick.Proofs.HostName.Grammar
import Bailiwick.Proofs.HostName.Labels
import Bailiwick.Proofs.HostName.Suffixes
import Bailiwick.Proofs.Idna.Ascii
import Bailiwick.Proofs.Instant.Calendar
import Bailiwick.Proofs.Instant.Text
import Bailiwick.Proofs.Interference
import Bailiwick.Proofs.Lockstep
import Bailiwick.Proofs.Numeral
import Bailiwick.Proofs.PublicSuffix.Lines
import Bailiwick.Proofs.PublicSuffix.Prevailing
import Bailiwick.Proofs.Records
import Bailiwick.Proofs.RunStores
import Bailiwick.Proofs.SortedSet
import Bailiwick.Proofs.Store.Built
import Bailiwick.Proofs.Store.Commuting
import Bailiwick.Proofs.Store.Growth
import Bailiwick.Proofs.Store.Keys
import Bailiwick.Proofs.Text
import Bailiwick.Proofs.Transaction.Accounts
import Bailiwick.Proofs.Transaction.Alone
import Bailiwick.Proofs.Transaction.Attempts
import Bailiwick.Proofs.Transaction.Serializable
import Bailiwick.Proofs.Transaction.Trials
import Bailiwick.Proofs.Transaction.Undisturbed
import Bailiwick.Proofs.Transaction.Validation
import Bailiwick.Proofs.Turns
import Bailiwick.Proofs.Unicode.Lower
import Bailiwick.Proofs.Uuid
import Bailiwick.Proofs.Versions
import Bailiwick.Proofs.Wire.Basic
import Bailiwick.Proofs.Wire.Rows
import Bailiwick.PublicSuffix
import Bailiwick.Refresh
import Bailiwick.Refusal
import Bailiwick.Registry
import Bailiwick.SortedSet
import Bailiwick.Status
import Bailiwick.Store.Attempt
import Bailiwick.Store.Basic
import Bailiwick.Table
import Bailiwick.Text.Blank
import Bailiwick.Text.Numeral
import Bailiwick.Text.Pieces
import Bailiwick.Text.Quoted
import Bailiwick.Transaction
import Bailiwick.Unicode.Bidi
import Bailiwick.Unicode.Canonical
import Bailiwick.Unicode.Case
import Bailiwick.Unicode.Joining
import Bailiwick.Unicode.Printable
import Bailiwick.Unicode.Range
import Bailiwick.Uuid
import Bailiwick.Wire.Basic
import Bailiwick.Wire.Error
import Bailiwick.Wire.Rows
import Bailiwick.Work
import Bailiwick.World
