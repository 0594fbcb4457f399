import RoutingSessions.Arguments
import RoutingSessions.Broadcast
import RoutingSessions.Decimal.Binary64
import RoutingSessions.Decimal.Shortest
import RoutingSessions.Delivery
import RoutingSessions.Document.Decode
import RoutingSessions.Document.Node
import RoutingSessions.Endpoint
import RoutingSessions.Exchange
import RoutingSessions.Expression
import RoutingSessions.Expression.Engine
import RoutingSessions.Filter
import RoutingSessions.Glob
import RoutingSessions.Handle
import RoutingSessions.Help
import RoutingSessions.Journal
import RoutingSessions.Json.Number
import RoutingSessions.Json.Reader
import RoutingSessions.Json.Text
import RoutingSessions.Json.Writer
import RoutingSessions.Main
import RoutingSessions.Naming
import RoutingSessions.Naming.Markup
import RoutingSessions.Naming.Template
import RoutingSessions.Observer
import RoutingSessions.OrderedSet
import RoutingSessions.Outbox
import RoutingSessions.Pipeline
import RoutingSessions.Program
import RoutingSessions.Proofs.Broadcast
import RoutingSessions.Proofs.Catalog
import RoutingSessions.Proofs.Delivery
import RoutingSessions.Proofs.Exchange.Balance
import RoutingSessions.Proofs.Exchange.Bisimulation
import RoutingSessions.Proofs.Exchange.Cadence
import RoutingSessions.Proofs.Exchange.Independence
import RoutingSessions.Proofs.Exchange.Lane
import RoutingSessions.Proofs.Exchange.LastCommand
import RoutingSessions.Proofs.Exchange.Moves
import RoutingSessions.Proofs.Exchange.Recovery
import RoutingSessions.Proofs.Exchange.Refusal
import RoutingSessions.Proofs.Exchange.Rest
import RoutingSessions.Proofs.Exchange.Shutdown
import RoutingSessions.Proofs.Exchange.Traffic
import RoutingSessions.Proofs.Glob
import RoutingSessions.Proofs.Handle
import RoutingSessions.Proofs.Json
import RoutingSessions.Proofs.Naming.Counterparts
import RoutingSessions.Proofs.Naming.Escaping
import RoutingSessions.Proofs.Naming.Expansion
import RoutingSessions.Proofs.Naming.Joints
import RoutingSessions.Proofs.Naming.Skeleton
import RoutingSessions.Proofs.Naming.Stock
import RoutingSessions.Proofs.Observer.Bookkeeping
import RoutingSessions.Proofs.Observer.Changelog
import RoutingSessions.Proofs.Observer.Difference
import RoutingSessions.Proofs.Observer.Interleaving
import RoutingSessions.Proofs.Observer.Portrait
import RoutingSessions.Proofs.Observer.Reconcile
import RoutingSessions.Proofs.Observer.Relocation
import RoutingSessions.Proofs.Observer.Repetition
import RoutingSessions.Proofs.Observer.Run
import RoutingSessions.Proofs.Observer.Sojourn
import RoutingSessions.Proofs.Observer.Trimming
import RoutingSessions.Proofs.Outbox.Alike
import RoutingSessions.Proofs.Outbox.Beats
import RoutingSessions.Proofs.Outbox.Cases
import RoutingSessions.Proofs.Outbox.Fates
import RoutingSessions.Proofs.Outbox.Orders
import RoutingSessions.Proofs.Outbox.Pending
import RoutingSessions.Proofs.Outbox.Punctual
import RoutingSessions.Proofs.Outbox.Relaying
import RoutingSessions.Proofs.Pipeline.Convergence
import RoutingSessions.Proofs.Pipeline.OneCommand
import RoutingSessions.Proofs.Request
import RoutingSessions.Proofs.Roster.Directory
import RoutingSessions.Proofs.Roster.Views
import RoutingSessions.Proofs.Settings
import RoutingSessions.Proofs.Text
import RoutingSessions.Proofs.Trace
import RoutingSessions.Proofs.Traffic.Balance
import RoutingSessions.Proofs.Traffic.Cadence
import RoutingSessions.Proofs.Traffic.LastCommand
import RoutingSessions.Proofs.Traffic.OneEach
import RoutingSessions.Proofs.Traffic.Recovery
import RoutingSessions.Proofs.Traffic.Refusal
import RoutingSessions.Proofs.Traffic.Shutdown
import RoutingSessions.Proofs.Traffic.Sound
import RoutingSessions.Report
import RoutingSessions.Request
import RoutingSessions.Request.Document
import RoutingSessions.Roster
import RoutingSessions.Selection
import RoutingSessions.Selection.Document
import RoutingSessions.Session
import RoutingSessions.Settings
import RoutingSessions.Settings.Document
import RoutingSessions.Text.Blank
import RoutingSessions.Text.Lines
import RoutingSessions.Text.Quoted
import RoutingSessions.Text.Unprintable
import RoutingSessions.Toml.Reader
import RoutingSessions.Toml.Scalar
import RoutingSessions.Toml.Table
import RoutingSessions.Toml.Text
import RoutingSessions.Toml.Writer
import RoutingSessions.Trace
import RoutingSessions.Traffic
import RoutingSessions.Transport
