import BroadcastLink.Alarm
import BroadcastLink.Bench.HubStand
import BroadcastLink.Bench.LaunchStand
import BroadcastLink.Bench.Network
import BroadcastLink.Bench.Scenario
import BroadcastLink.Bench.SessionStand
import BroadcastLink.Bench.Shell
import BroadcastLink.Bench.Shell.Arithmetic
import BroadcastLink.Bench.Shell.Builtin
import BroadcastLink.Bench.Shell.Condition
import BroadcastLink.Bench.Shell.Pattern
import BroadcastLink.Bench.Shell.Reader
import BroadcastLink.Bench.Shell.Run
import BroadcastLink.Bench.Shell.Script
import BroadcastLink.Bench.Shell.State
import BroadcastLink.Bench.Shell.Token
import BroadcastLink.Bench.Shell.Word
import BroadcastLink.Bench.World
import BroadcastLink.Channel
import BroadcastLink.Channel.Counters
import BroadcastLink.Channel.Listener
import BroadcastLink.Channel.Realtime
import BroadcastLink.Command
import BroadcastLink.Decimal.Binary
import BroadcastLink.Decimal.Layout
import BroadcastLink.Decimal.Shortest
import BroadcastLink.Duration
import BroadcastLink.Event
import BroadcastLink.Event.Decode
import BroadcastLink.Event.Payload
import BroadcastLink.Event.Stream
import BroadcastLink.Fault
import BroadcastLink.Hub
import BroadcastLink.Hub.Topic
import BroadcastLink.Ident
import BroadcastLink.Json.Number
import BroadcastLink.Json.Quoted
import BroadcastLink.Json.Scan
import BroadcastLink.Json.Shape
import BroadcastLink.Launch
import BroadcastLink.Packet
import BroadcastLink.Packet.Framer
import BroadcastLink.Pool
import BroadcastLink.Pool.Borrow
import BroadcastLink.Pool.Drain
import BroadcastLink.Pool.Loan
import BroadcastLink.Pool.Upkeep
import BroadcastLink.Proofs.Channel.Answers
import BroadcastLink.Proofs.Channel.Attempts
import BroadcastLink.Proofs.Channel.Carried
import BroadcastLink.Proofs.Channel.Dockets
import BroadcastLink.Proofs.Channel.Ending
import BroadcastLink.Proofs.Channel.Greeting
import BroadcastLink.Proofs.Channel.Intake
import BroadcastLink.Proofs.Channel.Lifetime
import BroadcastLink.Proofs.Channel.Moves
import BroadcastLink.Proofs.Channel.Orderly
import BroadcastLink.Proofs.Channel.Outlet
import BroadcastLink.Proofs.Channel.Pipeline
import BroadcastLink.Proofs.Channel.Received
import BroadcastLink.Proofs.Channel.Stopped
import BroadcastLink.Proofs.Channel.Target
import BroadcastLink.Proofs.Channel.Truthful
import BroadcastLink.Proofs.Channel.Turns
import BroadcastLink.Proofs.Channel.Wholeness
import BroadcastLink.Proofs.Channel.Writers
import BroadcastLink.Proofs.Decimal.Numerals
import BroadcastLink.Proofs.Event.Payloads
import BroadcastLink.Proofs.Event.Topics
import BroadcastLink.Proofs.Event.Windows
import BroadcastLink.Proofs.Hub.Mailroom
import BroadcastLink.Proofs.Hub.Queues
import BroadcastLink.Proofs.Json.Skipped
import BroadcastLink.Proofs.Json.Written
import BroadcastLink.Proofs.Launch.Outcomes
import BroadcastLink.Proofs.Packet.Fragments
import BroadcastLink.Proofs.Packet.Framing
import BroadcastLink.Proofs.Packet.Layout
import BroadcastLink.Proofs.Packet.Partition
import BroadcastLink.Proofs.Pool.Account
import BroadcastLink.Proofs.Pool.Admission
import BroadcastLink.Proofs.Pool.Borrowing
import BroadcastLink.Proofs.Pool.Capacity
import BroadcastLink.Proofs.Pool.Census
import BroadcastLink.Proofs.Pool.Closing
import BroadcastLink.Proofs.Pool.Commons
import BroadcastLink.Proofs.Pool.Discretion
import BroadcastLink.Proofs.Pool.Draining
import BroadcastLink.Proofs.Pool.Finality
import BroadcastLink.Proofs.Pool.Frame
import BroadcastLink.Proofs.Pool.Holders
import BroadcastLink.Proofs.Pool.Idle
import BroadcastLink.Proofs.Pool.Ledger
import BroadcastLink.Proofs.Pool.Lending
import BroadcastLink.Proofs.Pool.Maintenance
import BroadcastLink.Proofs.Pool.OnWires
import BroadcastLink.Proofs.Pool.Operations
import BroadcastLink.Proofs.Pool.Origin
import BroadcastLink.Proofs.Pool.Ownership
import BroadcastLink.Proofs.Pool.Passage
import BroadcastLink.Proofs.Pool.Pauses
import BroadcastLink.Proofs.Pool.Repair
import BroadcastLink.Proofs.Pool.Soundness
import BroadcastLink.Proofs.Pool.Starvation
import BroadcastLink.Proofs.Pool.Wakeups
import BroadcastLink.Proofs.Registry.Progress
import BroadcastLink.Proofs.Response.Segments
import BroadcastLink.Proofs.Response.Splitting
import BroadcastLink.Proofs.Roster.Values
import BroadcastLink.Proofs.Session.Batches
import BroadcastLink.Proofs.Session.Conversation
import BroadcastLink.Proofs.Session.Harm
import BroadcastLink.Proofs.Session.InStep
import BroadcastLink.Proofs.Session.Later
import BroadcastLink.Proofs.Session.Lines
import BroadcastLink.Proofs.Session.Patience
import BroadcastLink.Proofs.Session.Payloads
import BroadcastLink.Proofs.Session.Reserved
import BroadcastLink.Proofs.Session.Vetting
import BroadcastLink.Proofs.Session.Wire
import BroadcastLink.Proofs.Session.Writing
import BroadcastLink.Proofs.Station.Accounting
import BroadcastLink.Proofs.Station.Acts
import BroadcastLink.Proofs.Station.Aside
import BroadcastLink.Proofs.Station.Calm
import BroadcastLink.Proofs.Station.Closing
import BroadcastLink.Proofs.Station.Configuring
import BroadcastLink.Proofs.Station.Convergence
import BroadcastLink.Proofs.Station.Courses
import BroadcastLink.Proofs.Station.Deeds
import BroadcastLink.Proofs.Station.Delivery
import BroadcastLink.Proofs.Station.Events
import BroadcastLink.Proofs.Station.Execution
import BroadcastLink.Proofs.Station.Failures
import BroadcastLink.Proofs.Station.GivenUp
import BroadcastLink.Proofs.Station.Holdings
import BroadcastLink.Proofs.Station.Housing
import BroadcastLink.Proofs.Station.Launches
import BroadcastLink.Proofs.Station.Links
import BroadcastLink.Proofs.Station.Noted
import BroadcastLink.Proofs.Station.OpenPools
import BroadcastLink.Proofs.Station.Order
import BroadcastLink.Proofs.Station.Orphans
import BroadcastLink.Proofs.Station.Pairing
import BroadcastLink.Proofs.Station.Pieces
import BroadcastLink.Proofs.Station.Reconciling
import BroadcastLink.Proofs.Station.Repeating
import BroadcastLink.Proofs.Station.Shown
import BroadcastLink.Proofs.Station.Sizes
import BroadcastLink.Proofs.Station.Succession
import BroadcastLink.Proofs.Station.Tacit
import BroadcastLink.Proofs.Station.Teardown
import BroadcastLink.Proofs.Station.Tending
import BroadcastLink.Proofs.Station.Turns
import BroadcastLink.Proofs.Station.Waiting
import BroadcastLink.Proofs.Studio.Documents
import BroadcastLink.Proofs.Studio.Fleets
import BroadcastLink.Proofs.Sync.Locks
import BroadcastLink.Proofs.Sync.Signals
import BroadcastLink.Proofs.Text.Markup
import BroadcastLink.Proofs.Text.Utf8
import BroadcastLink.Registry
import BroadcastLink.Registry.Summary
import BroadcastLink.Response
import BroadcastLink.Roster
import BroadcastLink.Session
import BroadcastLink.Session.State
import BroadcastLink.Settings
import BroadcastLink.Station
import BroadcastLink.Station.Reconcile
import BroadcastLink.Station.Sessions
import BroadcastLink.Station.Tasks
import BroadcastLink.Studio
import BroadcastLink.Studio.Fleet
import BroadcastLink.Studio.Printer
import BroadcastLink.Studio.Reader
import BroadcastLink.Sync.Lock
import BroadcastLink.Sync.Signal
import BroadcastLink.Text.Blank
import BroadcastLink.Text.Hex
import BroadcastLink.Text.Markup
import BroadcastLink.Text.Shown
import BroadcastLink.Text.Unprintable
import BroadcastLink.Text.Utf8
import BroadcastLink.Want
