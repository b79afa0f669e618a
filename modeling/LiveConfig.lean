import LiveConfig.Agenda
import LiveConfig.Calendar
import LiveConfig.ChangeEvent
import LiveConfig.Channel
import LiveConfig.Client.Basic
import LiveConfig.Client.Run
import LiveConfig.Client.Start
import LiveConfig.ConfigError
import LiveConfig.Decode
import LiveConfig.Diagnostics
import LiveConfig.Flatten
import LiveConfig.Format
import LiveConfig.Host.Basic
import LiveConfig.Host.Calls
import LiveConfig.Host.Clients
import LiveConfig.Host.Holdings
import LiveConfig.Host.Loading
import LiveConfig.Host.Tasks
import LiveConfig.Host.Units
import LiveConfig.Identity
import LiveConfig.Json.Numeral
import LiveConfig.Json.Reader
import LiveConfig.LoadAttributes
import LiveConfig.Loader
import LiveConfig.LogFilter
import LiveConfig.Network.Basic
import LiveConfig.Network.Fault
import LiveConfig.Network.Units
import LiveConfig.Number.Binary64
import LiveConfig.Number.Numeral
import LiveConfig.Number.Shortest
import LiveConfig.Path
import LiveConfig.Proofs.Client.Delivery
import LiveConfig.Proofs.Client.Dispatch
import LiveConfig.Proofs.Client.Lag
import LiveConfig.Proofs.Client.Lifecycle
import LiveConfig.Proofs.Client.OneWay
import LiveConfig.Proofs.Client.Receipts
import LiveConfig.Proofs.Client.Starts
import LiveConfig.Proofs.Entries
import LiveConfig.Proofs.Flatten
import LiveConfig.Proofs.Host.Atomic
import LiveConfig.Proofs.Host.Background
import LiveConfig.Proofs.Host.DefaultNames
import LiveConfig.Proofs.Host.Exchanges
import LiveConfig.Proofs.Host.Holdings
import LiveConfig.Proofs.Host.Keys
import LiveConfig.Proofs.Host.Load
import LiveConfig.Proofs.Host.Lookups
import LiveConfig.Proofs.Host.Registrations
import LiveConfig.Proofs.Host.Shutdown
import LiveConfig.Proofs.Host.Undisturbed
import LiveConfig.Proofs.Host.Watched
import LiveConfig.Proofs.Identity
import LiveConfig.Proofs.Json.Leaves
import LiveConfig.Proofs.Json.Objects
import LiveConfig.Proofs.Loader
import LiveConfig.Proofs.Nested
import LiveConfig.Proofs.Network.Assembly
import LiveConfig.Proofs.Network.Listing
import LiveConfig.Proofs.Network.Serving
import LiveConfig.Proofs.Network.Sheds
import LiveConfig.Proofs.Network.Watched
import LiveConfig.Proofs.Network.Watches
import LiveConfig.Proofs.Path.Ancestors
import LiveConfig.Proofs.Path.Joins
import LiveConfig.Proofs.Path.Normal
import LiveConfig.Proofs.Path.Segments
import LiveConfig.Proofs.Properties.Appending
import LiveConfig.Proofs.Properties.Joining
import LiveConfig.Proofs.Properties.Writing
import LiveConfig.Proofs.Registry.Attempts
import LiveConfig.Proofs.Registry.Clients
import LiveConfig.Proofs.Registry.Closes
import LiveConfig.Proofs.Registry.Coherence
import LiveConfig.Proofs.Registry.Custody
import LiveConfig.Proofs.Registry.Drains
import LiveConfig.Proofs.Registry.Moves
import LiveConfig.Proofs.Registry.NoEscape
import LiveConfig.Proofs.Registry.OneClient
import LiveConfig.Proofs.Registry.OneThread
import LiveConfig.Proofs.Registry.Owners
import LiveConfig.Proofs.Registry.Reports
import LiveConfig.Proofs.Registry.Shown
import LiveConfig.Proofs.Registry.Slots
import LiveConfig.Proofs.Registry.Steps
import LiveConfig.Proofs.Registry.Sweeps
import LiveConfig.Proofs.Registry.ThreadSteps
import LiveConfig.Proofs.Resolution.Alone
import LiveConfig.Proofs.Resolution.Course
import LiveConfig.Proofs.Resolution.Race
import LiveConfig.Proofs.Resolution.Steps
import LiveConfig.Proofs.Retry
import LiveConfig.Proofs.Session.Watches
import LiveConfig.Proofs.Settings.Conversions
import LiveConfig.Proofs.Settings.Layers
import LiveConfig.Proofs.Settings.Readers
import LiveConfig.Proofs.Sources.Contents
import LiveConfig.Proofs.Sources.Installation
import LiveConfig.Proofs.Sources.Latest
import LiveConfig.Proofs.Sources.Lookups
import LiveConfig.Proofs.Sources.Names
import LiveConfig.Proofs.Sources.Placement
import LiveConfig.Proofs.Store.Change
import LiveConfig.Proofs.Store.Completion
import LiveConfig.Proofs.Store.Creation
import LiveConfig.Proofs.Store.Journal
import LiveConfig.Proofs.Store.Log
import LiveConfig.Proofs.Store.Order
import LiveConfig.Proofs.Store.Outcome
import LiveConfig.Proofs.Store.Refusals
import LiveConfig.Proofs.Store.Tree
import LiveConfig.Proofs.Store.Versions
import LiveConfig.Proofs.Text.Lines
import LiveConfig.Proofs.Text.Utf8
import LiveConfig.Proofs.Toml.Documents
import LiveConfig.Proofs.Toml.Leaves
import LiveConfig.Proofs.Toml.Readings
import LiveConfig.Proofs.Toml.Values
import LiveConfig.Proofs.Unit.Accounted
import LiveConfig.Proofs.Unit.Backlog
import LiveConfig.Proofs.Unit.Kept
import LiveConfig.Proofs.Unit.LastError
import LiveConfig.Proofs.Unit.Newest
import LiveConfig.Proofs.Unit.Published
import LiveConfig.Proofs.Unit.Snapshot
import LiveConfig.Proofs.Unit.Staleness
import LiveConfig.Proofs.Unit.Turns
import LiveConfig.Properties
import LiveConfig.Record
import LiveConfig.Registry.Basic
import LiveConfig.Registry.Call
import LiveConfig.Registry.Fleet
import LiveConfig.Registry.Run
import LiveConfig.Registry.Shutdown
import LiveConfig.Registry.Threads
import LiveConfig.Request
import LiveConfig.Resolution
import LiveConfig.Resolution.Race
import LiveConfig.Retry
import LiveConfig.Session.Answer
import LiveConfig.Session.Command
import LiveConfig.Session.Run
import LiveConfig.Settings.Basic
import LiveConfig.Settings.Layers
import LiveConfig.Sources.Basic
import LiveConfig.Sources.Composite
import LiveConfig.Sources.Edit
import LiveConfig.Store.Basic
import LiveConfig.Store.Command
import LiveConfig.Store.Event
import LiveConfig.StoreError
import LiveConfig.Text.Alphanumeric
import LiveConfig.Text.Blank
import LiveConfig.Text.Digit
import LiveConfig.Text.Quoted
import LiveConfig.Text.Showable
import LiveConfig.Text.Utf8
import LiveConfig.Toml.Datetime
import LiveConfig.Toml.Document
import LiveConfig.Toml.Quoted
import LiveConfig.Toml.Scalar
import LiveConfig.Toml.Tree
import LiveConfig.Toml.Values
import LiveConfig.Unit.Attachment
import LiveConfig.Unit.Basic
import LiveConfig.Unit.Life
import LiveConfig.Unit.Run
import LiveConfig.Value
