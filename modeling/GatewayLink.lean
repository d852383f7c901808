import GatewayLink.Activity.BoundedLog
import GatewayLink.Activity.Entry
import GatewayLink.Activity.Logbook
import GatewayLink.Call.InFlight
import GatewayLink.Call.Pacing
import GatewayLink.Client.Action
import GatewayLink.Client.Call
import GatewayLink.Client.Interleaving
import GatewayLink.Client.Link
import GatewayLink.Client.Settle
import GatewayLink.Client.State
import GatewayLink.Client.Ticker
import GatewayLink.Connection.Basic
import GatewayLink.Connection.Session
import GatewayLink.Connection.Snapshot
import GatewayLink.Console.Start
import GatewayLink.Event.Broadcast
import GatewayLink.Event.Relay
import GatewayLink.Failure
import GatewayLink.Frame.Basic
import GatewayLink.Frame.Codec
import GatewayLink.Frame.Handshake
import GatewayLink.Internet.Address
import GatewayLink.Json.Document
import GatewayLink.Json.Printer
import GatewayLink.Json.Record
import GatewayLink.Json.SameValue
import GatewayLink.Json.Token
import GatewayLink.Json.Value
import GatewayLink.Main
import GatewayLink.Network.Address
import GatewayLink.Network.Basic
import GatewayLink.Network.Exchange
import GatewayLink.Network.ListenAddress
import GatewayLink.Network.Stream
import GatewayLink.Numeral.Double
import GatewayLink.Numeral.Shortest
import GatewayLink.Numeral.Written
import GatewayLink.Parameters.Refresh
import GatewayLink.Parameters.Store
import GatewayLink.Proofs.Activity.Aging
import GatewayLink.Proofs.Activity.Growth
import GatewayLink.Proofs.Activity.Outline
import GatewayLink.Proofs.Activity.Telling
import GatewayLink.Proofs.Activity.Window
import GatewayLink.Proofs.Call.Registration
import GatewayLink.Proofs.Call.Settlement
import GatewayLink.Proofs.Call.Spacing
import GatewayLink.Proofs.Call.Waiting
import GatewayLink.Proofs.Client.Advancing
import GatewayLink.Proofs.Client.Aging
import GatewayLink.Proofs.Client.Agreement
import GatewayLink.Proofs.Client.Attribution
import GatewayLink.Proofs.Client.Bookkeeping
import GatewayLink.Proofs.Client.Clearing
import GatewayLink.Proofs.Client.Closing
import GatewayLink.Proofs.Client.Correlation
import GatewayLink.Proofs.Client.Deliveries
import GatewayLink.Proofs.Client.Expiring
import GatewayLink.Proofs.Client.Fate
import GatewayLink.Proofs.Client.Forgetting
import GatewayLink.Proofs.Client.Granting
import GatewayLink.Proofs.Client.Heading
import GatewayLink.Proofs.Client.Ignoring
import GatewayLink.Proofs.Client.Lateness
import GatewayLink.Proofs.Client.Ledger
import GatewayLink.Proofs.Client.Linking
import GatewayLink.Proofs.Client.Mirror
import GatewayLink.Proofs.Client.Numbering
import GatewayLink.Proofs.Client.Opening
import GatewayLink.Proofs.Client.Parting
import GatewayLink.Proofs.Client.Phases
import GatewayLink.Proofs.Client.Posting
import GatewayLink.Proofs.Client.Provenance
import GatewayLink.Proofs.Client.Publishing
import GatewayLink.Proofs.Client.Receiving
import GatewayLink.Proofs.Client.Refreshing
import GatewayLink.Proofs.Client.Refusing
import GatewayLink.Proofs.Client.Rejecting
import GatewayLink.Proofs.Client.Reordering
import GatewayLink.Proofs.Client.Resting
import GatewayLink.Proofs.Client.Sending
import GatewayLink.Proofs.Client.Settling
import GatewayLink.Proofs.Client.Showing
import GatewayLink.Proofs.Client.Standing
import GatewayLink.Proofs.Client.Staying
import GatewayLink.Proofs.Client.Steadiness
import GatewayLink.Proofs.Client.Operations
import GatewayLink.Proofs.Client.Step
import GatewayLink.Proofs.Client.Ticking
import GatewayLink.Proofs.Client.Waking
import GatewayLink.Proofs.Connection.Channels
import GatewayLink.Proofs.Connection.Consistency
import GatewayLink.Proofs.Connection.Delivery
import GatewayLink.Proofs.Connection.Generation
import GatewayLink.Proofs.Connection.Operations
import GatewayLink.Proofs.Connection.Publication
import GatewayLink.Proofs.Event.Backlog
import GatewayLink.Proofs.Event.Recording
import GatewayLink.Proofs.Frame.Refusal
import GatewayLink.Proofs.Frame.RoundTrip
import GatewayLink.Proofs.Frame.Shape
import GatewayLink.Proofs.Frame.Welcome
import GatewayLink.Proofs.Json.Abridging
import GatewayLink.Proofs.Json.Given
import GatewayLink.Proofs.Json.Grammar
import GatewayLink.Proofs.Json.Members
import GatewayLink.Proofs.Json.Printing
import GatewayLink.Proofs.Json.Reading
import GatewayLink.Proofs.Json.Record
import GatewayLink.Proofs.Json.Rereading
import GatewayLink.Proofs.Json.Scanning
import GatewayLink.Proofs.Json.Syntax
import GatewayLink.Proofs.Json.Utf16
import GatewayLink.Proofs.Json.Values
import GatewayLink.Proofs.Network.Reading
import GatewayLink.Proofs.Numeral.Grammar
import GatewayLink.Proofs.Numeral.Rounding
import GatewayLink.Proofs.Numeral.Scaling
import GatewayLink.Proofs.Numeral.Text
import GatewayLink.Proofs.Parameters.FileStore
import GatewayLink.Proofs.Parameters.Filling
import GatewayLink.Proofs.Parameters.Keeping
import GatewayLink.Proofs.Parameters.Rebinding
import GatewayLink.Proofs.Settings.Checking
import GatewayLink.Proofs.Settings.Completing
import GatewayLink.Proofs.Settings.Loading
import GatewayLink.Proofs.Settings.Saving
import GatewayLink.Proofs.Storage.Retrying
import GatewayLink.Proofs.Storage.Rewriting
import GatewayLink.Settings.Basic
import GatewayLink.Settings.Check
import GatewayLink.Settings.File
import GatewayLink.Storage.FilePath
import GatewayLink.Storage.FileTree
import GatewayLink.Storage.Writing
import GatewayLink.Table
import GatewayLink.Text.Blank
import GatewayLink.Text.CodeTable
import GatewayLink.Text.Digits
import GatewayLink.Text.Excerpt
import GatewayLink.Text.Utf8
import GatewayLink.Time.Reader
import GatewayLink.Time.Timestamp
import GatewayLink.Url.Address
import GatewayLink.Url.Composition
import GatewayLink.Url.CompositionTables
import GatewayLink.Url.DomainName
import GatewayLink.Url.Host
import GatewayLink.Url.LabelTables
import GatewayLink.Url.MappingTables
import GatewayLink.Url.Punycode
