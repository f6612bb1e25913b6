import BuilderRelay.Beacon.Client
import BuilderRelay.Beacon.ClientConfig
import BuilderRelay.Beacon.Offline
import BuilderRelay.Beacon.SyncStatus
import BuilderRelay.Beacon.TrialNode
import BuilderRelay.Bls.Curve
import BuilderRelay.Bls.Encoding
import BuilderRelay.Bls.Field
import BuilderRelay.Bls.HashToCurve
import BuilderRelay.Bls.Pairing
import BuilderRelay.Bls.Scheme
import BuilderRelay.Configuration.CommandLine
import BuilderRelay.Configuration.Config
import BuilderRelay.Configuration.Help
import BuilderRelay.Data.Binary64
import BuilderRelay.Data.Bytes
import BuilderRelay.Diagnostics.Attempt
import BuilderRelay.Diagnostics.Log
import BuilderRelay.Diagnostics.Report
import BuilderRelay.Hex
import BuilderRelay.Http.MediaType
import BuilderRelay.Http.Message
import BuilderRelay.Http.Target
import BuilderRelay.Json.ByteField
import BuilderRelay.Json.Fault
import BuilderRelay.Json.Lexical
import BuilderRelay.Json.Reader
import BuilderRelay.Json.Skip
import BuilderRelay.Json.Write
import BuilderRelay.Main
import BuilderRelay.Network
import BuilderRelay.Program.Offline
import BuilderRelay.Program.Relay
import BuilderRelay.Program.Run
import BuilderRelay.Program.TrialNode
import BuilderRelay.Redis.Address
import BuilderRelay.Redis.Client
import BuilderRelay.Redis.Conversion
import BuilderRelay.Redis.Reply
import BuilderRelay.Redis.Server
import BuilderRelay.Relay.Handlers
import BuilderRelay.Relay.Listen
import BuilderRelay.Relay.Metrics
import BuilderRelay.Relay.Route
import BuilderRelay.Relay.Router
import BuilderRelay.Relay.Service
import BuilderRelay.Sha256
import BuilderRelay.Signing.Keys
import BuilderRelay.Signing.RegistrationJson
import BuilderRelay.Signing.Roots
import BuilderRelay.Startup.Error
import BuilderRelay.Startup.NetworkChoice
import BuilderRelay.Startup.Stages
import BuilderRelay.Storage.Cache
import BuilderRelay.Storage.Datastore
import BuilderRelay.Storage.Key
import BuilderRelay.Text.Duration
import BuilderRelay.Text.Number
import BuilderRelay.Text.Printable
import BuilderRelay.Text.Quoted
import BuilderRelay.Text.QuotedBytes
import BuilderRelay.Text.Search
import BuilderRelay.Text.Terminal
import BuilderRelay.Text.Utf8
import BuilderRelay.Text.Whitespace
import BuilderRelay.Url.DirectionTables
import BuilderRelay.Url.Domain
import BuilderRelay.Url.DomainTables
import BuilderRelay.Url.Host
import BuilderRelay.Url.Parse
import BuilderRelay.Url.Percent
import BuilderRelay.Url.Punycode
import BuilderRelay.Url.Query
import BuilderRelay.Url.Write
import BuilderRelay.Proofs.Startup.Checks
import BuilderRelay.Proofs.Startup.FirstFailure
import BuilderRelay.Proofs.Json.Strings
import BuilderRelay.Proofs.Json.Reading
import BuilderRelay.Proofs.Json.Fields
import BuilderRelay.Proofs.Signing.RegistrationJson
import BuilderRelay.Proofs.Storage.Cache
import BuilderRelay.Proofs.Storage.FiniteMap
import BuilderRelay.Proofs.Storage.DistinctKeys
import BuilderRelay.Proofs.Relay.Requests
import BuilderRelay.Proofs.Relay.StoredRegistrations
import BuilderRelay.Proofs.Relay.SignedBatch
import BuilderRelay.Proofs.Signing.Binding
import BuilderRelay.Proofs.Relay.CacheAccess
import BuilderRelay.Proofs.Relay.Counters
import BuilderRelay.Proofs.Relay.Handling
import BuilderRelay.Proofs.Relay.Conservation
import BuilderRelay.Proofs.Text.Exchange
import BuilderRelay.Proofs.Startup.KeySecrecy
import BuilderRelay.Proofs.Signing.Chunks
import BuilderRelay.Proofs.Json.Numbers
import BuilderRelay.Proofs.Json.RoundTrip
import BuilderRelay.Proofs.Text.LossyText
import BuilderRelay.Proofs.Configuration.Occurrences
import BuilderRelay.Proofs.Configuration.Settings
import BuilderRelay.Proofs.Configuration.Choices
import BuilderRelay.Proofs.Configuration.NetworkSelection
import BuilderRelay.Proofs.Program.FailureReport
import BuilderRelay.Proofs.Relay.BatchOutcome
import BuilderRelay.Proofs.Beacon.SyncGate
import BuilderRelay.Proofs.Json.Grammar
import BuilderRelay.Proofs.Json.Skipping
import BuilderRelay.Proofs.Json.Forms
import BuilderRelay.Proofs.Json.Objects
import BuilderRelay.Proofs.Beacon.Documents
import BuilderRelay.Proofs.Json.AnyLayout
import BuilderRelay.Proofs.Url.Appending
import BuilderRelay.Proofs.Beacon.SyncingUrl
import BuilderRelay.Proofs.Text.PrefixedHex
import BuilderRelay.Proofs.Text.Trimming
import BuilderRelay.Proofs.Configuration.Precedence
import BuilderRelay.Proofs.Startup.KeyTexts
import BuilderRelay.Proofs.Startup.Selection
import BuilderRelay.Proofs.Signing.HashTreeRoot
import BuilderRelay.Proofs.Text.PercentDecoding
import BuilderRelay.Proofs.Relay.HeaderRequests
import BuilderRelay.Proofs.Relay.SampleText
import BuilderRelay.Proofs.Relay.CountedLabels
import BuilderRelay.Proofs.Relay.MetricsPage
import BuilderRelay.Proofs.Startup.RejectedKeys
