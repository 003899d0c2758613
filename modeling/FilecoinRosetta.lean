import FilecoinRosetta.Actor.Bundles
import FilecoinRosetta.Actor.Kind
import FilecoinRosetta.Actor.Method
import FilecoinRosetta.Actor.Params
import FilecoinRosetta.Actor.Registry
import FilecoinRosetta.ActorState
import FilecoinRosetta.Address
import FilecoinRosetta.AddressCache
import FilecoinRosetta.Bytes
import FilecoinRosetta.Cid
import FilecoinRosetta.CommandLine
import FilecoinRosetta.Configuration.Basic
import FilecoinRosetta.Configuration.Document
import FilecoinRosetta.Configuration.LogDirectives
import FilecoinRosetta.Configuration.Sources
import FilecoinRosetta.Decimal.Binary64
import FilecoinRosetta.Decimal.Numeral
import FilecoinRosetta.Decimal.Scaling
import FilecoinRosetta.Decimal.Shortest
import FilecoinRosetta.Digest.Blake2b
import FilecoinRosetta.Directory
import FilecoinRosetta.Duration
import FilecoinRosetta.Encoding.Cbor
import FilecoinRosetta.Encoding.Varint
import FilecoinRosetta.Internet.Ipv4
import FilecoinRosetta.Internet.Ipv6
import FilecoinRosetta.Internet.SocketAddress
import FilecoinRosetta.Json.Basic
import FilecoinRosetta.Json.Printer
import FilecoinRosetta.Json.Reader
import FilecoinRosetta.Json.Settled
import FilecoinRosetta.Json.Token
import FilecoinRosetta.Json.Typed
import FilecoinRosetta.Lotus.Client
import FilecoinRosetta.Lotus.Endpoint
import FilecoinRosetta.Lotus.Rpc
import FilecoinRosetta.LotusJson.Basic
import FilecoinRosetta.LotusJson.Chain
import FilecoinRosetta.LotusJson.Node
import FilecoinRosetta.LotusJson.Trace
import FilecoinRosetta.Main
import FilecoinRosetta.Message
import FilecoinRosetta.Movement
import FilecoinRosetta.Network
import FilecoinRosetta.Node.Basic
import FilecoinRosetta.Node.Call
import FilecoinRosetta.Node.Record
import FilecoinRosetta.Node.Snapshot
import FilecoinRosetta.Operation
import FilecoinRosetta.Program
import FilecoinRosetta.Proofs.Address.Text
import FilecoinRosetta.Proofs.Chain.Ledger
import FilecoinRosetta.Proofs.Chain.Linear
import FilecoinRosetta.Proofs.Chain.Reconciliation
import FilecoinRosetta.Proofs.Directory.Coherence
import FilecoinRosetta.Proofs.Directory.Lookup
import FilecoinRosetta.Proofs.Directory.Transparency
import FilecoinRosetta.Proofs.Directory.Uses
import FilecoinRosetta.Proofs.Program.Outcome
import FilecoinRosetta.Proofs.Rosetta.LookUps
import FilecoinRosetta.Proofs.Rosetta.Transparency
import FilecoinRosetta.Proofs.Text.BitGroups
import FilecoinRosetta.Proofs.Text.Decimal
import FilecoinRosetta.Proofs.Transaction.PreOrder
import FilecoinRosetta.Proofs.Transaction.Shape
import FilecoinRosetta.Rosetta.BalanceEndpoint
import FilecoinRosetta.Rosetta.BlockEndpoints
import FilecoinRosetta.Rosetta.ConstructionEndpoints
import FilecoinRosetta.Rosetta.Error
import FilecoinRosetta.Rosetta.Identifier
import FilecoinRosetta.Rosetta.MempoolEndpoints
import FilecoinRosetta.Rosetta.NetworkEndpoints
import FilecoinRosetta.Rosetta.OperationJson
import FilecoinRosetta.Rosetta.Request
import FilecoinRosetta.Rosetta.Router
import FilecoinRosetta.Rosetta.Service
import FilecoinRosetta.Startup
import FilecoinRosetta.Sync
import FilecoinRosetta.Text.Alphabets
import FilecoinRosetta.Text.BitGroups
import FilecoinRosetta.Text.Blank
import FilecoinRosetta.Text.Integer
import FilecoinRosetta.Text.Multibase
import FilecoinRosetta.Text.Radix
import FilecoinRosetta.Text.Segments
import FilecoinRosetta.Tipset
import FilecoinRosetta.TokenAmount
import FilecoinRosetta.Toml.Basic
import FilecoinRosetta.Toml.Draft
import FilecoinRosetta.Toml.Reader
import FilecoinRosetta.Toml.Scalar
import FilecoinRosetta.Toml.Text
import FilecoinRosetta.Toml.Writer
import FilecoinRosetta.Trace
import FilecoinRosetta.TransactionHistory
import FilecoinRosetta.Url.Basic
import FilecoinRosetta.Url.Host
import FilecoinRosetta.Url.Parser
import FilecoinRosetta.Url.Percent
import FilecoinRosetta.Url.Punycode
import FilecoinRosetta.Proofs.Program.Calls
import FilecoinRosetta.Proofs.Chain.Blocks
import FilecoinRosetta.Proofs.Chain.Walk
import FilecoinRosetta.Proofs.Chain.BalancePoint
import FilecoinRosetta.Proofs.Transaction.Status
import FilecoinRosetta.Proofs.Rosetta.OperationTypes
import FilecoinRosetta.Proofs.Transaction.ExportedCalls
import FilecoinRosetta.Proofs.Transaction.Degradation
import FilecoinRosetta.Proofs.Rosetta.BlockTransactions
import FilecoinRosetta.Proofs.Json.RoundTrip
import FilecoinRosetta.Proofs.Text.Base64
import FilecoinRosetta.Proofs.Cid.Text
import FilecoinRosetta.Proofs.LotusJson.Faithful
import FilecoinRosetta.Proofs.LotusJson.Containers
import FilecoinRosetta.Proofs.LotusJson.Records
import FilecoinRosetta.Proofs.LotusJson.Types
import FilecoinRosetta.Proofs.LotusJson.Trace
import FilecoinRosetta.Proofs.LotusJson.Wire
import FilecoinRosetta.Proofs.Sync.Evaluation
import FilecoinRosetta.Proofs.Rosetta.SyncGate
import FilecoinRosetta.Proofs.Chain.Ceiling
import FilecoinRosetta.Proofs.Directory.Queries
import FilecoinRosetta.Proofs.Program.Acts
import FilecoinRosetta.Proofs.Directory.Careful
import FilecoinRosetta.Proofs.Directory.Seeking
import FilecoinRosetta.Proofs.Directory.WriteOnce
import FilecoinRosetta.Proofs.Directory.Concurrency
import FilecoinRosetta.Proofs.Directory.Identity
import FilecoinRosetta.Proofs.Program.Validity
import FilecoinRosetta.Proofs.Program.Moments
import FilecoinRosetta.Proofs.Rosetta.Identity
import FilecoinRosetta.Proofs.Rosetta.Admission
import FilecoinRosetta.Proofs.Rosetta.CallSites
import FilecoinRosetta.Proofs.Rosetta.Failures
import FilecoinRosetta.Proofs.LotusJson.Depth
import FilecoinRosetta.Proofs.Encoding.Delimited
import FilecoinRosetta.Proofs.Encoding.Cbor
import FilecoinRosetta.Proofs.Cid.Binary
import FilecoinRosetta.Proofs.Tipset.Key
import FilecoinRosetta.Proofs.Address.Binary
import FilecoinRosetta.Proofs.Message.Identity
import FilecoinRosetta.Proofs.Rosetta.Mempool
import FilecoinRosetta.Proofs.Rosetta.Submission
import FilecoinRosetta.Proofs.Sync.Join
import FilecoinRosetta.Proofs.Actor.Precedence
import FilecoinRosetta.Proofs.Rosetta.Endings
import FilecoinRosetta.Proofs.Rosetta.SubAccounts
import FilecoinRosetta.Proofs.Tipset.Assembly
import FilecoinRosetta.Proofs.Rosetta.NewMessage
import FilecoinRosetta.Proofs.Configuration.Sources
import FilecoinRosetta.Proofs.Lotus.Endpoint
import FilecoinRosetta.Proofs.Actor.LegacyCodes
import FilecoinRosetta.Proofs.Actor.MethodTables
import FilecoinRosetta.Proofs.Encoding.CborForms
import FilecoinRosetta.Proofs.Actor.Payloads
import FilecoinRosetta.Proofs.Startup
import FilecoinRosetta.Proofs.Rosetta.Course
import FilecoinRosetta.Proofs.Rosetta.Courses.Gates
