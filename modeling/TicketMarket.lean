import TicketMarket.Json.Value
import TicketMarket.Json.Read
import TicketMarket.Json.Write
import TicketMarket.Json.Scan
import TicketMarket.Text.Hex
import TicketMarket.Text.Integer
import TicketMarket.Text.Blank
import TicketMarket.Text.CodeRanges
import TicketMarket.Text.Printable
import TicketMarket.Text.Alphanumeric
import TicketMarket.Text.Escape
import TicketMarket.Text.FloatLiteral
import TicketMarket.Time.Instant
import TicketMarket.Value.HexValue
import TicketMarket.Value.Address
import TicketMarket.Value.Amount
import TicketMarket.Value.Ident
import TicketMarket.Entity
import TicketMarket.Rejection
import TicketMarket.Call
import TicketMarket.Data.Assoc
import TicketMarket.Settlement.State
import TicketMarket.Settlement.Rules
import TicketMarket.Settlement.Transition
import TicketMarket.Fact
import TicketMarket.Ledger.Error
import TicketMarket.Random.ChaCha
import TicketMarket.Ledger.HashSource
import TicketMarket.Ledger.Receipt
import TicketMarket.Ledger.Memory
import TicketMarket.Ledger.Faults
import TicketMarket.Ledger.Client
import TicketMarket.Retry.Policy
import TicketMarket.Execution.Error
import TicketMarket.Execution.Metrics
import TicketMarket.Execution.Executor
import TicketMarket.Service.Marketplace
import TicketMarket.Testbed
import TicketMarket.Wire.Basic
import TicketMarket.Wire.Market
import TicketMarket.Wire.Ledger
import TicketMarket.Wire.Bench
import TicketMarket.Config.Manifest
import TicketMarket.Config.Settings
import TicketMarket.Config.Dotenv
import TicketMarket.Wire.Config
import TicketMarket.Rpc.Endpoint
import TicketMarket.Url.Percent
import TicketMarket.Url.Punycode
import TicketMarket.Url.DomainChars
import TicketMarket.Url.Ip
import TicketMarket.Url.Domain
import TicketMarket.Url.Host
import TicketMarket.Url.Basic
import TicketMarket.Url.Parse
import TicketMarket.Wire.Rpc
import TicketMarket.Rpc.Client
import TicketMarket.Rpc.Isolated
import TicketMarket.Wire.Gateway
import TicketMarket.Replica.Broadcast
import TicketMarket.Deployment
import TicketMarket.Demo
import TicketMarket.Main
import TicketMarket.Proofs.Run
import TicketMarket.Proofs.Steps
import TicketMarket.Proofs.Atomicity
import TicketMarket.Proofs.Reachable
import TicketMarket.Proofs.ListingLock
import TicketMarket.Proofs.Balances
import TicketMarket.Proofs.Purchase
import TicketMarket.Proofs.Authority
import TicketMarket.Proofs.History
import TicketMarket.Proofs.Seats
import TicketMarket.Proofs.Permanence
import TicketMarket.Proofs.Deduplication
import TicketMarket.Proofs.ExactlyOnce
import TicketMarket.Proofs.Service
import TicketMarket.Proofs.Codec
import TicketMarket.Proofs.WireFields
import TicketMarket.Proofs.WireRecords
import TicketMarket.Proofs.Story
import TicketMarket.Proofs.Transitions
import TicketMarket.Proofs.Idempotence
import TicketMarket.Proofs.Numbering
import TicketMarket.Proofs.RetrySchedule
import TicketMarket.Proofs.RpcClassification
import TicketMarket.Proofs.HexText
