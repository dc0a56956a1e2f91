import TicketMarket.Config.Settings
import TicketMarket.Rpc.Isolated
import TicketMarket.Replica.Broadcast
import TicketMarket.Ledger.Memory
import TicketMarket.Service.Marketplace
import TicketMarket.Testbed

/-! # Assembling the service from its configuration

The ledger client is chosen once, from the configured mode: a JSON-RPC client for the
configured gateway, or a ledger in memory deployed with the configuration's genesis and
chain id. Nothing downstream knows which one it talks to. The executor takes the
configured retry policy and confirmations, and the service publishes to the chosen
replica: one that drops every fact, one that records them, or a broadcast channel.

`Deployment` is the state of an assembled service in a world where the network does not
answer and time moves only with the executor's pauses. -/
set_option autoImplicit false
namespace TicketMarket

/-- The ledger a deployment talks to. -/
inductive LedgerHandle where
  | live (cfg : RpcConfig)
  | offline (ledger : MemoryLedger)

/-- Where a deployment's facts go. -/
inductive ReplicaFeed where
  | noop
  | recording (facts : Array TransitionFact)
  | broadcast (channel : Broadcast)

/-- Hand a fact to a replica. -/
def ReplicaFeed.publish (m : ReplicaFeed) (f : TransitionFact) : Except ReplicaError Unit × ReplicaFeed :=
  match m with
  | .noop => (.ok (), .noop)
  | .recording facts => (.ok (), .recording (facts.push f))
  | .broadcast b =>
    let (r, b') := b.publish f
    (r, .broadcast b')

/-- Why a service could not be assembled. -/
inductive BootstrapError where
  | config (e : ConfigError)
  | ledger (e : LedgerError)

namespace BootstrapError

/-- The machine code. -/
def code : BootstrapError → String
  | .config e => e.code
  | .ledger e => e.code

/-- The human-readable message. -/
def message : BootstrapError → String
  | .config e => e.message
  | .ledger e => "Failed to build ledger client: " ++ e.message

end BootstrapError

/-- The state of an assembled service. `metrics` is newest first. -/
structure Deployment where
  ledger : LedgerHandle
  executor : Executor
  replica : ReplicaFeed
  clockMs : Nat := 0
  nextRequestId : Nat := 1
  metrics : List Metric := []
  serial : Nat := 0

/-- A computation against an assembled service. -/
abbrev App := StateM Deployment

namespace Config

/-- The JSON-RPC client settings of a configuration. -/
def rpcConfig (c : Config) : RpcConfig :=
  { endpoint := c.ledger.providerUrl, credential := c.ledger.credential,
    requestTimeoutMs := c.ledger.requestTimeoutMs,
    confirmationTimeoutMs := c.ledger.confirmationTimeoutMs, contracts := c.contracts }

end Config

namespace Deployment

/-- Assemble the service: validate the configuration and choose the ledger. An offline
ledger stamps its blocks with `clock`. -/
def build (c : Config) (replica : ReplicaFeed) (clock : Nat → Instant) :
    Except BootstrapError Deployment := do
  match c.validate with
  | .error e => throw (.config e)
  | .ok () => pure ()
  let ledger := match c.ledger.mode with
    | .live => LedgerHandle.live c.rpcConfig
    | .offline => .offline { MemoryLedger.create c.genesis clock with chainId := c.ledger.chainId }
  pure { ledger := ledger, executor := ⟨c.retry, c.ledger.confirmations⟩, replica := replica }

/-- The network of a deployment: nothing answers. -/
def network : RpcNetwork App where
  send req := pure (.error (Isolated.refusal req.url))
  nextId := modifyGet fun d => (d.nextRequestId, { d with nextRequestId := d.nextRequestId + 1 })
  now := (·.clockMs) <$> get
  sleep ms := modify fun d => { d with clockMs := d.clockMs + sleepTaken ms }

/-- Run a request of the ledger in memory. -/
def onMemory {α : Type} (l : MemoryLedger) (f : MemoryLedger → α × MemoryLedger) : App α := do
  let (a, l') := f l
  modify fun d => { d with ledger := .offline l' }
  pure a

/-- The deployment's ledger as a client. -/
def client : LedgerClient App where
  chainId := do
    match (← get).ledger with
    | .live cfg => (Rpc.client cfg network).chainId
    | .offline l => pure (.ok l.chainId)
  submit sub := do
    match (← get).ledger with
    | .live cfg => (Rpc.client cfg network).submit sub
    | .offline l => onMemory l (·.submit sub)
  waitFor tx c := do
    match (← get).ledger with
    | .live cfg => (Rpc.client cfg network).waitFor tx c
    | .offline l => pure (l.waitFor tx)
  findReceipt op := do
    match (← get).ledger with
    | .live cfg => (Rpc.client cfg network).findReceipt op
    | .offline l => pure (.ok (l.findReceipt op))
  query q := do
    match (← get).ledger with
    | .live cfg => (Rpc.client cfg network).query q
    | .offline l => pure (.ok (l.query q))

/-- The executor's effects. -/
def effects : Effects App where
  ledger := client
  sleep ms := modify fun d => { d with clockMs := d.clockMs + sleepTaken ms }
  record e := modify fun d => { d with metrics := e :: d.metrics }
  freshOperation := modifyGet fun d => (.fresh d.serial, { d with serial := d.serial + 1 })

/-- Publish a fact to the deployment's replica. -/
def publish (f : TransitionFact) : App (Except ReplicaError Unit) :=
  modifyGet fun d => let (r, m) := d.replica.publish f; (r, { d with replica := m })

/-- The service of a deployment. -/
def marketplace (ex : Executor) : Marketplace App := ⟨effects, ex, publish⟩

/-- Perform a write through the service. -/
def perform (caller : Address) (call : LedgerCall) : App (Except MarketplaceError CallOutput) := do
  (marketplace (← get).executor).perform caller call

/-- Perform a read through the service. -/
def read (q : LedgerQuery) : App (Except MarketplaceError QueryResponse) := do
  (marketplace (← get).executor).read q

/-- The chain id through the service. -/
def chainId : App (Except MarketplaceError Nat) := do
  (marketplace (← get).executor).chainId

/-- Credit an account of an offline ledger; a live ledger has no faucet. -/
def fund (account : Address) (amount : Wei) : App Bool := do
  match (← get).ledger with
  | .offline l =>
    modify fun d => { d with ledger := .offline (l.fund account amount) }
    pure true
  | .live _ => pure false

/-- Let every subscriber of a broadcast replica receive what it can. -/
def drainReplica : App (Option (List (List Received))) := do
  match (← get).replica with
  | .broadcast b =>
    let (got, b') := b.drainAll
    modify fun d => { d with replica := .broadcast b' }
    pure (some got)
  | _ => pure none

/-- Run one step of a session with the service. Only service calls, reads and chain-id
requests apply, and funding for an offline ledger; anything else is refused with
`invalid`. -/
def step : BenchStep → App BenchAnswer
  | .service caller call => .served <$> perform caller call
  | .serviceRead q => .read <$> read q
  | .serviceChainId => .servedChain <$> chainId
  | .fund account amount => do
    if ← fund account amount then pure .done else pure .invalid
  | _ => pure .invalid

end Deployment

end TicketMarket
