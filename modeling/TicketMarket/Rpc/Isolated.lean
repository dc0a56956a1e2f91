import TicketMarket.Rpc.Client
import TicketMarket.Rpc.Endpoint
import TicketMarket.Execution.Executor

/-! # A network where nothing answers

`Isolated` is a world in which every request fails at once, as on a host whose network
is down: a request to a web URL fails while being sent, and a text that is no usable URL
fails while the request is built. Its clock only moves when the client pauses. Running
the JSON-RPC client and the executor in `StateM Isolated` shows how they behave when the
gateway cannot be reached: which requests they would make, how they retry, and what they
report. -/
set_option autoImplicit false
namespace TicketMarket

/-- The state of an isolated run. `metrics` is newest first. -/
structure Isolated where
  nextId : Nat := 1
  clockMs : Nat := 0
  metrics : List Metric := []
  serial : Nat := 0

/-- A computation in an isolated run. -/
abbrev Offline := StateM Isolated

namespace Isolated

/-- The failure of a request to `url`. -/
def refusal (url : String) : TransportFault :=
  match Endpoint.ofText url with
  | .web u => .failed ("error sending request for url (" ++ u ++ ")")
  | .refused u => .failed ("builder error for url (" ++ u ++ ")")
  | .malformed => .failed "builder error"

/-- The network of an isolated run. -/
def network : RpcNetwork Offline where
  send req := pure (.error (refusal req.url))
  nextId := modifyGet fun s => (s.nextId, { s with nextId := s.nextId + 1 })
  now := (·.clockMs) <$> get
  sleep ms := modify fun s => { s with clockMs := s.clockMs + sleepTaken ms }

/-- The executor's effects in an isolated run, over the client for `cfg`. -/
def effects (cfg : RpcConfig) : Effects Offline where
  ledger := Rpc.client cfg network
  sleep ms := modify fun s => { s with clockMs := s.clockMs + sleepTaken ms }
  record e := modify fun s => { s with metrics := e :: s.metrics }
  freshOperation := modifyGet fun s => (.fresh s.serial, { s with serial := s.serial + 1 })

end Isolated

/-- One step of a session with a gateway. -/
inductive GatewayStep where
  | chainId
  | submit (sub : Submission)
  | wait (h : TxHash) (confirmations : Nat)
  | findReceipt (op : OperationId)
  | query (q : LedgerQuery)
  | execute (sub : Submission)
  | executorQuery (q : LedgerQuery)
  | executorChainId
  deriving Repr

/-- What a step of a session answered. -/
inductive GatewayAnswer where
  | chain (r : Except LedgerError Nat)
  | submitted (r : Except LedgerError PendingTx)
  | waited (r : Except LedgerError Receipt)
  | found (r : Except LedgerError (Option Receipt))
  | queried (r : Except LedgerError QueryResponse)
  | executed (r : Except ExecutionError Executed)
  | executorQueried (r : Except ExecutionError QueryResponse)
  | executorChain (r : Except ExecutionError Nat)

namespace Isolated

/-- Run one step against the client for `cfg` and an executor with `ex`. -/
def step (cfg : RpcConfig) (ex : Executor) : GatewayStep → Offline GatewayAnswer
  | .chainId => .chain <$> (effects cfg).ledger.chainId
  | .submit sub => .submitted <$> (effects cfg).ledger.submit sub
  | .wait h c => .waited <$> (effects cfg).ledger.waitFor h c
  | .findReceipt op => .found <$> (effects cfg).ledger.findReceipt op
  | .query q => .queried <$> (effects cfg).ledger.query q
  | .execute sub => .executed <$> Executor.submit (effects cfg) ex sub
  | .executorQuery q => .executorQueried <$> Executor.query (effects cfg) ex q
  | .executorChainId => .executorChain <$> Executor.chainId (effects cfg) ex

/-- Run the steps in order; a step that could not be read is skipped. -/
def runAll (cfg : RpcConfig) (ex : Executor) (steps : List (Option GatewayStep)) :
    Offline (List (Option GatewayAnswer)) :=
  steps.mapM fun
    | some s => some <$> step cfg ex s
    | none => pure none

end Isolated

end TicketMarket
