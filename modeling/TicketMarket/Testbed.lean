import TicketMarket.Ledger.Faults
import TicketMarket.Service.Marketplace

/-! # A closed world for the executor and the service

`Testbed` holds everything a run of the executor touches: a ledger in memory behind a
fault script, a paused clock that only pauses move on, the metrics recorded so far, a
counter for fresh operation ids and a replica that records the facts it accepts. Running
in `StateM Testbed` makes a whole run a pure function of its inputs. -/
set_option autoImplicit false
namespace TicketMarket

/-- The state of a closed run. `metrics` is newest first. -/
structure Testbed where
  ledger : FaultyLedger
  elapsedMs : Nat := 0
  metrics : List Metric := []
  serial : Nat := 0
  replicaDown : Bool := false
  replicated : Array TransitionFact := #[]
  lastTx : Option TxHash := none

/-- A computation in a closed run. -/
abbrev Bench := StateM Testbed

namespace Testbed

/-- The time a closed run's ledger stamps on blocks unless told another:
2025-01-01T00:00:00Z. -/
def defaultClock : Instant := ⟨20089, 0, 0⟩

/-- A closed run over a ledger with a fault script. -/
def start (ledger : MemoryLedger) (script : FaultScript) : Testbed :=
  { ledger := FaultyLedger.scripted ledger script }

/-- Run one request of the fault-scripted ledger. -/
def onLedger {α : Type} (f : FaultyLedger → α × FaultyLedger) : Bench α :=
  modifyGet fun t => let (a, l) := f t.ledger; (a, { t with ledger := l })

/-- The fault-scripted ledger as a client. -/
def client : LedgerClient Bench where
  chainId := onLedger FaultyLedger.chainId
  submit sub := onLedger (·.submit sub)
  waitFor tx _ := onLedger (·.waitFor tx)
  findReceipt op := onLedger (·.findReceipt op)
  query q := onLedger (·.query q)

/-- The run's effects: pauses move the clock, metrics are kept, ids are numbered. -/
def effects : Effects Bench where
  ledger := client
  sleep ms := modify fun t => { t with elapsedMs := t.elapsedMs + sleepTaken ms }
  record e := modify fun t => { t with metrics := e :: t.metrics }
  freshOperation := modifyGet fun t => (.fresh t.serial, { t with serial := t.serial + 1 })

/-- The recording replica: it keeps what it is handed, unless it is down. -/
def publish (fact : TransitionFact) : Bench (Except ReplicaError Unit) :=
  modifyGet fun t =>
    if t.replicaDown then (.error (.unavailable "recording mirror offline"), t)
    else (.ok (), { t with replicated := t.replicated.push fact })

/-- The marketplace of the run over an executor. -/
def marketplace (ex : Executor) : Marketplace Bench := ⟨effects, ex, publish⟩

end Testbed

/-- Which transaction a direct wait is for: the last one submitted directly, or a hash. -/
inductive WaitTarget where
  | last
  | hash (h : TxHash)
  deriving DecidableEq, Repr

/-- One step of a closed run. -/
inductive BenchStep where
  | execute (caller : Address) (call : LedgerCall)
  | query (q : LedgerQuery)
  | chainId
  | fund (account : Address) (amount : Wei)
  | loseNextResponse (error : LedgerError)
  | replicaUnavailable (down : Bool)
  | service (caller : Address) (call : LedgerCall)
  | serviceRead (q : LedgerQuery)
  | serviceChainId
  | ledgerSubmit (sub : Submission)
  | ledgerWait (target : WaitTarget)
  | ledgerFindReceipt (op : OperationId)
  deriving Repr

/-- What a step of a closed run answered. -/
inductive BenchAnswer where
  | executed (r : Except ExecutionError Executed)
  | queried (r : Except ExecutionError QueryResponse)
  | chain (r : Except ExecutionError Nat)
  | done
  | served (r : Except MarketplaceError CallOutput)
  | read (r : Except MarketplaceError QueryResponse)
  | servedChain (r : Except MarketplaceError Nat)
  | submitted (r : Except LedgerError PendingTx)
  | waited (r : Except LedgerError Receipt)
  | found (r : Except LedgerError (Option Receipt))
  | invalid

namespace Testbed

/-- Run one step with the executor `ex`. -/
def step (ex : Executor) : BenchStep → Bench BenchAnswer
  | .execute caller call => .executed <$> Executor.execute effects ex caller call
  | .query q => .queried <$> Executor.query effects ex q
  | .chainId => .chain <$> Executor.chainId effects ex
  | .fund account amount => do
    modify fun t => { t with ledger := { t.ledger with inner := t.ledger.inner.fund account amount } }
    pure .done
  | .loseNextResponse e => do
    modify fun t => { t with ledger := t.ledger.loseNextResponse e }
    pure .done
  | .replicaUnavailable down => do
    modify fun t => { t with replicaDown := down }
    pure .done
  | .service caller call => .served <$> (marketplace ex).perform caller call
  | .serviceRead q => .read <$> (marketplace ex).read q
  | .serviceChainId => .servedChain <$> (marketplace ex).chainId
  | .ledgerSubmit sub => do
    let r ← client.submit sub
    if let .ok pending := r then modify fun t => { t with lastTx := some pending.tx }
    pure (.submitted r)
  | .ledgerWait target => do
    let last := (← get).lastTx
    let tx? := match target with
      | .last => last
      | .hash h => some h
    match tx? with
    | none => pure .invalid
    | some tx => .waited <$> client.waitFor tx 1
  | .ledgerFindReceipt op => .found <$> client.findReceipt op

end Testbed


/-- A step's answer with the virtual time it took and the ledger's counters after it. -/
structure StepReport where
  answer : BenchAnswer
  elapsedMs : Nat
  calls : CallCounts
  blockNumber : Nat

namespace Testbed

/-- Run one step and report it. -/
def report (ex : Executor) (s : BenchStep) : Bench StepReport := do
  let before := (← get).elapsedMs
  let answer ← step ex s
  let t ← get
  pure ⟨answer, t.elapsedMs - before, t.ledger.calls, t.ledger.inner.blockNumber⟩

/-- Run the steps in order; a step that could not be read is skipped and reported as
`none`. -/
def runAll (ex : Executor) (steps : List (Option BenchStep)) : Bench (List (Option StepReport)) :=
  steps.mapM fun
    | some s => some <$> report ex s
    | none => pure none

end Testbed

end TicketMarket
