import TicketMarket.Ledger.Client
import TicketMarket.Retry.Policy
import TicketMarket.Execution.Error
import TicketMarket.Execution.Metrics

/-! # The transaction executor

The executor runs one logical call as a series of physical attempts against a ledger.
The call gets one operation id before its first attempt and keeps it on every retry;
the ledger settles an id at most once, so retries never apply a call twice.

An attempt submits the call and waits for its confirmations; a receipt that records a
revert counts as a rejection. A rejection ends the call at once, and so does an error no
retry can mend. A transient error is followed by the policy's pause and another attempt,
and contention for the account's transaction slot also resets the session (asks for the
chain id) before it. When the attempts run out, or a failure is final, the executor looks
the operation up by id: a call that landed while its answer was lost succeeds after all,
and one that landed and was reverted is a rejection. A read-only client is not looked up,
as it never sent anything. Queries and chain-id requests retry the same way, without the
lookup. -/
set_option autoImplicit false
namespace TicketMarket

/-- What an executor needs from the world it runs in: a ledger, a way to pause, a place
to record metrics and a source of fresh operation ids. -/
structure Effects (m : Type → Type) where
  ledger : LedgerClient m
  sleep : Nat → m Unit
  record : Metric → m Unit
  freshOperation : m OperationId

/-- The longest pause the runtime's timer takes: thirty years, in milliseconds. A pause
asked to last longer ends after thirty years. -/
def longestSleepMs : Nat := 946080000000

/-- How long a pause asked to last `ms` milliseconds takes. -/
def sleepTaken (ms : Nat) : Nat := min ms longestSleepMs

/-- Retry policy and confirmations awaited per transaction. -/
structure Executor where
  policy : RetryPolicy
  confirmations : Nat := 1

/-- A confirmed call: its receipt, the attempts made, and whether it was found by lookup. -/
structure Executed where
  receipt : Receipt
  attempts : Nat
  reconciled : Bool
  deriving DecidableEq, Repr

namespace Executor

variable {m : Type → Type} [Monad m] (rt : Effects m) (ex : Executor)

/-- Ask for the chain id to start a new session, recording whether that worked. -/
def resetSession : m Unit := do
  match ← rt.ledger.chainId with
  | .ok _ => rt.record (.sessionReset true)
  | .error _ => rt.record (.sessionReset false)

/-- Make attempt number `attempt` of `action`; a transient failure the policy still allows
to retry is handed to `retry`. -/
def tryOnce {α : Type} (operation : String) (action : m (Except LedgerError α)) (attempt : Nat)
    (retry : LedgerError → m (Except ExecutionError (α × Nat))) :
    m (Except ExecutionError (α × Nat)) := do
  rt.record (.attempt operation)
  match ← action with
  | .ok v => pure (.ok (v, attempt))
  | .error (.reverted reason) => pure (.error (.rejected reason))
  | .error e =>
    if !e.isRetryable then pure (.error (.fatal attempt e))
    else if ex.policy.isFinal attempt then pure (.error (.exhausted attempt e))
    else retry e

/-- Attempt `action` as attempt number `attempt`, with `fuel` retries still allowed. -/
def retryLoop {α : Type} (operation : String) (action : m (Except LedgerError α)) :
    Nat → Nat → m (Except ExecutionError (α × Nat))
  | 0, attempt => tryOnce rt ex operation action attempt fun e =>
    pure (.error (.exhausted attempt e))
  | fuel + 1, attempt => tryOnce rt ex operation action attempt fun e => do
    rt.record (.retry operation e.code)
    rt.sleep (ex.policy.backoffAfter attempt)
    if e.isPriceContention then resetSession rt
    retryLoop operation action fuel (attempt + 1)

/-- Run `action` under the retry policy: the value and the attempt it came on. -/
def withRetry {α : Type} (operation : String) (action : m (Except LedgerError α)) :
    m (Except ExecutionError (α × Nat)) :=
  retryLoop rt ex operation action ex.policy.maxAttempts 1

/-- One physical attempt: submit, then wait for the confirmations. -/
def attempt (sub : Submission) : m (Except LedgerError Receipt) := do
  match ← rt.ledger.submit sub with
  | .error e => pure (.error e)
  | .ok pending =>
    match ← rt.ledger.waitFor pending.tx ex.confirmations with
    | .error e => pure (.error e)
    | .ok receipt =>
      match receipt.revertReason? with
      | some reason => pure (.error (.reverted reason))
      | none => pure (.ok receipt)

/-- Look an operation up after its attempts failed. -/
def reconcile (op : OperationId) (failure : ExecutionError) : m (Except ExecutionError Executed) := do
  let attempts := failure.attempts?.getD 1
  match ← rt.ledger.findReceipt op with
  | .ok (some receipt) =>
    match receipt.revertReason? with
    | some reason => do
      rt.record (.lookup .reverted)
      pure (.error (.rejected reason))
    | none => do
      rt.record (.lookup .landed)
      pure (.ok ⟨receipt, attempts, true⟩)
  | .ok none => do
    rt.record (.lookup .absent)
    pure (.error failure)
  | .error _ => do
    rt.record (.lookup .unavailable)
    pure (.error failure)

/-- The result of a call from the outcome of its attempts: the confirmed receipt, or the
failure, after looking the operation up if it may have landed. -/
def resolve (op : OperationId) :
    Except ExecutionError (Receipt × Nat) → m (Except ExecutionError Executed)
  | .ok (receipt, n) => pure (.ok ⟨receipt, n, false⟩)
  | .error failure =>
    if failure.needsLookup then reconcile rt op failure else pure (.error failure)

/-- Record how a call ended, if it failed. -/
def report (operation : String) : Except ExecutionError Executed → m Unit
  | .error (.rejected reason) => rt.record (.rejection operation reason.code)
  | .error e => rt.record (.failure operation e.code)
  | .ok _ => pure ()

/-- Submit a call under its operation id until it is confirmed, rejected or given up. -/
def submit (sub : Submission) : m (Except ExecutionError Executed) := do
  let operation := sub.call.name
  let outcome ← withRetry rt ex operation (attempt rt ex sub)
  let result ← resolve rt sub.operationId outcome
  report rt operation result
  rt.record (.duration operation)
  pure result

/-- Execute a call for `caller` under a fresh operation id. -/
def execute (caller : Address) (call : LedgerCall) : m (Except ExecutionError Executed) := do
  let op ← rt.freshOperation
  submit rt ex ⟨op, caller, call⟩

/-- Answer a query, retrying transient failures. -/
def query (q : LedgerQuery) : m (Except ExecutionError QueryResponse) := do
  match ← withRetry rt ex "query" (rt.ledger.query q) with
  | .ok (response, _) => pure (.ok response)
  | .error e => do
    rt.record (.failure "query" e.code)
    pure (.error e)

/-- The ledger's chain id, retrying transient failures. -/
def chainId : m (Except ExecutionError Nat) := do
  match ← withRetry rt ex "chain_id" rt.ledger.chainId with
  | .ok (n, _) => pure (.ok n)
  | .error e => pure (.error e)

end Executor

end TicketMarket
