import TicketMarket.Ledger.Memory

/-! # A ledger that fails on script

`FaultyLedger` puts a script of failures in front of a `MemoryLedger` and counts every
call it is asked. Each kind of call has its own queue; one entry is used up by one call
of that kind, and an empty queue lets calls through. A submit fault strikes either
before the call reaches the ledger or after the ledger settled it, in which case the
ledger's answer is lost. A persistent submit fault strikes, before the ledger, every
submit that finds the queue empty. Receipt lookups are never failed. -/
set_option autoImplicit false
namespace TicketMarket

/-- When a scripted submit failure strikes. -/
inductive SubmitFault where
  | before (error : LedgerError)
  | after (error : LedgerError)
  deriving DecidableEq, Repr

/-- The scripted failures, in the order they strike. -/
structure FaultScript where
  submit : List SubmitFault := []
  persistentSubmit : Option LedgerError := none
  confirm : List LedgerError := []
  query : List LedgerError := []
  chainId : List LedgerError := []
  deriving Repr

/-- How many calls of each kind the ledger was asked. -/
structure CallCounts where
  submit : Nat := 0
  confirm : Nat := 0
  findReceipt : Nat := 0
  query : Nat := 0
  chainId : Nat := 0
  deriving DecidableEq, Repr

/-- A ledger in memory with a fault script in front of it. -/
structure FaultyLedger where
  inner : MemoryLedger
  script : FaultScript
  calls : CallCounts

namespace FaultyLedger

/-- The ledger `inner` failing as `script` says, with no calls counted yet. -/
def scripted (inner : MemoryLedger) (script : FaultScript) : FaultyLedger := ⟨inner, script, {}⟩

/-- The first element of a queue and the rest. -/
def pop {α : Type} : List α → Option α × List α
  | [] => (none, [])
  | a :: rest => (some a, rest)

/-- Queue a failure that strikes after the next unscripted submit is settled. -/
def loseNextResponse (l : FaultyLedger) (error : LedgerError) : FaultyLedger :=
  { l with script := { l.script with submit := l.script.submit ++ [.after error] } }

/-- Submit a call through the script. -/
def submit (l : FaultyLedger) (sub : Submission) : Except LedgerError PendingTx × FaultyLedger :=
  let l := { l with calls := { l.calls with submit := l.calls.submit + 1 } }
  let (fault, rest) := pop l.script.submit
  let fault := fault.orElse fun _ => l.script.persistentSubmit.map SubmitFault.before
  let l := { l with script := { l.script with submit := rest } }
  match fault with
  | some (.before e) => (.error e, l)
  | some (.after e) => (.error e, { l with inner := (l.inner.submit sub).2 })
  | none =>
    let (r, inner) := l.inner.submit sub
    (r, { l with inner := inner })

/-- Wait for a transaction through the script. -/
def waitFor (l : FaultyLedger) (tx : TxHash) : Except LedgerError Receipt × FaultyLedger :=
  let (fault, rest) := pop l.script.confirm
  let l := { l with calls := { l.calls with confirm := l.calls.confirm + 1 },
                    script := { l.script with confirm := rest } }
  match fault with
  | some e => (.error e, l)
  | none => (l.inner.waitFor tx, l)

/-- Look up the receipt of an operation; never failed. -/
def findReceipt (l : FaultyLedger) (op : OperationId) :
    Except LedgerError (Option Receipt) × FaultyLedger :=
  (.ok (l.inner.findReceipt op),
    { l with calls := { l.calls with findReceipt := l.calls.findReceipt + 1 } })

/-- Answer a query through the script. -/
def query (l : FaultyLedger) (q : LedgerQuery) : Except LedgerError QueryResponse × FaultyLedger :=
  let (fault, rest) := pop l.script.query
  let l := { l with calls := { l.calls with query := l.calls.query + 1 },
                    script := { l.script with query := rest } }
  match fault with
  | some e => (.error e, l)
  | none => (.ok (l.inner.query q), l)

/-- Report the chain id through the script. -/
def chainId (l : FaultyLedger) : Except LedgerError Nat × FaultyLedger :=
  let (fault, rest) := pop l.script.chainId
  let l := { l with calls := { l.calls with chainId := l.calls.chainId + 1 },
                    script := { l.script with chainId := rest } }
  match fault with
  | some e => (.error e, l)
  | none => (.ok l.inner.chainId, l)

end FaultyLedger

end TicketMarket
