import TicketMarket.Ledger.Error
import TicketMarket.Ledger.Receipt
import TicketMarket.Settlement.Transition
import TicketMarket.Data.Assoc
import TicketMarket.Ledger.HashSource

/-! # A ledger held in memory

`MemoryLedger` settles calls one at a time with the settlement rules, which is the
per-account order a real ledger gives. Every first submission of an operation id mines a
block, whether the rules accept the call or not, names it by the next hash of the
ledger's `HashSource`, and stamps it with the time its clock reads then. A clock is read
once for each first submission and nowhere else, so it is given as the time of its `n`-th
reading: a test's clock reads one time throughout (`fixedClock`), the system's moves on.
A later submission of the
same id mines nothing: it gets back the transaction first mined for it, or that
transaction's rejection. Every mined transaction counts as confirmed at once. -/
set_option autoImplicit false
namespace TicketMarket

/-- The chain id a ledger reports unless it is told another. -/
def defaultChainId : Nat := 31337

/-- A clock that reads `t` every time, as a test's fixed clock does. -/
def fixedClock (t : Instant) : Nat → Instant := fun _ => t

/-- A ledger's state: the settlement state, its clock (the time of each block, by the
number of blocks before it), the source of transaction hashes, and the mined transactions
and their receipts. -/
structure MemoryLedger where
  state : SettlementState
  chainId : Nat
  clock : Nat → Instant
  hashes : HashSource
  blockNumber : Nat
  byOperation : List (OperationId × TxHash)
  receipts : List (TxHash × Receipt)

namespace MemoryLedger

/-- A ledger deployed with `g`, stamping blocks with `clock`, its hashes seeded by
`defaultHashSeed`. -/
def create (g : Genesis) (clock : Nat → Instant) : MemoryLedger :=
  ⟨SettlementState.genesis g, defaultChainId, clock, HashSource.seeded defaultHashSeed, 0, [], []⟩

/-- The same ledger with its hashes seeded by `seed` instead. -/
def withSeed (l : MemoryLedger) (seed : Nat) : MemoryLedger :=
  { l with hashes := HashSource.seeded seed }

/-- The time the clock reads for the next block. -/
def now (l : MemoryLedger) : Instant := l.clock l.blockNumber

/-- The receipt of a transaction. -/
def receipt? (l : MemoryLedger) (tx : TxHash) : Option Receipt := Assoc.lookup tx l.receipts

/-- Submit a call. A first submission is settled and mined under a fresh hash; a repeated
one answers as the first did and changes nothing. -/
def submit (l : MemoryLedger) (sub : Submission) : Except LedgerError PendingTx × MemoryLedger :=
  match Assoc.lookup sub.operationId l.byOperation with
  | some tx =>
    match (l.receipt? tx).bind Receipt.revertReason? with
    | some reason => (.error (.reverted reason), l)
    | none => (.ok ⟨tx, sub.operationId⟩, l)
  | none =>
    let (result, state) := l.state.run sub.call ⟨sub.sender, l.now⟩
    let (tx, hashes) :=
      HashSource.nextFresh (l.receipts.map (·.1)) (l.receipts.length + 2) l.hashes
    let n := l.blockNumber + 1
    let (status, output, logs) : ReceiptStatus × CallOutput × List LedgerLog :=
      match result with
      | .ok a => (.success, a.output, a.logs)
      | .error r => (.reverted r, .empty, [])
    let receipt : Receipt := ⟨tx, sub.operationId, n, status, output, logs, l.now⟩
    let l' : MemoryLedger := { l with
      state := state, hashes := hashes, blockNumber := n,
      byOperation := Assoc.insert sub.operationId tx l.byOperation,
      receipts := Assoc.insert tx receipt l.receipts }
    match result with
    | .ok _ => (.ok ⟨tx, sub.operationId⟩, l')
    | .error r => (.error (.reverted r), l')

/-- The receipt of a mined transaction; a transaction never mined here is unknown. -/
def waitFor (l : MemoryLedger) (tx : TxHash) : Except LedgerError Receipt :=
  match l.receipt? tx with
  | some r => .ok r
  | none => .error (.unknownTransaction tx)

/-- The receipt of the transaction mined for an operation id, if there is one. -/
def findReceipt (l : MemoryLedger) (op : OperationId) : Option Receipt :=
  (Assoc.lookup op l.byOperation).bind l.receipt?

/-- Answer a query from the current state. -/
def query (l : MemoryLedger) (q : LedgerQuery) : QueryResponse := l.state.query q

/-- Credit an account, as a development faucet would. -/
def fund (l : MemoryLedger) (account : Address) (amount : Wei) : MemoryLedger :=
  { l with state := l.state.fund account amount }

end MemoryLedger

end TicketMarket
