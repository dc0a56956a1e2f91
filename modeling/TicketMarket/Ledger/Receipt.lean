import TicketMarket.Call
import TicketMarket.Rejection

/-! # Submissions and receipts

A `Submission` is one call sent on behalf of an account under an operation id. The ledger
answers with a pending transaction and later a `Receipt`: the block it was mined in,
whether the rules accepted it, and, if they did, its output and logs. A transaction is
referred to by the hash the ledger handed out for it. -/
set_option autoImplicit false
namespace TicketMarket

/-- A call sent for an account under an operation id. -/
structure Submission where
  operationId : OperationId
  sender : Address
  call : LedgerCall
  deriving DecidableEq, Repr

/-- A transaction the ledger accepted for mining. -/
structure PendingTx where
  tx : TxHash
  operationId : OperationId
  deriving DecidableEq, Repr

/-- Whether the rules accepted a mined call. -/
inductive ReceiptStatus where
  | success
  | reverted (reason : Rejection)
  deriving DecidableEq, Repr

/-- The record of a mined transaction. A reverted one has an empty output and no logs. -/
structure Receipt where
  tx : TxHash
  operationId : OperationId
  blockNumber : Nat
  status : ReceiptStatus
  output : CallOutput
  logs : List LedgerLog
  timestamp : Instant
  deriving DecidableEq, Repr

/-- The rejection a receipt records, if the call was reverted. -/
def Receipt.revertReason? (r : Receipt) : Option Rejection :=
  match r.status with
  | .success => none
  | .reverted reason => some reason

end TicketMarket
