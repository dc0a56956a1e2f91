import TicketMarket.Ledger.Error
import TicketMarket.Ledger.Receipt

/-! # Ledger clients

The five requests every ledger answers, in some monad `m` that carries whatever the
ledger needs: its chain id, submitting a call, waiting until a transaction has enough
confirmations, looking up the receipt of an operation, and answering a query. -/
set_option autoImplicit false
namespace TicketMarket

/-- A ledger as seen by a client. -/
structure LedgerClient (m : Type → Type) where
  chainId : m (Except LedgerError Nat)
  submit : Submission → m (Except LedgerError PendingTx)
  waitFor : TxHash → Nat → m (Except LedgerError Receipt)
  findReceipt : OperationId → m (Except LedgerError (Option Receipt))
  query : LedgerQuery → m (Except LedgerError QueryResponse)

end TicketMarket
