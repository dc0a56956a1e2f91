import TicketMarket.Ledger.Error

/-! # Execution errors

How a call through the executor can end badly: the settlement rules rejected it, the
attempts ran out on transient failures, or a failure came that no retry can mend. The
last two carry the number of attempts made and the ledger error that ended them. -/
set_option autoImplicit false
namespace TicketMarket

/-- Why an executed call failed. -/
inductive ExecutionError where
  | rejected (reason : Rejection)
  | exhausted (attempts : Nat) (source : LedgerError)
  | fatal (attempts : Nat) (source : LedgerError)
  deriving DecidableEq, Repr

namespace ExecutionError

/-- The snake-case name of the variant. -/
def variantName : ExecutionError → String
  | .rejected _ => "rejected"
  | .exhausted _ _ => "exhausted"
  | .fatal _ _ => "fatal"

/-- The machine code: the rejection's, or the ledger error's. -/
def code : ExecutionError → String
  | .rejected r => r.code
  | .exhausted _ e | .fatal _ e => e.code

/-- The class of the failure; every ledger failure is infrastructure. -/
def kind : ExecutionError → ErrorKind
  | .rejected r => r.kind
  | .exhausted _ _ | .fatal _ _ => .infrastructure

/-- The attempts made, for infrastructure failures. -/
def attempts? : ExecutionError → Option Nat
  | .rejected _ => none
  | .exhausted n _ | .fatal n _ => some n

/-- Whether the client could not sign, so nothing was ever sent. -/
def isReadOnly : ExecutionError → Bool
  | .fatal _ .readOnly => true
  | _ => false

/-- The settlement rule that refused the call. -/
def rejection? : ExecutionError → Option Rejection
  | .rejected r => some r
  | _ => none

/-- The ledger error behind an infrastructure failure. -/
def source? : ExecutionError → Option LedgerError
  | .rejected _ => none
  | .exhausted _ e | .fatal _ e => some e

/-- The human-readable message. -/
def message : ExecutionError → String
  | .rejected r => "Rejected: " ++ r.message
  | .exhausted n e => "Ledger operation failed after " ++ toString n ++ " attempt(s): " ++ e.message
  | .fatal n e => "Ledger operation failed on attempt " ++ toString n ++ ": " ++ e.message

/-- Whether the call may have landed all the same, so its operation should be looked up:
every infrastructure failure but a read-only client's. -/
def needsLookup (e : ExecutionError) : Bool :=
  e.attempts?.isSome && !e.isReadOnly

end ExecutionError

end TicketMarket
