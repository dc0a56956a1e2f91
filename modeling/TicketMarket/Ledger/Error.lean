import TicketMarket.Rejection

/-! # Ledger errors

What can go wrong between a client and the ledger. Transport troubles (network, timeout,
server, rate limits) and contention for the account's next transaction slot (a nonce
conflict or an underpriced replacement) pass with time and are worth retrying; a revert
by the settlement rules, a read-only client, an unknown transaction, an unreadable
response or another RPC error are not. `LedgerError.classifyRpc` sorts an RPC error by its
message, matched in ASCII lower case, so that other letters are never folded. -/
set_option autoImplicit false
namespace TicketMarket

/-- Why a ledger request failed. -/
inductive LedgerError where
  | network (message : String)
  | timeout (message : String)
  | server (status : Nat) (message : String)
  | rateLimited (message : String)
  | nonceConflict (message : String)
  | underpriced (message : String)
  | reverted (reason : Rejection)
  | readOnly
  | unknownTransaction (hash : TxHash)
  | invalidResponse (message : String)
  | rpc (code : Int) (message : String)
  deriving DecidableEq, Repr

namespace LedgerError

/-- Whether waiting and trying again may help. -/
def isRetryable : LedgerError → Bool
  | .network _ | .timeout _ | .server _ _ | .rateLimited _ | .nonceConflict _
  | .underpriced _ => true
  | _ => false

/-- Whether another transaction took the account's slot, so the session should be reset. -/
def isPriceContention : LedgerError → Bool
  | .nonceConflict _ | .underpriced _ => true
  | _ => false

/-- The stable machine code; a revert carries the rejection's own code. -/
def code : LedgerError → String
  | .network _ => "NETWORK_ERROR"
  | .timeout _ => "TIMEOUT"
  | .server _ _ => "SERVER_ERROR"
  | .rateLimited _ => "RATE_LIMITED"
  | .nonceConflict _ => "NONCE_CONFLICT"
  | .underpriced _ => "REPLACEMENT_UNDERPRICED"
  | .reverted r => r.code
  | .readOnly => "READ_ONLY"
  | .unknownTransaction _ => "UNKNOWN_TRANSACTION"
  | .invalidResponse _ => "INVALID_RESPONSE"
  | .rpc _ _ => "RPC_ERROR"

/-- The snake-case name of the variant. -/
def variantName : LedgerError → String
  | .network _ => "network"
  | .timeout _ => "timeout"
  | .server _ _ => "server"
  | .rateLimited _ => "rate_limited"
  | .nonceConflict _ => "nonce_conflict"
  | .underpriced _ => "underpriced"
  | .reverted _ => "reverted"
  | .readOnly => "read_only"
  | .unknownTransaction _ => "unknown_transaction"
  | .invalidResponse _ => "invalid_response"
  | .rpc _ _ => "rpc"

/-- The human-readable message. -/
def message : LedgerError → String
  | .network m => "Network error: " ++ m
  | .timeout m => "Timeout: " ++ m
  | .server s m => "Server error (status " ++ toString s ++ "): " ++ m
  | .rateLimited m => "Rate limited: " ++ m
  | .nonceConflict m => "Nonce conflict: " ++ m
  | .underpriced m => "Replacement underpriced: " ++ m
  | .reverted r => "Call reverted: " ++ r.message
  | .readOnly => "Ledger client is read-only: no signing credential configured"
  | .unknownTransaction h => "Unknown transaction " ++ h.render
  | .invalidResponse m => "Invalid response: " ++ m
  | .rpc c m => "RPC error " ++ toString c ++ ": " ++ m

/-- ASCII letters in lower case; every other character stays as it is. -/
def asciiLower (s : String) : String :=
  String.ofList (s.toList.map fun c => if 'A' ≤ c && c ≤ 'Z' then Char.ofNat (c.toNat + 32) else c)

/-- Whether `needle` occurs in `hay`. -/
def occursIn (needle hay : String) : Bool :=
  let n := needle.toList
  let rec go : List Char → Bool
    | [] => n.isEmpty
    | c :: rest => (c :: rest).take n.length == n || go rest
  go hay.toList

/-- An RPC error sorted by its message: nonce, then underpriced, then rate limit, then
timeout; anything else stays an RPC error. The message is kept as it was. -/
def classifyRpc (code : Int) (msg : String) : LedgerError :=
  let lower := asciiLower msg
  if occursIn "nonce" lower then .nonceConflict msg
  else if occursIn "underpriced" lower then .underpriced msg
  else if occursIn "rate limit" lower || occursIn "too many requests" lower then .rateLimited msg
  else if occursIn "timeout" lower || occursIn "timed out" lower then .timeout msg
  else .rpc code msg

end LedgerError

end TicketMarket
