import TicketMarket.Wire.Market
import TicketMarket.Ledger.Faults
import TicketMarket.Service.Marketplace

/-! # Wire forms of ledger traffic

Receipts, ledger and execution errors, retry settings and fault scripts as JSON. An
error report spells out the error's variant, code and message with what it is known by:
a ledger error whether it is worth retrying and whether it is contention for the
account's slot, an execution error the attempts made and the rejection or ledger error
behind it. Decoders that can fail in several ways say which member was wrong. -/
set_option autoImplicit false
namespace TicketMarket
namespace Wire

/-- A required member, or the name of the member that is missing or wrong. -/
def member {α : Type} (j : Json) (key : String) (f : Json → Option α) : Except String α :=
  match req j key f with
  | some a => .ok a
  | none => .error ("field " ++ key)

/-- A direct submission `{"operation_id", "from", "call"}`. -/
def submission? : Json → Option Submission := record do
  let op ← field "operation_id" operationId?
  let sender ← field "from" address?
  let c ← field "call" call?
  pure ⟨op, sender, c⟩

/-- An answer that succeeded or failed. -/
def outcome {ε α : Type} (err : ε → Json) (ok : α → Json) : Except ε α → Json
  | .ok a => .obj [("ok", ok a)]
  | .error e => .obj [("failed", err e)]

/-- A ledger error from its description `{"kind": K, ...}`. -/
def ledgerError? (j : Json) : Except String LedgerError := do
  let some kind := tag? j "kind" | throw "error kind"
  match kind with
  | "network" => .network <$> member j "message" Json.str?
  | "timeout" => .timeout <$> member j "message" Json.str?
  | "rate_limited" => .rateLimited <$> member j "message" Json.str?
  | "nonce_conflict" => .nonceConflict <$> member j "message" Json.str?
  | "underpriced" => .underpriced <$> member j "message" Json.str?
  | "invalid_response" => .invalidResponse <$> member j "message" Json.str?
  | "server" => do
    let status ← member j "status" uint16?
    .server status <$> member j "message" Json.str?
  | "rpc" => do
    let code ← member j "code" int64?
    .rpc code <$> member j "message" Json.str?
  | "reverted" => .reverted <$> member j "reason" rejection?
  | "read_only" => pure .readOnly
  | "unknown_transaction" => .unknownTransaction <$> member j "tx_hash" txHash?
  | _ => throw "error kind"

/-- A rejection with its code, class, message and wire form. -/
def rejectionInfo (r : Rejection) : Json :=
  .obj [("code", .str r.code), ("kind", .str r.kind.name), ("message", .str r.message),
    ("wire", rejection r)]

/-- A ledger error with its variant, code, message and retry classes. -/
def ledgerErrorInfo (e : LedgerError) : Json :=
  .obj [("variant", .str e.variantName), ("code", .str e.code), ("message", .str e.message),
    ("retryable", .bool e.isRetryable), ("price_contention", .bool e.isPriceContention)]

/-- An execution error with everything known about it. -/
def executionErrorInfo (e : ExecutionError) : Json :=
  .obj [("variant", .str e.variantName), ("code", .str e.code), ("kind", .str e.kind.name),
    ("attempts", optional Json.nat e.attempts?), ("read_only", .bool e.isReadOnly),
    ("message", .str e.message), ("rejection", optional rejectionInfo e.rejection?),
    ("source", optional ledgerErrorInfo e.source?)]

/-- A marketplace error with everything known about it. -/
def marketplaceErrorInfo (e : MarketplaceError) : Json :=
  let execution := match e with
    | .execution x => executionErrorInfo x
    | _ => .null
  .obj [("variant", .str e.variantName), ("code", .str e.code), ("kind", .str e.kind.name),
    ("attempts", optional Json.nat e.attempts?), ("message", .str e.message),
    ("rejection", optional rejectionInfo e.rejection?), ("execution", execution)]

/-- The status of a receipt. -/
def receiptStatus : ReceiptStatus → Json
  | .success => .obj [("kind", .str "success")]
  | .reverted r => .obj [("kind", .str "reverted"), ("reason", rejection r)]

/-- A receipt without its transaction hash and operation id, which are never shown. -/
def receipt (r : Receipt) : Json :=
  .obj [("block_number", Json.nat r.blockNumber), ("status", receiptStatus r.status),
    ("output", callOutput r.output), ("logs", .arr (r.logs.map log)),
    ("timestamp", instant r.timestamp)]

/-- A confirmed call. -/
def executed (x : Executed) : Json :=
  .obj [("attempts", Json.nat x.attempts), ("reconciled", .bool x.reconciled),
    ("receipt", receipt x.receipt)]

/-- Retry settings; every member may be left out. -/
def retrySettings? (j : Json) : Option RetrySettings := do
  let _ ← j.members?
  let maxAttempts ← opt j "max_attempts" uint32?
  let initial ← opt j "initial_backoff_ms" uint64?
  let maximum ← opt j "max_backoff_ms" uint64?
  let factor ← opt j "backoff_factor" Json.toFloat?
  pure ⟨maxAttempts, initial, maximum, factor⟩

/-- A list member that may be left out, each item decoded by `f`. -/
def errorList (j : Json) (key : String) : Except String (List LedgerError) :=
  match j.get? key with
  | none | some .null => .ok []
  | some v =>
    match v.items? with
    | some items => items.mapM ledgerError?
    | none => .error ("field " ++ key)

/-- One scripted submit failure `{"when": "before" | "after", "error": ...}`. -/
def submitFault? (j : Json) : Except String SubmitFault := do
  let after ← match j.get? "when" with
    | none | some .null => pure false
    | some (.str "before") => pure false
    | some (.str "after") => pure true
    | some _ => throw "fault when"
  let e ← match j.get? "error" with
    | some v => ledgerError? v
    | none => throw "field error"
  pure (if after then .after e else .before e)

/-- A fault script; every queue may be left out. -/
def faultScript? (j : Json) : Except String FaultScript := do
  let submit ← match j.get? "submit" with
    | none | some .null => pure []
    | some v =>
      match v.items? with
      | some items => items.mapM submitFault?
      | none => throw "field submit"
  let persistent ← match j.get? "persistent_submit" with
    | none | some .null => pure none
    | some v => some <$> ledgerError? v
  let confirm ← errorList j "confirm"
  let query ← errorList j "query"
  let chainId ← errorList j "chain_id"
  pure ⟨submit, persistent, confirm, query, chainId⟩

end Wire
end TicketMarket
