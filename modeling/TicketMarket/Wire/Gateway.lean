import TicketMarket.Wire.Rpc
import TicketMarket.Rpc.Isolated

/-! # Wire forms of gateway sessions

A step of a session with a gateway is an object named by its one meaningful member. The
client's own answers are `{"ok": ...}` or `{"failed": LedgerErrorInfo}`, the executor's
`{"ok": ...}` or `{"failed": ExecutionErrorInfo}`; receipts are shown in full. -/
set_option autoImplicit false
namespace TicketMarket
namespace Wire

/-- A step of a gateway session. -/
def gatewayStep? (j : Json) : Option GatewayStep := do
  let _ ← j.members?
  if j.has "chain_id" then pure .chainId
  else if j.has "submit" then .submit <$> req j "submit" submission?
  else if j.has "wait" then
    let (h, c) ← record (do
      let h ← field "tx_hash" txHash?
      let c ← field "confirmations" uint32?
      pure (h, c)) (← j.get? "wait")
    pure (.wait h c)
  else if j.has "find_receipt" then .findReceipt <$> req j "find_receipt" operationId?
  else if j.has "query" then .query <$> req j "query" query?
  else if j.has "execute" then .execute <$> req j "execute" submission?
  else if j.has "executor_query" then .executorQuery <$> req j "executor_query" query?
  else if j.has "executor_chain_id" then pure .executorChainId
  else none

/-- A confirmed call, with its full receipt. -/
def executedFull (x : Executed) : Json :=
  .obj [("attempts", Json.nat x.attempts), ("reconciled", .bool x.reconciled),
    ("receipt", fullReceipt x.receipt)]

/-- The answer of a gateway step. -/
def gatewayAnswer : GatewayAnswer → Json
  | .chain r => outcome ledgerErrorInfo Json.nat r
  | .submitted r => outcome ledgerErrorInfo (fun p =>
      .obj [("tx_hash", .str p.tx.render), ("operation_id", .str p.operationId.render)]) r
  | .waited r => outcome ledgerErrorInfo fullReceipt r
  | .found r => outcome ledgerErrorInfo (optional fullReceipt) r
  | .queried r => outcome ledgerErrorInfo queryResponse r
  | .executed r => outcome executionErrorInfo executedFull r
  | .executorQueried r => outcome executionErrorInfo queryResponse r
  | .executorChain r => outcome executionErrorInfo Json.nat r

/-- Whether a scripted reply is well formed: a result, an error, or a raw or JSON body,
with a status from 200 to 599 other than 204 and 304, and a delay of at most two
seconds. -/
def replySpecOk (j : Json) : Bool :=
  let shapeOk := j.has "result" || j.has "error" ||
    ((j.get? "body").bind Json.str?).isSome || j.has "json"
  let statusOk := match j.get? "status" with
    | none => true
    | some s => match uint16? s with
      | some n => 200 ≤ n && n ≤ 599 && n != 204 && n != 304
      | none => false
  let delayOk := match j.get? "delay_ms" with
    | none => true
    | some d => match uint64? d with
      | some n => n ≤ 2000
      | none => false
  (j.members?).isSome && shapeOk && statusOk && delayOk

end Wire
end TicketMarket
