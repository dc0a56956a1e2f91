import TicketMarket.Wire.Ledger
import TicketMarket.Testbed

/-! # Wire forms of closed runs

A step of a closed run is an object named by its one meaningful member, read in a fixed
order of preference: the direct ledger steps first, then the executor's, the world's and
the service's. Its answer is `{"ok": ...}` or `{"failed": ...}` beside the virtual
time it took, the ledger's call counters and the number of mined blocks; a step that
cannot be read answers `{"error": "invalid_step"}` alone. -/
set_option autoImplicit false
namespace TicketMarket
namespace Wire

/-- A step of a closed run. -/
def benchStep? (j : Json) : Option BenchStep := do
  let _ ← j.members?
  if j.has "ledger_submit" then .ledgerSubmit <$> req j "ledger_submit" submission?
  else if j.has "ledger_wait" then
    match j.get? "ledger_wait" with
    | some (.str "last") => pure (.ledgerWait .last)
    | some v => (.ledgerWait ∘ .hash) <$> txHash? v
    | none => none
  else if j.has "ledger_find_receipt" then
    .ledgerFindReceipt <$> req j "ledger_find_receipt" operationId?
  else if j.has "execute" then
    let c ← req j "execute" call?
    let caller ← req j "caller" address?
    pure (.execute caller c)
  else if j.has "query" then .query <$> req j "query" query?
  else if j.has "chain_id" then pure .chainId
  else if j.has "fund" then
    let f ← j.get? "fund"
    let a ← req f "account" address?
    let w ← req f "amount" wei?
    pure (.fund a w)
  else if j.has "lose_next_response" then
    let e ← j.get? "lose_next_response"
    .loseNextResponse <$> (ledgerError? e).toOption
  else if j.has "mirror_unavailable" then .replicaUnavailable <$> req j "mirror_unavailable" bool?
  else if j.has "service" then
    let c ← req j "service" call?
    let caller ← req j "caller" address?
    pure (.service caller c)
  else if j.has "service_read" then .serviceRead <$> req j "service_read" query?
  else if j.has "service_chain_id" then pure .serviceChainId
  else none

/-- What a service write hands back: the new id, the settlement, or nothing. -/
def serviceOutput : CallOutput → Json
  | .eventCreated id => Json.nat id.val
  | .ticketMinted id => Json.nat id.val
  | .listingCreated id => Json.nat id.val
  | .purchased s => settlement s
  | .empty => .null

/-- What a service read hands back: the response's value alone. -/
def serviceRead : QueryResponse → Json
  | .event e => optional event e
  | .ticket t => optional ticket t
  | .listing l => optional listing l
  | .flag b => .bool b
  | .listingIds ids => .arr (ids.map fun i => Json.nat i.val)
  | .listings ls => .arr (ls.map listing)
  | .tickets ts => .arr (ts.map ticket)
  | .balance w => wei w
  | .platform p => platformStatus p

/-- The answer of a step, without the counters. -/
def benchAnswer : BenchAnswer → Json
  | .executed r => outcome executionErrorInfo executed r
  | .queried r => outcome executionErrorInfo queryResponse r
  | .chain r => outcome executionErrorInfo Json.nat r
  | .done => .obj [("ok", .null)]
  | .served r => outcome marketplaceErrorInfo serviceOutput r
  | .read r => outcome marketplaceErrorInfo serviceRead r
  | .servedChain r => outcome marketplaceErrorInfo Json.nat r
  | .submitted r => outcome ledgerErrorInfo (fun p => .obj [("operation_id", .str p.operationId.render)]) r
  | .waited r => outcome ledgerErrorInfo receipt r
  | .found r => outcome ledgerErrorInfo (optional receipt) r
  | .invalid => .obj [("error", .str "invalid_step")]

/-- The ledger's call counters. -/
def callCounts (c : CallCounts) : Json :=
  .obj [("submit", Json.nat c.submit), ("confirm", Json.nat c.confirm),
    ("find_receipt", Json.nat c.findReceipt), ("query", Json.nat c.query),
    ("chain_id", Json.nat c.chainId)]

/-- A step's report: its answer beside the time it took and the counters after it. -/
def stepReport : Option StepReport → Json
  | none => .obj [("error", .str "invalid_step")]
  | some r =>
    match r.answer, benchAnswer r.answer with
    | .invalid, j => j
    | _, .obj members =>
      .obj (members ++ [("elapsed_ms", Json.nat r.elapsedMs), ("calls", callCounts r.calls),
        ("block_number", Json.nat r.blockNumber)])
    | _, j => j

end Wire
end TicketMarket
