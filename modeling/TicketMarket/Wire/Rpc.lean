import TicketMarket.Wire.Ledger
import TicketMarket.Config.Manifest

/-! # Wire forms of ledger records read back

Decoders for what a ledger gateway answers over JSON-RPC: events, platform status, query
responses and full receipts with their transaction hash and operation id; and the
encoders for what the client sends: submissions and the contract a call is routed to. -/
set_option autoImplicit false
namespace TicketMarket
namespace Wire

/-- An event from its wire form. -/
def event? (j : Json) : Option Event := do
  let id ← req j "id" eventId?
  let organizer ← req j "organizer" address?
  let fp ← req j "fingerprint" fingerprint?
  let supply ← req j "max_supply" uint64?
  let royalty ← req j "royalty_bps" bps?
  let markup ← req j "max_resale_markup_bps" bps?
  let artist ← req j "artist" address?
  let issue ← req j "issue_price" wei?
  let minted ← req j "minted" uint64?
  let paused ← req j "paused" bool?
  let created ← req j "created_at" instant?
  pure ⟨id, organizer, fp, supply, royalty, markup, artist, issue, minted, paused, created⟩

/-- A platform status from its wire form. -/
def platformStatus? (j : Json) : Option PlatformStatus := do
  let p ← req j "platform" platformConfig?
  let m ← req j "marketplace" address?
  let mp ← req j "marketplace_paused" bool?
  let tp ← req j "transfers_paused" bool?
  pure ⟨p, m, mp, tp⟩

/-- A value that may be `null`. -/
def nullable? {α : Type} (f : Json → Option α) : Json → Option (Option α)
  | .null => some none
  | j => some <$> f j

/-- A query response from its wire form. -/
def queryResponse? (j : Json) : Option QueryResponse := do
  let v := (j.get? "value").getD .null
  match ← tag? j "kind" with
  | "event" => .event <$> nullable? event? v
  | "ticket" => .ticket <$> nullable? ticket? v
  | "listing" => .listing <$> nullable? listing? v
  | "flag" => .flag <$> bool? v
  | "listing_ids" => .listingIds <$> list? listingId? v
  | "listings" => .listings <$> list? listing? v
  | "tickets" => .tickets <$> list? ticket? v
  | "balance" => .balance <$> wei? v
  | "platform" => .platform <$> platformStatus? v
  | _ => none

/-- A receipt status from its wire form. -/
def receiptStatus? (j : Json) : Option ReceiptStatus :=
  match tag? j "kind" with
  | some "success" => some .success
  | some "reverted" => (req j "reason" rejection?).map .reverted
  | _ => none

/-- A full receipt, with its transaction hash and operation id. -/
def fullReceipt? (j : Json) : Option Receipt := do
  let h ← req j "tx_hash" txHash?
  let op ← req j "operation_id" operationId?
  let n ← req j "block_number" uint64?
  let status ← req j "status" receiptStatus?
  let output ← req j "output" callOutput?
  let logs ← req j "logs" (list? log?)
  let t ← req j "timestamp" instant?
  pure ⟨h, op, n, status, output, logs, t⟩

/-- A full receipt, with its transaction hash and operation id. -/
def fullReceipt (r : Receipt) : Json :=
  .obj [("tx_hash", .str r.tx.render), ("operation_id", .str r.operationId.render),
    ("block_number", Json.nat r.blockNumber), ("status", receiptStatus r.status),
    ("output", callOutput r.output), ("logs", .arr (r.logs.map log)),
    ("timestamp", instant r.timestamp)]

/-- A submission as sent to a gateway. -/
def submission (s : Submission) : Json :=
  .obj [("operation_id", .str s.operationId.render), ("from", address s.sender), ("call", call s.call)]

/-- The contract a call goes to, with its address when the addresses are known. -/
def route (c : Contract) (contracts : Option ContractAddresses) : Json :=
  .obj ([("contract", .str c.name)] ++
    match contracts with
    | some addrs => [("to", address (addrs.addressOf c))]
    | none => [])

end Wire
end TicketMarket
