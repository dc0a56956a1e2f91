import Mathlib
import TicketMarket.Proofs.WireFields

/-! # Domain values cross the wire unchanged

Calls, logs, queries, their answers, outputs, settlements, submissions and receipts
travel between the marketplace and a ledger gateway as JSON. Each reads back from its wire
form as the same value (`call?_call`, `log?_log`, `query?_query`,
`queryResponse?_queryResponse`, `callOutput?_callOutput`, `settlement?_settlement`,
`submission?_submission`, `fullReceipt?_fullReceipt`), provided its values are within what
the wire carries: ids and counts of 64 bits, accounts of twenty bytes, hashes and
fingerprints of thirty-two (the `Fits` predicates below, true of every value of the
original's types). Instants and operation ids are read by their own parsers; a value
reads back when the instants and operation ids it holds do (`Instant.ReadsBack`,
`OperationId.ReadsBack`).

A record is an object whose members are named by its fields and read back member by
member (`field_named`); a value of several kinds carries its kind as a tag that no other
member shadows (`callMembers_untagged`, `logParts_untagged`), so the tag names the fields
to read (`tagged_obj`). Optional members are `null` when absent and never `null` when
present (`orNull_optional`), and lists read back item by item (`list?_arr`). The main
statement is `wire_forms_round_trip`. -/
set_option autoImplicit false
namespace TicketMarket

/-! ## What the wire can carry -/

/-- An instant whose RFC 3339 text reads back as the same instant. -/
def Instant.ReadsBack (t : Instant) : Prop := Instant.parse t.render = some t

/-- An operation id whose text reads back as the same id. -/
def OperationId.ReadsBack (op : OperationId) : Prop := OperationId.parse? op.render = some op

/-- A draft whose fingerprint fits 32 bytes, supply 64 bits and artist 20 bytes. -/
def EventDraft.Fits (d : EventDraft) : Prop :=
  d.fingerprint.val < 256 ^ 32 ∧ d.maxSupply ≤ Wire.uint64Max ∧ d.artist.val < 256 ^ 20

/-- A scope whose event id fits 64 bits. -/
def MinterScope.Fits : MinterScope → Prop
  | .global => True
  | .event e => e.val ≤ Wire.uint64Max

/-- A call whose ids fit 64 bits and whose accounts fit 20 bytes. -/
def LedgerCall.Fits : LedgerCall → Prop
  | .createEvent d => d.Fits
  | .setMinter scope minter _ => scope.Fits ∧ minter.val < 256 ^ 20
  | .mintTicket e recipient _ _ => e.val ≤ Wire.uint64Max ∧ recipient.val < 256 ^ 20
  | .approve t operator => t.val ≤ Wire.uint64Max ∧ ∀ a ∈ operator, a.val < 256 ^ 20
  | .transferTicket t recipient => t.val ≤ Wire.uint64Max ∧ recipient.val < 256 ^ 20
  | .createListing t _ | .markUsed t | .revokeTicket t => t.val ≤ Wire.uint64Max
  | .purchaseListing l _ | .cancelListing l => l.val ≤ Wire.uint64Max
  | .pauseEvent e | .unpauseEvent e => e.val ≤ Wire.uint64Max
  | .setPlatformAddress a => a.val < 256 ^ 20
  | .setTransfersPaused _ | .setMarketplacePaused _ | .setPlatformFee _ => True

/-- A log whose ids fit 64 bits and whose accounts fit 20 bytes. -/
def LedgerLog.Fits : LedgerLog → Prop
  | .eventCreated e organizer d => e.val ≤ Wire.uint64Max ∧ organizer.val < 256 ^ 20 ∧ d.Fits
  | .eventPaused e | .eventUnpaused e => e.val ≤ Wire.uint64Max
  | .minterUpdated scope minter _ => scope.Fits ∧ minter.val < 256 ^ 20
  | .ticketMinted t e _ owner =>
    t.val ≤ Wire.uint64Max ∧ e.val ≤ Wire.uint64Max ∧ owner.val < 256 ^ 20
  | .approval t owner operator =>
    t.val ≤ Wire.uint64Max ∧ owner.val < 256 ^ 20 ∧ ∀ a ∈ operator, a.val < 256 ^ 20
  | .ticketTransferred t e src dst =>
    t.val ≤ Wire.uint64Max ∧ e.val ≤ Wire.uint64Max ∧ src.val < 256 ^ 20 ∧ dst.val < 256 ^ 20
  | .ticketUsed t e | .ticketRevoked t e => t.val ≤ Wire.uint64Max ∧ e.val ≤ Wire.uint64Max
  | .listingCreated l t e seller _ =>
    l.val ≤ Wire.uint64Max ∧ t.val ≤ Wire.uint64Max ∧ e.val ≤ Wire.uint64Max ∧
      seller.val < 256 ^ 20
  | .listingSold l t e buyer seller _ =>
    l.val ≤ Wire.uint64Max ∧ t.val ≤ Wire.uint64Max ∧ e.val ≤ Wire.uint64Max ∧
      buyer.val < 256 ^ 20 ∧ seller.val < 256 ^ 20
  | .listingCancelled l t e =>
    l.val ≤ Wire.uint64Max ∧ t.val ≤ Wire.uint64Max ∧ e.val ≤ Wire.uint64Max
  | .payment recipient _ _ | .platformAddressUpdated recipient => recipient.val < 256 ^ 20
  | .transfersPauseChanged _ | .marketplacePauseChanged _ | .platformFeeUpdated _ => True

/-- A query whose ids fit 64 bits and whose accounts fit 20 bytes. -/
def LedgerQuery.Fits : LedgerQuery → Prop
  | .event e | .isSeatMinted e _ => e.val ≤ Wire.uint64Max
  | .ticket t => t.val ≤ Wire.uint64Max
  | .listing l => l.val ≤ Wire.uint64Max
  | .isMinter e a => e.val ≤ Wire.uint64Max ∧ a.val < 256 ^ 20
  | .listingsBySeller a | .ticketsByOwner a | .balance a => a.val < 256 ^ 20
  | .activeListings | .platform => True

/-- An event whose numbers fit their wire types and whose creation time reads back. -/
def Event.Fits (e : Event) : Prop :=
  e.id.val ≤ Wire.uint64Max ∧ e.organizer.val < 256 ^ 20 ∧ e.fingerprint.val < 256 ^ 32 ∧
    e.maxSupply ≤ Wire.uint64Max ∧ e.artist.val < 256 ^ 20 ∧ e.minted ≤ Wire.uint64Max ∧
    e.createdAt.ReadsBack

/-- A ticket whose numbers fit their wire types and whose minting time reads back. -/
def Ticket.Fits (t : Ticket) : Prop :=
  t.id.val ≤ Wire.uint64Max ∧ t.eventId.val ≤ Wire.uint64Max ∧ t.owner.val < 256 ^ 20 ∧
    t.mintedAt.ReadsBack

/-- A listing whose numbers fit their wire types and whose creation time reads back. -/
def Listing.Fits (l : Listing) : Prop :=
  l.id.val ≤ Wire.uint64Max ∧ l.ticketId.val ≤ Wire.uint64Max ∧ l.eventId.val ≤ Wire.uint64Max ∧
    l.seller.val < 256 ^ 20 ∧ l.createdAt.ReadsBack

/-- A platform status whose accounts fit 20 bytes. -/
def PlatformStatus.Fits (p : PlatformStatus) : Prop :=
  p.platform.address.val < 256 ^ 20 ∧ p.marketplace.val < 256 ^ 20

/-- An answer whose records fit the wire. -/
def QueryResponse.Fits : QueryResponse → Prop
  | .event e => ∀ x ∈ e, x.Fits
  | .ticket t => ∀ x ∈ t, x.Fits
  | .listing l => ∀ x ∈ l, x.Fits
  | .listingIds ids => ∀ l ∈ ids, l.val ≤ Wire.uint64Max
  | .listings ls => ∀ l ∈ ls, l.Fits
  | .tickets ts => ∀ t ∈ ts, t.Fits
  | .platform p => p.Fits
  | .flag _ | .balance _ => True

/-- A settlement whose ids fit 64 bits and whose accounts fit 20 bytes. -/
def Settlement.Fits (s : Settlement) : Prop :=
  s.listingId.val ≤ Wire.uint64Max ∧ s.ticketId.val ≤ Wire.uint64Max ∧
    s.buyer.val < 256 ^ 20 ∧ s.seller.val < 256 ^ 20 ∧ s.artist.val < 256 ^ 20 ∧
    s.platform.val < 256 ^ 20

/-- An output whose id or settlement fits the wire. -/
def CallOutput.Fits : CallOutput → Prop
  | .eventCreated e => e.val ≤ Wire.uint64Max
  | .ticketMinted t => t.val ≤ Wire.uint64Max
  | .listingCreated l => l.val ≤ Wire.uint64Max
  | .purchased s => s.Fits
  | .empty => True

/-- A submission whose operation id reads back and whose sender and call fit the wire. -/
def Submission.Fits (s : Submission) : Prop :=
  s.operationId.ReadsBack ∧ s.sender.val < 256 ^ 20 ∧ s.call.Fits

/-- A status whose rejection, if any, fits the wire. -/
def ReceiptStatus.Fits : ReceiptStatus → Prop
  | .success => True
  | .reverted r => r.Fits

/-- A receipt whose hash fits 32 bytes, block number 64 bits, whose operation id and time
read back, and whose status, output and logs fit the wire. -/
def Receipt.Fits (r : Receipt) : Prop :=
  r.tx.val < 256 ^ 32 ∧ r.operationId.ReadsBack ∧ r.blockNumber ≤ Wire.uint64Max ∧
    r.status.Fits ∧ r.output.Fits ∧ (∀ l ∈ r.logs, l.Fits) ∧ r.timestamp.ReadsBack

namespace Wire

/-! ## Optional values and lists -/

theorem nullable_named {α : Type} (key : String) (f : Json → Option α) (j : Json) :
    (nullable key f).run (.named j) = (orNull f ((j.get? key).getD .null)).map (·, .named j) :=
  rfl

/-- An optional value written as `null` when absent reads back as itself when its value
does and is never written as `null`. -/
theorem orNull_optional {α : Type} {f : Json → Option α} {enc : α → Json} {o : Option α}
    (notNull : ∀ a ∈ o, enc a ≠ .null) (reads : ∀ a ∈ o, f (enc a) = some a) :
    orNull f (optional enc o) = some o := by
  cases o with
  | none => rfl
  | some a =>
      have written : enc a ≠ .null := notNull a rfl
      unfold optional orNull
      split
      · contradiction
      · rw [reads a rfl]
        rfl

theorem orNull_address {o : Option Address} (fits : ∀ a ∈ o, a.val < 256 ^ 20) :
    orNull address? (optional address o) = some o :=
  orNull_optional (fun _ _ wrong => Json.noConfusion wrong)
    fun a mem => address?_address (fits a mem)

theorem orNull_string (o : Option String) : orNull string? (optional Json.str o) = some o :=
  orNull_optional (fun _ _ wrong => Json.noConfusion wrong) fun _ _ => rfl

theorem nullable?_optional {α : Type} {f : Json → Option α} {enc : α → Json} {o : Option α}
    (notNull : ∀ a ∈ o, enc a ≠ .null) (reads : ∀ a ∈ o, f (enc a) = some a) :
    nullable? f (optional enc o) = some o := by
  cases o with
  | none => rfl
  | some a =>
      have written : enc a ≠ .null := notNull a rfl
      unfold optional nullable?
      split
      · contradiction
      · rw [reads a rfl]
        rfl

/-- A list reads back item by item. -/
theorem list?_arr {α : Type} {f : Json → Option α} {enc : α → Json} {xs : List α}
    (reads : ∀ x ∈ xs, f (enc x) = some x) : list? f (.arr (xs.map enc)) = some xs := by
  unfold list?
  induction xs with
  | nil => rfl
  | cons x rest ih =>
      have head := reads x List.mem_cons_self
      have tail := ih fun y mem => reads y (List.mem_cons_of_mem x mem)
      simp only [Json.items?, Option.bind_eq_bind, Option.bind_some] at tail ⊢
      simp [List.map_cons, List.mapM_cons, head, tail]

@[simp] theorem ticketStatus?_name (s : TicketStatus) : ticketStatus? (.str s.name) = some s := by
  cases s <;> rfl

@[simp] theorem listingStatus?_name (s : ListingStatus) :
    listingStatus? (.str s.name) = some s := by
  cases s <;> rfl

@[simp] theorem paymentReason?_name (r : PaymentReason) :
    paymentReason? (.str r.name) = some r := by
  cases r <;> rfl

/-! ## Entities -/

theorem ticket?_ticket {t : Ticket} (fits : t.Fits) : ticket? (ticket t) = some t := by
  obtain ⟨id, event, owner, minted⟩ := fits
  simp only [ticket?, ticket, record, StateT.run_bind, StateT.run_pure, field_named,
    nullable_named, Json.get?, List.reverse_cons, List.reverse_nil, List.nil_append,
    List.cons_append, List.find?_cons, String.reduceBEq, Option.map_some, Option.bind_eq_bind,
    Option.bind_some, Option.getD_some, orNull_string, ticketId?_nat id, eventId?_nat event,
    seat?_str, address?_address owner, instant?_instant minted, ticketStatus?_name,
    Option.pure_def]

theorem listing?_listing {l : Listing} (fits : l.Fits) : listing? (listing l) = some l := by
  obtain ⟨id, ticketId, eventId, seller, created⟩ := fits
  simp only [listing?, listing, record, StateT.run_bind, StateT.run_pure, field_named, Json.get?,
    List.reverse_cons, List.reverse_nil, List.nil_append, List.cons_append, List.find?_cons,
    String.reduceBEq, Option.map_some, Option.bind_eq_bind, Option.bind_some, listingId?_nat id,
    ticketId?_nat ticketId, eventId?_nat eventId, address?_address seller, wei?_wei,
    listingStatus?_name, instant?_instant created, Option.pure_def]

theorem event?_event {e : Event} (fits : e.Fits) : event? (event e) = some e := by
  obtain ⟨id, organizer, fingerprint, supply, artist, minted, created⟩ := fits
  simp only [event?, event, req, Json.get?, List.reverse_cons, List.reverse_nil, List.nil_append,
    List.cons_append, List.find?_cons, String.reduceBEq, Option.map_some, Option.bind_eq_bind,
    Option.bind_some, eventId?_nat id, address?_address organizer,
    fingerprint?_fingerprint fingerprint, uint64?_nat supply, bps?_bps, address?_address artist,
    wei?_wei, uint64?_nat minted, bool?_bool, instant?_instant created, Option.pure_def]

theorem platformConfig?_platformConfig {p : PlatformConfig} (fits : p.address.val < 256 ^ 20) :
    platformConfig? (platformConfig p) = some p := by
  simp only [platformConfig?, platformConfig, record, StateT.run_bind, StateT.run_pure,
    field_named, Json.get?, List.reverse_cons, List.reverse_nil, List.nil_append,
    List.cons_append, List.find?_cons, String.reduceBEq, Option.map_some, Option.bind_eq_bind,
    Option.bind_some, bps?_bps, address?_address fits, Option.pure_def]

theorem platformStatus?_platformStatus {p : PlatformStatus} (fits : p.Fits) :
    platformStatus? (platformStatus p) = some p := by
  obtain ⟨platform, marketplace⟩ := fits
  simp only [platformStatus?, platformStatus, req, Json.get?, List.reverse_cons, List.reverse_nil,
    List.nil_append, List.cons_append, List.find?_cons, String.reduceBEq, Option.map_some,
    Option.bind_eq_bind, Option.bind_some, platformConfig?_platformConfig platform,
    address?_address marketplace, bool?_bool, Option.pure_def]

theorem settlement?_settlement {s : Settlement} (fits : s.Fits) :
    settlement? (settlement s) = some s := by
  obtain ⟨listingId, ticketId, buyer, seller, artist, platform⟩ := fits
  simp only [settlement?, settlement, record, StateT.run_bind, StateT.run_pure, field_named,
    Json.get?, List.reverse_cons, List.reverse_nil, List.nil_append, List.cons_append,
    List.find?_cons, String.reduceBEq, Option.map_some, Option.bind_eq_bind, Option.bind_some,
    listingId?_nat listingId, ticketId?_nat ticketId, address?_address buyer,
    address?_address seller, wei?_wei, address?_address artist, address?_address platform,
    Option.pure_def]

/-! ## Calls -/

theorem minterScope?_minterScope {scope : MinterScope} (fits : scope.Fits) :
    minterScope? (minterScope scope) = some scope := by
  cases scope with
  | global => rfl
  | event e =>
      simp only [minterScope?, minterScope, Json.get?, List.reverse_cons, List.reverse_nil,
        List.nil_append, List.cons_append, List.find?_cons, String.reduceBEq, Option.map_some,
        Option.bind_eq_bind, Option.bind_some, scopeContent?, eventId?_nat fits]

/-- No member of a call is written under the key of its tag. -/
theorem callMembers_untagged (c : LedgerCall) : ∀ m ∈ callMembers c, m.1 ≠ "method" := by
  cases c <;> simp [callMembers, draftMembers]

/-- A call the wire can carry reads back from its wire form. -/
theorem call?_call {c : LedgerCall} (fits : c.Fits) : call? (call c) = some c := by
  unfold call? call
  cases c <;> rw [tagged_obj (callMembers_untagged _) rfl] <;>
    dsimp only [LedgerCall.Fits, EventDraft.Fits] at fits <;>
    -- an approval's operator is optional, and reads back under the bound it has
    (try have operatorReads := orNull_address fits.2) <;>
    simp only [callMembers, draftMembers, draftFields, StateT.run_map, StateT.run_bind,
      StateT.run_pure, field_named, nullable_named, Json.get?, List.reverse_cons,
      List.reverse_nil, List.nil_append, List.cons_append, List.find?_cons, String.reduceBEq,
      Option.map_some, Option.bind_eq_bind, Option.bind_some, Option.getD_some, Option.pure_def,
      bps?_bps, wei?_wei, seat?_str, bool?_bool, eventId?_nat, ticketId?_nat, listingId?_nat,
      uint64?_nat, address?_address, fingerprint?_fingerprint, minterScope?_minterScope,
      orNull_string, Option.map_eq_map, *]

/-! ## Logs -/

theorem log_eq (l : LedgerLog) : log l = .obj (("log", .str (logParts l).1) :: (logParts l).2) := rfl

/-- No member of a log is written under the key of its tag. -/
theorem logParts_untagged (l : LedgerLog) : ∀ m ∈ (logParts l).2, m.1 ≠ "log" := by
  cases l <;> simp [logParts, draftMembers]

/-- A log the wire can carry reads back from its wire form. -/
theorem log?_log {l : LedgerLog} (fits : l.Fits) : log? (log l) = some l := by
  unfold log?
  rw [log_eq]
  cases l <;> rw [tagged_obj (logParts_untagged _) rfl] <;>
    dsimp only [LedgerLog.Fits, EventDraft.Fits] at fits <;>
    -- an approval's operator is optional, and reads back under the bound it has
    (try have operatorReads := orNull_address fits.2.2) <;>
    simp only [logParts, draftMembers, draftFields, StateT.run_map, StateT.run_bind,
      StateT.run_pure, field_named, nullable_named, Json.get?, List.reverse_cons,
      List.reverse_nil, List.nil_append, List.cons_append, List.find?_cons, String.reduceBEq,
      Option.map_some, Option.bind_eq_bind, Option.bind_some, Option.getD_some, Option.pure_def,
      bps?_bps, wei?_wei, seat?_str, bool?_bool, eventId?_nat, ticketId?_nat, listingId?_nat,
      uint64?_nat, address?_address, fingerprint?_fingerprint, minterScope?_minterScope,
      paymentReason?_name, Option.map_eq_map, *]

/-! ## Queries and answers -/

/-- A query the wire can carry reads back from its wire form. -/
theorem query?_query {q : LedgerQuery} (fits : q.Fits) : query? (query q) = some q := by
  unfold query?
  cases q <;> dsimp only [LedgerQuery.Fits] at fits <;>
    simp only [query, tagged, tag?, queryFields, record, StateT.run_map, StateT.run_bind,
      StateT.run_pure, field_named, Json.get?, List.reverse_cons, List.reverse_nil,
      List.nil_append, List.cons_append, List.find?_cons, String.reduceBEq, Json.str?,
      Option.map_some, Option.bind_eq_bind, Option.bind_some, Option.pure_def, seat?_str,
      eventId?_nat, ticketId?_nat, listingId?_nat, address?_address, Option.map_eq_map, *]

/-- A call's output the wire can carry reads back from its wire form. -/
theorem callOutput?_callOutput {o : CallOutput} (fits : o.Fits) :
    callOutput? (callOutput o) = some o := by
  cases o <;> dsimp only [CallOutput.Fits] at fits <;>
    simp only [callOutput?, callOutput, tag?, req, Json.get?, List.reverse_cons,
      List.reverse_nil, List.nil_append, List.cons_append, List.find?_cons, String.reduceBEq,
      Json.str?, Option.map_some, Option.bind_eq_bind, Option.bind_some, eventId?_nat,
      ticketId?_nat, listingId?_nat, settlement?_settlement, *]

/-- An answer to a query the wire can carry reads back from its wire form. -/
theorem queryResponse?_queryResponse {r : QueryResponse} (fits : r.Fits) :
    queryResponse? (queryResponse r) = some r := by
  cases r <;> dsimp only [QueryResponse.Fits] at fits <;>
    simp only [queryResponse?, queryResponse, tag?, Json.get?, List.reverse_cons,
      List.reverse_nil, List.nil_append, List.cons_append, List.find?_cons, String.reduceBEq,
      Json.str?, Option.map_some, Option.getD_some, Option.bind_eq_bind, Option.bind_some,
      Option.map_eq_map, bool?_bool, wei?_wei, platformStatus?_platformStatus, *]
  -- the records an answer carries read back one by one
  case event e =>
    rw [nullable?_optional (fun _ _ wrong => Json.noConfusion wrong)
      fun x mem => event?_event (fits x mem)]
    rfl
  case ticket t =>
    rw [nullable?_optional (fun _ _ wrong => Json.noConfusion wrong)
      fun x mem => ticket?_ticket (fits x mem)]
    rfl
  case listing l =>
    rw [nullable?_optional (fun _ _ wrong => Json.noConfusion wrong)
      fun x mem => listing?_listing (fits x mem)]
    rfl
  case listingIds ids =>
    rw [list?_arr fun l mem => listingId?_nat (fits l mem)]
    rfl
  case listings ls =>
    rw [list?_arr fun l mem => listing?_listing (fits l mem)]
    rfl
  case tickets ts =>
    rw [list?_arr fun t mem => ticket?_ticket (fits t mem)]
    rfl

/-! ## Ledger traffic -/

theorem operationId?_render {op : OperationId} (readsBack : op.ReadsBack) :
    operationId? (.str op.render) = some op := readsBack

/-- A submission the wire can carry reads back from its wire form. -/
theorem submission?_submission {s : Submission} (fits : s.Fits) :
    submission? (submission s) = some s := by
  obtain ⟨operation, sender, call⟩ := fits
  simp only [submission?, submission, record, StateT.run_bind, StateT.run_pure, field_named,
    Json.get?, List.reverse_cons, List.reverse_nil, List.nil_append, List.cons_append,
    List.find?_cons, String.reduceBEq, Option.map_some, Option.bind_eq_bind, Option.bind_some,
    operationId?_render operation, address?_address sender, call?_call call, Option.pure_def]

theorem receiptStatus?_receiptStatus {status : ReceiptStatus} (fits : status.Fits) :
    receiptStatus? (receiptStatus status) = some status := by
  cases status with
  | success => rfl
  | reverted r => exact receiptStatus?_reverted r fits

/-- A receipt the wire can carry reads back from its wire form, with its hash and its
operation id. -/
theorem fullReceipt?_fullReceipt {r : Receipt} (fits : r.Fits) :
    fullReceipt? (fullReceipt r) = some r := by
  obtain ⟨tx, operation, block, status, output, logs, time⟩ := fits
  have logsRead : list? log? (.arr (r.logs.map log)) = some r.logs :=
    list?_arr fun l mem => log?_log (logs l mem)
  simp only [fullReceipt?, fullReceipt, req, Json.get?, List.reverse_cons, List.reverse_nil,
    List.nil_append, List.cons_append, List.find?_cons, String.reduceBEq, Option.map_some,
    Option.bind_eq_bind, Option.bind_some, txHash?_render tx, operationId?_render operation,
    uint64?_nat block, receiptStatus?_receiptStatus status, callOutput?_callOutput output,
    logsRead, instant?_instant time, Option.pure_def]

end Wire

/-- Domain values cross the wire unchanged: every call, minting scope, query, answer,
output, log, settlement, submission and receipt whose values the wire can carry reads back
from its wire form as the same value. Amounts are written in decimal digits that read back
as the amount, and accounts, fingerprints and transaction hashes as `0x` and two lower-case
hex digits a byte. -/
theorem wire_forms_round_trip :
    (∀ c : LedgerCall, c.Fits → Wire.call? (Wire.call c) = some c) ∧
    (∀ s : MinterScope, s.Fits → Wire.minterScope? (Wire.minterScope s) = some s) ∧
    (∀ q : LedgerQuery, q.Fits → Wire.query? (Wire.query q) = some q) ∧
    (∀ r : QueryResponse, r.Fits → Wire.queryResponse? (Wire.queryResponse r) = some r) ∧
    (∀ o : CallOutput, o.Fits → Wire.callOutput? (Wire.callOutput o) = some o) ∧
    (∀ l : LedgerLog, l.Fits → Wire.log? (Wire.log l) = some l) ∧
    (∀ s : Settlement, s.Fits → Wire.settlement? (Wire.settlement s) = some s) ∧
    (∀ s : Submission, s.Fits → Wire.submission? (Wire.submission s) = some s) ∧
    (∀ r : Receipt, r.Fits → Wire.fullReceipt? (Wire.fullReceipt r) = some r) ∧
    (∀ w : Wei, Wire.wei w = .str (toString w.val) ∧
      (∀ c ∈ (toString w.val).toList, c.isDigit = true) ∧
      Integer.readDecimal (weiLimit - 1) (toString w.val) = .ok w.val) ∧
    (∀ a : Address, ∃ hex : String, Wire.address a = .str ("0x" ++ hex) ∧ hex.length = 40 ∧
      ∀ c ∈ hex.toList, c.isDigit = true ∨ ('a' ≤ c ∧ c ≤ 'f')) ∧
    (∀ f : Fingerprint, ∃ hex : String, Wire.fingerprint f = .str ("0x" ++ hex) ∧
      hex.length = 64 ∧ ∀ c ∈ hex.toList, c.isDigit = true ∨ ('a' ≤ c ∧ c ≤ 'f')) ∧
    (∀ h : TxHash, ∃ hex : String, h.render = "0x" ++ hex ∧ hex.length = 64 ∧
      ∀ c ∈ hex.toList, c.isDigit = true ∨ ('a' ≤ c ∧ c ≤ 'f')) := by
  refine ⟨fun _ fits => Wire.call?_call fits, fun _ fits => Wire.minterScope?_minterScope fits,
    fun _ fits => Wire.query?_query fits, fun _ fits => Wire.queryResponse?_queryResponse fits,
    fun _ fits => Wire.callOutput?_callOutput fits, fun _ fits => Wire.log?_log fits,
    fun _ fits => Wire.settlement?_settlement fits, fun _ fits => Wire.submission?_submission fits,
    fun _ fits => Wire.fullReceipt?_fullReceipt fits, fun w => ⟨rfl, Wei.toString_decimal w⟩,
    fun a => ?_, fun f => ?_, fun h => HexValue.render_lower 32 h.val⟩
  · obtain ⟨hex, written, length, lower⟩ := HexValue.render_lower 20 a.val
    exact ⟨hex, congrArg Json.str written, length, lower⟩
  · obtain ⟨hex, written, length, lower⟩ := HexValue.render_lower 32 f.val
    exact ⟨hex, congrArg Json.str written, length, lower⟩

/-- A receipt of a refused call, with its operation id, log and time, reads back whole. -/
theorem refused_receipt_crosses_wire :
    let r : Receipt :=
      ⟨⟨1⟩, .uuid 1, 3, .reverted .notOwner, .empty, [.eventPaused ⟨1⟩], Instant.epoch⟩
    r.Fits ∧ Wire.fullReceipt? (Wire.fullReceipt r) = some r := by
  intro r
  have operation : r.operationId.ReadsBack := by
    show OperationId.parse? _ = _
    decide
  have time : r.timestamp.ReadsBack := by
    show Instant.parse _ = _
    decide
  have logs : ∀ l ∈ r.logs, l.Fits := by
    intro l mem
    simp only [r, List.mem_singleton] at mem
    subst mem
    show 1 ≤ Wire.uint64Max
    decide
  have fits : r.Fits := ⟨by decide, operation, by decide, trivial, trivial, logs, time⟩
  obtain ⟨-, -, -, -, -, -, -, -, receipts, -⟩ := wire_forms_round_trip
  exact ⟨fits, receipts r fits⟩

end TicketMarket
