import TicketMarket.Wire.Basic
import TicketMarket.Settlement.State
import TicketMarket.Rejection
import TicketMarket.Fact

/-! # Wire forms of the marketplace's records

Records are JSON objects with snake-case member names. A call is tagged by `method`, a
log by `log`, a query by `query` and a rejection by `code`, with the other members beside
the tag; an output or a query response is `{"kind": …, "value": …}` and a minting scope
`{"kind": …, "event_id": …}`. Decoders ignore members they do not know, and read a
missing optional member as `null`. They also take each record as the array of its fields
in declared order, a tagged record with its tag first, and a minting scope as
`[kind, event_id]`, where the kind may also be given by its place: 0 global, 1 event. -/
set_option autoImplicit false
namespace TicketMarket
namespace Wire

/-! ## Entities -/

/-- The members of an event draft. -/
def draftMembers (d : EventDraft) : List (String × Json) :=
  [("fingerprint", fingerprint d.fingerprint), ("max_supply", Json.nat d.maxSupply),
   ("royalty_bps", bps d.royalty), ("max_resale_markup_bps", bps d.markup),
   ("artist", address d.artist), ("issue_price", wei d.issuePrice)]

/-- The fields of an event draft. -/
def draftFields : Fields EventDraft := do
  let fp ← field "fingerprint" fingerprint?
  let supply ← field "max_supply" uint64?
  let royalty ← field "royalty_bps" bps?
  let markup ← field "max_resale_markup_bps" bps?
  let artist ← field "artist" address?
  let price ← field "issue_price" wei?
  pure ⟨fp, supply, royalty, markup, artist, price⟩

/-- An event draft. -/
def draft? : Json → Option EventDraft := record draftFields

/-- An event. -/
def event (e : Event) : Json :=
  .obj [("id", Json.nat e.id.val), ("organizer", address e.organizer),
    ("fingerprint", fingerprint e.fingerprint), ("max_supply", Json.nat e.maxSupply),
    ("royalty_bps", bps e.royalty), ("max_resale_markup_bps", bps e.markup),
    ("artist", address e.artist), ("issue_price", wei e.issuePrice),
    ("minted", Json.nat e.minted), ("paused", .bool e.paused),
    ("created_at", instant e.createdAt)]

/-- A ticket status from its name. -/
def ticketStatus? (j : Json) : Option TicketStatus :=
  match bareChoice? Json.isNull j with
  | some "owned" => some .owned
  | some "used" => some .used
  | some "revoked" => some .revoked
  | _ => none

/-- A ticket. -/
def ticket (t : Ticket) : Json :=
  .obj [("id", Json.nat t.id.val), ("event_id", Json.nat t.eventId.val),
    ("seat_id", .str t.seat.name), ("owner", address t.owner),
    ("metadata", optional Json.str t.metadata), ("status", .str t.status.name),
    ("minted_at", instant t.mintedAt)]

/-- A ticket from its wire form. -/
def ticket? : Json → Option Ticket := record do
  let id ← field "id" ticketId?
  let e ← field "event_id" eventId?
  let seat ← field "seat_id" seat?
  let owner ← field "owner" address?
  let metadata ← nullable "metadata" string?
  let status ← field "status" ticketStatus?
  let time ← field "minted_at" instant?
  pure ⟨id, e, seat, owner, metadata, status, time⟩

/-- A listing status from its name. -/
def listingStatus? (j : Json) : Option ListingStatus :=
  match bareChoice? Json.isNull j with
  | some "active" => some .active
  | some "sold" => some .sold
  | some "cancelled" => some .cancelled
  | _ => none

/-- A listing. -/
def listing (l : Listing) : Json :=
  .obj [("id", Json.nat l.id.val), ("ticket_id", Json.nat l.ticketId.val),
    ("event_id", Json.nat l.eventId.val), ("seller", address l.seller),
    ("price", wei l.price), ("status", .str l.status.name),
    ("created_at", instant l.createdAt)]

/-- A listing from its wire form. -/
def listing? : Json → Option Listing := record do
  let id ← field "id" listingId?
  let t ← field "ticket_id" ticketId?
  let e ← field "event_id" eventId?
  let seller ← field "seller" address?
  let price ← field "price" wei?
  let status ← field "status" listingStatus?
  let time ← field "created_at" instant?
  pure ⟨id, t, e, seller, price, status, time⟩

/-- A platform configuration. -/
def platformConfig (p : PlatformConfig) : Json :=
  .obj [("fee_bps", bps p.fee), ("address", address p.address)]

/-- A platform configuration from its wire form. -/
def platformConfig? : Json → Option PlatformConfig := record do
  let fee ← field "fee_bps" bps?
  let a ← field "address" address?
  pure ⟨fee, a⟩

/-- The platform status. -/
def platformStatus (p : PlatformStatus) : Json :=
  .obj [("platform", platformConfig p.platform), ("marketplace", address p.marketplace),
    ("marketplace_paused", .bool p.marketplacePaused),
    ("transfers_paused", .bool p.transfersPaused)]

/-- Deployment parameters. -/
def genesis (g : Genesis) : Json :=
  .obj [("owner", address g.owner), ("marketplace", address g.marketplace),
    ("platform", platformConfig g.platform)]

/-- Deployment parameters from their wire form. -/
def genesis? : Json → Option Genesis := record do
  let owner ← field "owner" address?
  let m ← field "marketplace" address?
  let p ← field "platform" platformConfig?
  pure ⟨owner, m, p⟩

/-- A settlement. -/
def settlement (s : Settlement) : Json :=
  .obj [("listing_id", Json.nat s.listingId.val), ("ticket_id", Json.nat s.ticketId.val),
    ("buyer", address s.buyer), ("seller", address s.seller), ("price", wei s.price),
    ("royalty", wei s.royalty), ("platform_cut", wei s.platformCut),
    ("seller_proceeds", wei s.sellerProceeds), ("refund", wei s.refund),
    ("artist", address s.artist), ("platform", address s.platform)]

/-- A settlement from its wire form. -/
def settlement? : Json → Option Settlement := record do
  let l ← field "listing_id" listingId?
  let t ← field "ticket_id" ticketId?
  let buyer ← field "buyer" address?
  let seller ← field "seller" address?
  let price ← field "price" wei?
  let royalty ← field "royalty" wei?
  let cut ← field "platform_cut" wei?
  let proceeds ← field "seller_proceeds" wei?
  let refund ← field "refund" wei?
  let artist ← field "artist" address?
  let platform ← field "platform" address?
  pure ⟨l, t, buyer, seller, price, royalty, cut, proceeds, refund, artist, platform⟩

/-! ## Calls -/

/-- A minting scope. -/
def minterScope : MinterScope → Json
  | .global => .obj [("kind", .str "global")]
  | .event id => .obj [("kind", .str "event"), ("event_id", Json.nat id.val)]

/-- The scope a tag names, by name or by its place among the scopes, as a reader of the
content that goes with it (`none` when there is none). The global scope takes no content
or `null`; an event scope takes the event's id. -/
def scopeContent? : Json → Option (Option Json → Option MinterScope)
  | .str "global" | .num (.unsigned 0) => some fun
    | none | some .null => some .global
    | some _ => none
  | .str "event" | .num (.unsigned 1) => some fun content => (content >>= eventId?).map .event
  | _ => none

/-- A minting scope from its wire form: an object with the tag `kind` and the content
`event_id`, or the array `[tag, content]`. -/
def minterScope? : Json → Option MinterScope
  | .obj members => do
    let j := Json.obj members
    let read ← scopeContent? (← j.get? "kind")
    read (j.get? "event_id")
  | .arr [tag, content] => do
    let read ← scopeContent? tag
    read (some content)
  | _ => none

/-- A call's members beside its `method` tag. -/
def callMembers : LedgerCall → List (String × Json)
  | .createEvent d => draftMembers d
  | .setMinter scope minter enabled =>
    [("scope", minterScope scope), ("minter", address minter), ("enabled", .bool enabled)]
  | .mintTicket e recipient seat metadata =>
    [("event_id", Json.nat e.val), ("to", address recipient), ("seat_id", .str seat.name),
     ("metadata", optional Json.str metadata)]
  | .approve t operator => [("ticket_id", Json.nat t.val), ("operator", optional address operator)]
  | .transferTicket t recipient => [("ticket_id", Json.nat t.val), ("to", address recipient)]
  | .createListing t price => [("ticket_id", Json.nat t.val), ("price", wei price)]
  | .purchaseListing l payment => [("listing_id", Json.nat l.val), ("payment", wei payment)]
  | .cancelListing l => [("listing_id", Json.nat l.val)]
  | .pauseEvent e | .unpauseEvent e => [("event_id", Json.nat e.val)]
  | .setTransfersPaused p | .setMarketplacePaused p => [("paused", .bool p)]
  | .setPlatformFee fee => [("fee_bps", bps fee)]
  | .setPlatformAddress a => [("address", address a)]
  | .markUsed t | .revokeTicket t => [("ticket_id", Json.nat t.val)]

/-- A call. -/
def call (c : LedgerCall) : Json := .obj (("method", .str c.name) :: callMembers c)

/-- The fields of a call of the kind a tag names. -/
def callFields : String → Option (Fields LedgerCall)
  | "create_event" => some (.createEvent <$> draftFields)
  | "set_minter" => some do
    let scope ← field "scope" minterScope?
    let minter ← field "minter" address?
    let enabled ← field "enabled" bool?
    pure (.setMinter scope minter enabled)
  | "mint_ticket" => some do
    let e ← field "event_id" eventId?
    let recipient ← field "to" address?
    let seat ← field "seat_id" seat?
    let metadata ← nullable "metadata" string?
    pure (.mintTicket e recipient seat metadata)
  | "approve" => some do
    let t ← field "ticket_id" ticketId?
    let operator ← nullable "operator" address?
    pure (.approve t operator)
  | "transfer_ticket" => some do
    let t ← field "ticket_id" ticketId?
    let recipient ← field "to" address?
    pure (.transferTicket t recipient)
  | "create_listing" => some do
    let t ← field "ticket_id" ticketId?
    let price ← field "price" wei?
    pure (.createListing t price)
  | "purchase_listing" => some do
    let l ← field "listing_id" listingId?
    let payment ← field "payment" wei?
    pure (.purchaseListing l payment)
  | "cancel_listing" => some (.cancelListing <$> field "listing_id" listingId?)
  | "pause_event" => some (.pauseEvent <$> field "event_id" eventId?)
  | "unpause_event" => some (.unpauseEvent <$> field "event_id" eventId?)
  | "set_transfers_paused" => some (.setTransfersPaused <$> field "paused" bool?)
  | "set_marketplace_paused" => some (.setMarketplacePaused <$> field "paused" bool?)
  | "set_platform_fee" => some (.setPlatformFee <$> field "fee_bps" bps?)
  | "set_platform_address" => some (.setPlatformAddress <$> field "address" address?)
  | "mark_used" => some (.markUsed <$> field "ticket_id" ticketId?)
  | "revoke_ticket" => some (.revokeTicket <$> field "ticket_id" ticketId?)
  | _ => none

/-- A call from its wire form, tagged by its member `method`. -/
def call? : Json → Option LedgerCall := tagged "method" callFields

/-- A call's output. -/
def callOutput : CallOutput → Json
  | .eventCreated id => .obj [("kind", .str "event_created"), ("value", Json.nat id.val)]
  | .ticketMinted id => .obj [("kind", .str "ticket_minted"), ("value", Json.nat id.val)]
  | .listingCreated id => .obj [("kind", .str "listing_created"), ("value", Json.nat id.val)]
  | .purchased s => .obj [("kind", .str "purchased"), ("value", settlement s)]
  | .empty => .obj [("kind", .str "empty")]

/-- A call's output from its wire form. -/
def callOutput? (j : Json) : Option CallOutput :=
  match tag? j "kind" with
  | some "event_created" => (req j "value" eventId?).map .eventCreated
  | some "ticket_minted" => (req j "value" ticketId?).map .ticketMinted
  | some "listing_created" => (req j "value" listingId?).map .listingCreated
  | some "purchased" => (req j "value" settlement?).map .purchased
  | some "empty" => some .empty
  | _ => none

/-! ## Logs -/

/-- A payment reason from its name. Inside a log, the object form of a name may pair it
with an empty object as well as with `null`. -/
def paymentReason? (j : Json) : Option PaymentReason :=
  match bareChoice? (fun v => v.isNull || v matches .obj []) j with
  | some "royalty" => some .royalty
  | some "platform_fee" => some .platformFee
  | some "seller_proceeds" => some .sellerProceeds
  | some "refund" => some .refund
  | _ => none

/-- A log's tag and its other members. -/
def logParts : LedgerLog → String × List (String × Json)
  | .eventCreated e organizer d =>
    ("event_created", ("event_id", Json.nat e.val) :: ("organizer", address organizer) ::
      draftMembers d)
  | .eventPaused e => ("event_paused", [("event_id", Json.nat e.val)])
  | .eventUnpaused e => ("event_unpaused", [("event_id", Json.nat e.val)])
  | .minterUpdated scope minter enabled =>
    ("minter_updated",
      [("scope", minterScope scope), ("minter", address minter), ("enabled", .bool enabled)])
  | .ticketMinted t e seat owner =>
    ("ticket_minted", [("ticket_id", Json.nat t.val), ("event_id", Json.nat e.val),
      ("seat_id", .str seat.name), ("owner", address owner)])
  | .approval t owner operator =>
    ("approval", [("ticket_id", Json.nat t.val), ("owner", address owner),
      ("operator", optional address operator)])
  | .ticketTransferred t e src dst =>
    ("ticket_transferred", [("ticket_id", Json.nat t.val), ("event_id", Json.nat e.val),
      ("from", address src), ("to", address dst)])
  | .ticketUsed t e => ("ticket_used", [("ticket_id", Json.nat t.val), ("event_id", Json.nat e.val)])
  | .ticketRevoked t e =>
    ("ticket_revoked", [("ticket_id", Json.nat t.val), ("event_id", Json.nat e.val)])
  | .listingCreated l t e seller price =>
    ("listing_created", [("listing_id", Json.nat l.val), ("ticket_id", Json.nat t.val),
      ("event_id", Json.nat e.val), ("seller", address seller), ("price", wei price)])
  | .listingSold l t e buyer seller price =>
    ("listing_sold", [("listing_id", Json.nat l.val), ("ticket_id", Json.nat t.val),
      ("event_id", Json.nat e.val), ("buyer", address buyer), ("seller", address seller),
      ("price", wei price)])
  | .listingCancelled l t e =>
    ("listing_cancelled", [("listing_id", Json.nat l.val), ("ticket_id", Json.nat t.val),
      ("event_id", Json.nat e.val)])
  | .payment recipient amount why =>
    ("payment", [("to", address recipient), ("amount", wei amount), ("reason", .str why.name)])
  | .transfersPauseChanged p => ("transfers_pause_changed", [("paused", .bool p)])
  | .marketplacePauseChanged p => ("marketplace_pause_changed", [("paused", .bool p)])
  | .platformFeeUpdated fee => ("platform_fee_updated", [("fee_bps", bps fee)])
  | .platformAddressUpdated a => ("platform_address_updated", [("address", address a)])

/-- A log. -/
def log (l : LedgerLog) : Json :=
  let (tag, members) := logParts l
  .obj (("log", .str tag) :: members)

/-- The fields of a log of the kind a tag names. -/
def logFields : String → Option (Fields LedgerLog)
  | "event_created" => some do
    let e ← field "event_id" eventId?
    let organizer ← field "organizer" address?
    let d ← draftFields
    pure (.eventCreated e organizer d)
  | "event_paused" => some (.eventPaused <$> field "event_id" eventId?)
  | "event_unpaused" => some (.eventUnpaused <$> field "event_id" eventId?)
  | "minter_updated" => some do
    let scope ← field "scope" minterScope?
    let minter ← field "minter" address?
    let enabled ← field "enabled" bool?
    pure (.minterUpdated scope minter enabled)
  | "ticket_minted" => some do
    let t ← field "ticket_id" ticketId?
    let e ← field "event_id" eventId?
    let seat ← field "seat_id" seat?
    let owner ← field "owner" address?
    pure (.ticketMinted t e seat owner)
  | "approval" => some do
    let t ← field "ticket_id" ticketId?
    let owner ← field "owner" address?
    let operator ← nullable "operator" address?
    pure (.approval t owner operator)
  | "ticket_transferred" => some do
    let t ← field "ticket_id" ticketId?
    let e ← field "event_id" eventId?
    let src ← field "from" address?
    let dst ← field "to" address?
    pure (.ticketTransferred t e src dst)
  | "ticket_used" => some do
    let t ← field "ticket_id" ticketId?
    let e ← field "event_id" eventId?
    pure (.ticketUsed t e)
  | "ticket_revoked" => some do
    let t ← field "ticket_id" ticketId?
    let e ← field "event_id" eventId?
    pure (.ticketRevoked t e)
  | "listing_created" => some do
    let l ← field "listing_id" listingId?
    let t ← field "ticket_id" ticketId?
    let e ← field "event_id" eventId?
    let seller ← field "seller" address?
    let price ← field "price" wei?
    pure (.listingCreated l t e seller price)
  | "listing_sold" => some do
    let l ← field "listing_id" listingId?
    let t ← field "ticket_id" ticketId?
    let e ← field "event_id" eventId?
    let buyer ← field "buyer" address?
    let seller ← field "seller" address?
    let price ← field "price" wei?
    pure (.listingSold l t e buyer seller price)
  | "listing_cancelled" => some do
    let l ← field "listing_id" listingId?
    let t ← field "ticket_id" ticketId?
    let e ← field "event_id" eventId?
    pure (.listingCancelled l t e)
  | "payment" => some do
    let recipient ← field "to" address?
    let amount ← field "amount" wei?
    let why ← field "reason" paymentReason?
    pure (.payment recipient amount why)
  | "transfers_pause_changed" => some (.transfersPauseChanged <$> field "paused" bool?)
  | "marketplace_pause_changed" => some (.marketplacePauseChanged <$> field "paused" bool?)
  | "platform_fee_updated" => some (.platformFeeUpdated <$> field "fee_bps" bps?)
  | "platform_address_updated" => some (.platformAddressUpdated <$> field "address" address?)
  | _ => none

/-- A log from its wire form, tagged by its member `log`. -/
def log? : Json → Option LedgerLog := tagged "log" logFields

/-! ## Queries -/

/-- A query. -/
def query : LedgerQuery → Json
  | .event e => .obj [("query", .str "event"), ("event_id", Json.nat e.val)]
  | .ticket t => .obj [("query", .str "ticket"), ("ticket_id", Json.nat t.val)]
  | .listing l => .obj [("query", .str "listing"), ("listing_id", Json.nat l.val)]
  | .isSeatMinted e seat =>
    .obj [("query", .str "is_seat_minted"), ("event_id", Json.nat e.val),
      ("seat_id", .str seat.name)]
  | .isMinter e a =>
    .obj [("query", .str "is_minter"), ("event_id", Json.nat e.val), ("account", address a)]
  | .activeListings => .obj [("query", .str "active_listings")]
  | .listingsBySeller a => .obj [("query", .str "listings_by_seller"), ("seller", address a)]
  | .ticketsByOwner a => .obj [("query", .str "tickets_by_owner"), ("owner", address a)]
  | .balance a => .obj [("query", .str "balance"), ("account", address a)]
  | .platform => .obj [("query", .str "platform")]

/-- The fields of a query of the kind a tag names. -/
def queryFields : String → Option (Fields LedgerQuery)
  | "event" => some (.event <$> field "event_id" eventId?)
  | "ticket" => some (.ticket <$> field "ticket_id" ticketId?)
  | "listing" => some (.listing <$> field "listing_id" listingId?)
  | "is_seat_minted" => some do
    let e ← field "event_id" eventId?
    let seat ← field "seat_id" seat?
    pure (.isSeatMinted e seat)
  | "is_minter" => some do
    let e ← field "event_id" eventId?
    let a ← field "account" address?
    pure (.isMinter e a)
  | "active_listings" => some (pure .activeListings)
  | "listings_by_seller" => some (.listingsBySeller <$> field "seller" address?)
  | "tickets_by_owner" => some (.ticketsByOwner <$> field "owner" address?)
  | "balance" => some (.balance <$> field "account" address?)
  | "platform" => some (pure .platform)
  | _ => none

/-- A query from its wire form, tagged by its member `query`. -/
def query? : Json → Option LedgerQuery := tagged "query" queryFields

/-- A query's answer. -/
def queryResponse : QueryResponse → Json
  | .event e => .obj [("kind", .str "event"), ("value", optional event e)]
  | .ticket t => .obj [("kind", .str "ticket"), ("value", optional ticket t)]
  | .listing l => .obj [("kind", .str "listing"), ("value", optional listing l)]
  | .flag b => .obj [("kind", .str "flag"), ("value", .bool b)]
  | .listingIds ids => .obj [("kind", .str "listing_ids"), ("value", .arr (ids.map (Json.nat ·.val)))]
  | .listings ls => .obj [("kind", .str "listings"), ("value", .arr (ls.map listing))]
  | .tickets ts => .obj [("kind", .str "tickets"), ("value", .arr (ts.map ticket))]
  | .balance w => .obj [("kind", .str "balance"), ("value", wei w)]
  | .platform p => .obj [("kind", .str "platform"), ("value", platformStatus p)]

/-! ## Rejections and facts -/

/-- A rejection's members beside its `code` tag. -/
def rejectionMembers : Rejection → List (String × Json)
  | .royaltyTooHigh r => [("royalty_bps", bps r)]
  | .markupTooHigh m => [("markup_bps", bps m)]
  | .feeTooHigh f => [("fee_bps", bps f)]
  | .priceExceedsCap p c => [("price", wei p), ("cap", wei c)]
  | .insufficientPayment p q => [("price", wei p), ("payment", wei q)]
  | .notEventAuthority e | .notAuthorizedMinter e | .eventDoesNotExist e | .eventIsPaused e
  | .maxSupplyReached e => [("event_id", Json.nat e.val)]
  | .notTokenOwner t | .notApprovedForTransfer t | .marketplaceNotApproved t
  | .ticketDoesNotExist t | .ticketNotActive t | .ticketListed t => [("ticket_id", Json.nat t.val)]
  | .notTheSeller l | .listingNotActive l => [("listing_id", Json.nat l.val)]
  | .seatAlreadyMinted e s => [("event_id", Json.nat e.val), ("seat_id", .str s.name)]
  | .insufficientFunds a b r => [("account", address a), ("balance", wei b), ("required", wei r)]
  | _ => []

/-- The tag a rejection is written under: its variant's name in screaming snake case, the
names `rejectionFields` reads. -/
def rejectionTag : Rejection → String
  | .invalidFingerprint => "INVALID_FINGERPRINT"
  | .invalidSupply => "INVALID_SUPPLY"
  | .royaltyTooHigh _ => "ROYALTY_TOO_HIGH"
  | .markupTooHigh _ => "MARKUP_TOO_HIGH"
  | .feeTooHigh _ => "FEE_TOO_HIGH"
  | .invalidAddress => "INVALID_ADDRESS"
  | .invalidSeat => "INVALID_SEAT"
  | .invalidPrice => "INVALID_PRICE"
  | .priceExceedsCap _ _ => "PRICE_EXCEEDS_CAP"
  | .insufficientPayment _ _ => "INSUFFICIENT_PAYMENT"
  | .cannotBuyOwnListing => "CANNOT_BUY_OWN_LISTING"
  | .notOwner => "NOT_OWNER"
  | .notEventAuthority _ => "NOT_EVENT_AUTHORITY"
  | .notAuthorizedMinter _ => "NOT_AUTHORIZED_MINTER"
  | .notTokenOwner _ => "NOT_TOKEN_OWNER"
  | .notApprovedForTransfer _ => "NOT_APPROVED_FOR_TRANSFER"
  | .marketplaceNotApproved _ => "MARKETPLACE_NOT_APPROVED"
  | .notTheSeller _ => "NOT_THE_SELLER"
  | .eventDoesNotExist _ => "EVENT_DOES_NOT_EXIST"
  | .eventIsPaused _ => "EVENT_IS_PAUSED"
  | .seatAlreadyMinted _ _ => "SEAT_ALREADY_MINTED"
  | .maxSupplyReached _ => "MAX_SUPPLY_REACHED"
  | .ticketDoesNotExist _ => "TICKET_DOES_NOT_EXIST"
  | .ticketNotActive _ => "TICKET_NOT_ACTIVE"
  | .ticketListed _ => "TICKET_LISTED"
  | .listingNotActive _ => "LISTING_NOT_ACTIVE"
  | .marketplacePaused => "MARKETPLACE_PAUSED"
  | .transfersPaused => "TRANSFERS_PAUSED"
  | .insufficientFunds _ _ _ => "INSUFFICIENT_FUNDS"

/-- A rejection's wire form. -/
def rejection (r : Rejection) : Json := .obj (("code", .str (rejectionTag r)) :: rejectionMembers r)

/-- The fields of a rejection of the kind a tag names. -/
def rejectionFields : String → Option (Fields Rejection)
  | "INVALID_FINGERPRINT" => some (pure .invalidFingerprint)
  | "INVALID_SUPPLY" => some (pure .invalidSupply)
  | "ROYALTY_TOO_HIGH" => some (.royaltyTooHigh <$> field "royalty_bps" bps?)
  | "MARKUP_TOO_HIGH" => some (.markupTooHigh <$> field "markup_bps" bps?)
  | "FEE_TOO_HIGH" => some (.feeTooHigh <$> field "fee_bps" bps?)
  | "INVALID_ADDRESS" => some (pure .invalidAddress)
  | "INVALID_SEAT" => some (pure .invalidSeat)
  | "INVALID_PRICE" => some (pure .invalidPrice)
  | "PRICE_EXCEEDS_CAP" => some do
    let p ← field "price" wei?
    let c ← field "cap" wei?
    pure (.priceExceedsCap p c)
  | "INSUFFICIENT_PAYMENT" => some do
    let p ← field "price" wei?
    let q ← field "payment" wei?
    pure (.insufficientPayment p q)
  | "CANNOT_BUY_OWN_LISTING" => some (pure .cannotBuyOwnListing)
  | "NOT_OWNER" => some (pure .notOwner)
  | "NOT_EVENT_AUTHORITY" => some (.notEventAuthority <$> field "event_id" eventId?)
  | "NOT_AUTHORIZED_MINTER" => some (.notAuthorizedMinter <$> field "event_id" eventId?)
  | "NOT_TOKEN_OWNER" => some (.notTokenOwner <$> field "ticket_id" ticketId?)
  | "NOT_APPROVED_FOR_TRANSFER" => some (.notApprovedForTransfer <$> field "ticket_id" ticketId?)
  | "MARKETPLACE_NOT_APPROVED" => some (.marketplaceNotApproved <$> field "ticket_id" ticketId?)
  | "NOT_THE_SELLER" => some (.notTheSeller <$> field "listing_id" listingId?)
  | "EVENT_DOES_NOT_EXIST" => some (.eventDoesNotExist <$> field "event_id" eventId?)
  | "EVENT_IS_PAUSED" => some (.eventIsPaused <$> field "event_id" eventId?)
  | "SEAT_ALREADY_MINTED" => some do
    let e ← field "event_id" eventId?
    let s ← field "seat_id" seat?
    pure (.seatAlreadyMinted e s)
  | "MAX_SUPPLY_REACHED" => some (.maxSupplyReached <$> field "event_id" eventId?)
  | "TICKET_DOES_NOT_EXIST" => some (.ticketDoesNotExist <$> field "ticket_id" ticketId?)
  | "TICKET_NOT_ACTIVE" => some (.ticketNotActive <$> field "ticket_id" ticketId?)
  | "TICKET_LISTED" => some (.ticketListed <$> field "ticket_id" ticketId?)
  | "LISTING_NOT_ACTIVE" => some (.listingNotActive <$> field "listing_id" listingId?)
  | "MARKETPLACE_PAUSED" => some (pure .marketplacePaused)
  | "TRANSFERS_PAUSED" => some (pure .transfersPaused)
  | "INSUFFICIENT_FUNDS" => some do
    let a ← field "account" address?
    let b ← field "balance" wei?
    let r ← field "required" wei?
    pure (.insufficientFunds a b r)
  | _ => none

/-- A rejection from its wire form, tagged by its member `code`. -/
def rejection? : Json → Option Rejection := tagged "code" rejectionFields

/-- A transition fact. -/
def fact (f : TransitionFact) : Json :=
  .obj [("entity_type", .str f.entityType.name), ("entity_id", Json.nat f.entityId),
    ("event_id", optional (fun e => Json.nat e.val) f.eventId),
    ("new_state", .str f.newState.name), ("timestamp", instant f.timestamp)]

/-! ## Dumps of the ledger state -/

mutual
/-- The accounts a document writes out, each as a string that starts with `0x` and
reads as an account, in the order they appear. -/
def accountsIn : Json → List Address
  | .str s => if s.startsWith "0x" then (Address.parse s).toOption.toList else []
  | .arr items => accountsInItems items
  | .obj members => accountsInMembers members
  | _ => []

/-- The accounts written in a list of documents. -/
def accountsInItems : List Json → List Address
  | [] => []
  | j :: rest => accountsIn j ++ accountsInItems rest

/-- The accounts written in the values of an object's members. -/
def accountsInMembers : List (String × Json) → List Address
  | [] => []
  | (_, j) :: rest => accountsIn j ++ accountsInMembers rest
end

/-- The accounts whose balances a dump reports: those of the deployment, then those the
request writes out. -/
def dumpAccounts (g : Genesis) (request : Json) : List Address :=
  [g.owner, g.marketplace, g.platform.address] ++ accountsIn request

/-- The whole ledger state: owner, platform status, total balance, every event, ticket
(with its approval and active listing) and listing, and the non-zero balances among
`accounts`. -/
def stateDump (s : SettlementState) (accounts : List Address) : Json :=
  .obj [("owner", address s.owner), ("platform", platformStatus s.platformStatus),
    ("total_balance", wei s.totalBalance), ("events", .arr (s.events.map event)),
    ("tickets", .arr (s.tickets.map fun t => .obj [("ticket", ticket t),
      ("approval", optional address (s.approval? t.id)),
      ("active_listing", optional (fun l => Json.nat l.val) (s.activeListingFor? t.id))])),
    ("listings", .arr (s.listings.map listing)),
    ("balances", .obj ((accounts.eraseDups.filter fun a => !(s.balance a).isZero).map
      fun a => (a.render, wei (s.balance a))))]

end Wire
end TicketMarket
