import TicketMarket.Entity

/-! # Calls, their outputs and their logs

A `LedgerCall` is one state-changing request to one of the three contracts: the event
registry, the ticket contract or the marketplace. A call that is accepted answers with a
`CallOutput` and emits `LedgerLog`s, in the order its effects happened. -/
set_option autoImplicit false
namespace TicketMarket

/-- Where a minting right applies: every event, or one event. -/
inductive MinterScope where
  | global
  | event (id : EventId)
  deriving DecidableEq, Repr

/-- The three contracts a call can address. -/
inductive Contract where
  | eventRegistry
  | ticketNft
  | marketplace
  deriving DecidableEq, Repr

/-- The name a contract is deployed under. -/
def Contract.name : Contract → String
  | .eventRegistry => "EventRegistry"
  | .ticketNft => "TicketNFT"
  | .marketplace => "SimpleMarketplace"

/-- A state-changing request. -/
inductive LedgerCall where
  | createEvent (draft : EventDraft)
  | setMinter (scope : MinterScope) (minter : Address) (enabled : Bool)
  | mintTicket (event : EventId) (recipient : Address) (seat : SeatId) (metadata : Option String)
  | approve (ticket : TicketId) (operator : Option Address)
  | transferTicket (ticket : TicketId) (recipient : Address)
  | createListing (ticket : TicketId) (price : Wei)
  | purchaseListing (listing : ListingId) (payment : Wei)
  | cancelListing (listing : ListingId)
  | pauseEvent (event : EventId)
  | unpauseEvent (event : EventId)
  | setTransfersPaused (paused : Bool)
  | setMarketplacePaused (paused : Bool)
  | setPlatformFee (fee : Bps)
  | setPlatformAddress (address : Address)
  | markUsed (ticket : TicketId)
  | revokeTicket (ticket : TicketId)
  deriving DecidableEq, Repr

namespace LedgerCall

/-- The contract that handles the call. -/
def target : LedgerCall → Contract
  | .createEvent _ | .pauseEvent _ | .unpauseEvent _ => .eventRegistry
  | .setMinter _ _ _ | .mintTicket _ _ _ _ | .approve _ _ | .transferTicket _ _
  | .setTransfersPaused _ | .markUsed _ | .revokeTicket _ => .ticketNft
  | .createListing _ _ | .purchaseListing _ _ | .cancelListing _ | .setMarketplacePaused _
  | .setPlatformFee _ | .setPlatformAddress _ => .marketplace

/-- The method name of the call. -/
def name : LedgerCall → String
  | .createEvent _ => "create_event"
  | .setMinter _ _ _ => "set_minter"
  | .mintTicket _ _ _ _ => "mint_ticket"
  | .approve _ _ => "approve"
  | .transferTicket _ _ => "transfer_ticket"
  | .createListing _ _ => "create_listing"
  | .purchaseListing _ _ => "purchase_listing"
  | .cancelListing _ => "cancel_listing"
  | .pauseEvent _ => "pause_event"
  | .unpauseEvent _ => "unpause_event"
  | .setTransfersPaused _ => "set_transfers_paused"
  | .setMarketplacePaused _ => "set_marketplace_paused"
  | .setPlatformFee _ => "set_platform_fee"
  | .setPlatformAddress _ => "set_platform_address"
  | .markUsed _ => "mark_used"
  | .revokeTicket _ => "revoke_ticket"

end LedgerCall

/-- What an accepted call answers. -/
inductive CallOutput where
  | eventCreated (id : EventId)
  | ticketMinted (id : TicketId)
  | listingCreated (id : ListingId)
  | purchased (settlement : Settlement)
  | empty
  deriving DecidableEq, Repr

/-- Why a payment was made during a purchase. -/
inductive PaymentReason where
  | royalty
  | platformFee
  | sellerProceeds
  | refund
  deriving DecidableEq, Repr

/-- The snake-case name of a payment reason. -/
def PaymentReason.name : PaymentReason → String
  | .royalty => "royalty"
  | .platformFee => "platform_fee"
  | .sellerProceeds => "seller_proceeds"
  | .refund => "refund"

/-- A record of one effect of an accepted call. -/
inductive LedgerLog where
  | eventCreated (event : EventId) (organizer : Address) (draft : EventDraft)
  | eventPaused (event : EventId)
  | eventUnpaused (event : EventId)
  | minterUpdated (scope : MinterScope) (minter : Address) (enabled : Bool)
  | ticketMinted (ticket : TicketId) (event : EventId) (seat : SeatId) (owner : Address)
  | approval (ticket : TicketId) (owner : Address) (operator : Option Address)
  | ticketTransferred (ticket : TicketId) (event : EventId) (src dst : Address)
  | ticketUsed (ticket : TicketId) (event : EventId)
  | ticketRevoked (ticket : TicketId) (event : EventId)
  | listingCreated (listing : ListingId) (ticket : TicketId) (event : EventId)
      (seller : Address) (price : Wei)
  | listingSold (listing : ListingId) (ticket : TicketId) (event : EventId)
      (buyer seller : Address) (price : Wei)
  | listingCancelled (listing : ListingId) (ticket : TicketId) (event : EventId)
  | payment (recipient : Address) (amount : Wei) (reason : PaymentReason)
  | transfersPauseChanged (paused : Bool)
  | marketplacePauseChanged (paused : Bool)
  | platformFeeUpdated (fee : Bps)
  | platformAddressUpdated (address : Address)
  deriving DecidableEq, Repr

/-- A read-only question about the ledger. -/
inductive LedgerQuery where
  | event (id : EventId)
  | ticket (id : TicketId)
  | listing (id : ListingId)
  | isSeatMinted (event : EventId) (seat : SeatId)
  | isMinter (event : EventId) (account : Address)
  | activeListings
  | listingsBySeller (seller : Address)
  | ticketsByOwner (owner : Address)
  | balance (account : Address)
  | platform
  deriving DecidableEq, Repr

/-- The name a service gives the read that asks a query. -/
def LedgerQuery.readName : LedgerQuery → String
  | .event _ => "event"
  | .ticket _ => "ticket"
  | .listing _ => "listing"
  | .isSeatMinted _ _ => "is_seat_minted"
  | .isMinter _ _ => "is_minter"
  | .activeListings => "active_listings"
  | .listingsBySeller _ => "listings_by_seller"
  | .ticketsByOwner _ => "tickets_by_owner"
  | .balance _ => "balance"
  | .platform => "platform_status"

/-- The answer to a query. -/
inductive QueryResponse where
  | event (e : Option Event)
  | ticket (t : Option Ticket)
  | listing (l : Option Listing)
  | flag (b : Bool)
  | listingIds (ids : List ListingId)
  | listings (ls : List Listing)
  | tickets (ts : List Ticket)
  | balance (amount : Wei)
  | platform (status : PlatformStatus)
  deriving DecidableEq, Repr

end TicketMarket
