import TicketMarket.Value.Address
import TicketMarket.Value.Amount
import TicketMarket.Value.Ident
import TicketMarket.Time.Instant

/-! # Events, tickets and listings

The records the ledger keeps. An event caps its supply, takes a royalty on every resale
and caps resale prices at its issue price plus a markup (`Event.resaleCap`). A ticket
stays `owned` until it is used or revoked; only an owned ticket is active. A listing
offers one ticket for resale and is `active` until it is sold or cancelled. -/
set_option autoImplicit false
namespace TicketMarket

/-- The largest royalty an event may take, 1000 basis points. -/
def maxRoyalty : Nat := 1000

/-- The largest resale markup an event may allow, 10000 basis points. -/
def maxMarkup : Nat := 10000

/-- The largest platform fee that may be set, 500 basis points. -/
def maxPlatformFee : Nat := 500

/-- What an organizer asks for when creating an event. -/
structure EventDraft where
  fingerprint : Fingerprint
  maxSupply : Nat
  royalty : Bps
  markup : Bps
  artist : Address
  issuePrice : Wei
  deriving DecidableEq, Repr

/-- An event on the registry. -/
structure Event where
  id : EventId
  organizer : Address
  fingerprint : Fingerprint
  maxSupply : Nat
  royalty : Bps
  markup : Bps
  artist : Address
  issuePrice : Wei
  minted : Nat
  paused : Bool
  createdAt : Instant
  deriving DecidableEq, Repr

namespace Event

/-- The highest resale price: the issue price plus the markup's share of it, saturating. -/
def resaleCap (e : Event) : Wei := e.issuePrice.satAdd (e.markup.shareOf e.issuePrice)

/-- Whether every ticket of the supply has been minted. -/
def isSoldOut (e : Event) : Bool := decide (e.minted ≥ e.maxSupply)

end Event

/-- Where a ticket is in its life. -/
inductive TicketStatus where
  | owned
  | used
  | revoked
  deriving DecidableEq, Repr

/-- A ticket for one seat of an event. -/
structure Ticket where
  id : TicketId
  eventId : EventId
  seat : SeatId
  owner : Address
  metadata : Option String
  status : TicketStatus
  mintedAt : Instant
  deriving DecidableEq, Repr

/-- The snake-case name of a ticket status. -/
def TicketStatus.name : TicketStatus → String
  | .owned => "owned"
  | .used => "used"
  | .revoked => "revoked"

/-- Whether the ticket can still be moved, listed or used: it is owned. -/
def Ticket.isActive (t : Ticket) : Bool := t.status == .owned

/-- Where a listing is in its life. -/
inductive ListingStatus where
  | active
  | sold
  | cancelled
  deriving DecidableEq, Repr

/-- An offer to resell one ticket at a price. -/
structure Listing where
  id : ListingId
  ticketId : TicketId
  eventId : EventId
  seller : Address
  price : Wei
  status : ListingStatus
  createdAt : Instant
  deriving DecidableEq, Repr

/-- The snake-case name of a listing status. -/
def ListingStatus.name : ListingStatus → String
  | .active => "active"
  | .sold => "sold"
  | .cancelled => "cancelled"

/-- Whether the listing can still be bought or cancelled. -/
def Listing.isActive (l : Listing) : Bool := l.status == .active

/-- The platform's fee and the account it is paid to. -/
structure PlatformConfig where
  fee : Bps
  address : Address
  deriving DecidableEq, Repr

/-- The platform's fee, the marketplace operator and the two pause switches. -/
structure PlatformStatus where
  platform : PlatformConfig
  marketplace : Address
  marketplacePaused : Bool
  transfersPaused : Bool
  deriving DecidableEq, Repr

/-- How one resale was paid out. -/
structure Settlement where
  listingId : ListingId
  ticketId : TicketId
  buyer : Address
  seller : Address
  price : Wei
  royalty : Wei
  platformCut : Wei
  sellerProceeds : Wei
  refund : Wei
  artist : Address
  platform : Address
  deriving DecidableEq, Repr

/-- What the price was split into: royalty, platform cut and proceeds, saturating. -/
def Settlement.disbursed (s : Settlement) : Wei :=
  (s.royalty.satAdd s.platformCut).satAdd s.sellerProceeds

end TicketMarket
