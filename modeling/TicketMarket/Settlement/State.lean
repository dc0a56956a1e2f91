import TicketMarket.Call
import TicketMarket.Data.Assoc

/-! # The settlement ledger's state

`SettlementState` holds what the three contracts store: events, tickets and listings in
the order they were created (each numbered from 1), the seats already minted, minting
rights, ticket approvals, the index from a ticket to its active listing, and balances.
Only an accepted call changes it (`SettlementState.run`); `SettlementState.query`
answers every read. -/
set_option autoImplicit false
namespace TicketMarket

/-- The parameters of a fresh ledger. -/
structure Genesis where
  owner : Address
  marketplace : Address
  platform : PlatformConfig
  deriving DecidableEq, Repr

/-- What the event registry, ticket and marketplace contracts store. -/
structure SettlementState where
  owner : Address
  marketplace : Address
  platform : PlatformConfig
  marketplacePaused : Bool
  transfersPaused : Bool
  events : List Event
  minters : List (MinterScope × Address)
  tickets : List Ticket
  seats : List (EventId × SeatId)
  approvals : List (TicketId × Address)
  listings : List Listing
  activeListingByTicket : List (TicketId × ListingId)
  balances : List (Address × Wei)
  nextEventId : Nat
  nextTicketId : Nat
  nextListingId : Nat
  deriving DecidableEq, Repr

namespace SettlementState

/-- A fresh deployment: nothing created, nothing paused, every counter at 1. -/
def genesis (g : Genesis) : SettlementState where
  owner := g.owner
  marketplace := g.marketplace
  platform := g.platform
  marketplacePaused := false
  transfersPaused := false
  events := []
  minters := []
  tickets := []
  seats := []
  approvals := []
  listings := []
  activeListingByTicket := []
  balances := []
  nextEventId := 1
  nextTicketId := 1
  nextListingId := 1

variable (s : SettlementState)

/-- The platform's fee, the marketplace operator and the pause switches. -/
def platformStatus : PlatformStatus :=
  ⟨s.platform, s.marketplace, s.marketplacePaused, s.transfersPaused⟩

/-- The event with an id. -/
def event? (id : EventId) : Option Event := s.events.find? (·.id == id)

/-- The ticket with an id. -/
def ticket? (id : TicketId) : Option Ticket := s.tickets.find? (·.id == id)

/-- The listing with an id. -/
def listing? (id : ListingId) : Option Listing := s.listings.find? (·.id == id)

/-- The operator approved to move a ticket. -/
def approval? (id : TicketId) : Option Address := Assoc.lookup id s.approvals

/-- The active listing of a ticket. -/
def activeListingFor? (id : TicketId) : Option ListingId := Assoc.lookup id s.activeListingByTicket

/-- Whether a seat of an event has ever been minted. -/
def isSeatMinted (event : EventId) (seat : SeatId) : Bool := s.seats.contains (event, seat)

/-- Whether an account holds a minting right for every event or for this one. Owner and
organizer rights are not grants and do not count. -/
def isMinter (event : EventId) (account : Address) : Bool :=
  s.minters.contains (.global, account) || s.minters.contains (.event event, account)

/-- The balance of an account; an unknown account holds nothing. -/
def balance (account : Address) : Wei := (Assoc.lookup account s.balances).getD Wei.zero

/-- Every balance added up, saturating. -/
def totalBalance : Wei := Wei.total (s.balances.map (·.2))

/-- Add to an account's balance, saturating; a zero amount changes nothing. -/
def credit (account : Address) (amount : Wei) : SettlementState :=
  if amount.isZero then s
  else { s with balances := Assoc.insert account ((s.balance account).satAdd amount) s.balances }

/-- Take from an account's balance, saturating at zero. -/
def debit (account : Address) (amount : Wei) : SettlementState :=
  { s with balances := Assoc.insert account ((s.balance account).satSub amount) s.balances }

/-- Give an account currency from outside any call, as a development chain's faucet does. -/
def fund (account : Address) (amount : Wei) : SettlementState := s.credit account amount

/-- The ids of every active listing, ascending. -/
def activeListingIds : List ListingId := (s.listings.filter (·.isActive)).map (·.id)

/-- The answer to a read query. -/
def query : LedgerQuery → QueryResponse
  | .event id => .event (s.event? id)
  | .ticket id => .ticket (s.ticket? id)
  | .listing id => .listing (s.listing? id)
  | .isSeatMinted e seat => .flag (s.isSeatMinted e seat)
  | .isMinter e a => .flag (s.isMinter e a)
  | .activeListings => .listingIds s.activeListingIds
  | .listingsBySeller seller => .listings (s.listings.filter (·.seller == seller))
  | .ticketsByOwner owner => .tickets (s.tickets.filter (·.owner == owner))
  | .balance a => .balance (s.balance a)
  | .platform => .platform s.platformStatus

end SettlementState

end TicketMarket
