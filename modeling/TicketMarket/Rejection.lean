import TicketMarket.Value.Address
import TicketMarket.Value.Amount
import TicketMarket.Value.Ident

/-! # Rejections

Why the settlement rules refuse a call. Each rejection has a stable code, a kind (a fault
of the call itself, of the caller's rights, or of the ledger's state) and a message. A
rejection is a deterministic outcome of a call against a state, so it is never retried. -/
set_option autoImplicit false
namespace TicketMarket

/-- What kind of fault an error reports. -/
inductive ErrorKind where
  | validation
  | authorization
  | stateConflict
  | infrastructure
  deriving DecidableEq, Repr

/-- The snake-case name of a kind. -/
def ErrorKind.name : ErrorKind → String
  | .validation => "validation"
  | .authorization => "authorization"
  | .stateConflict => "state_conflict"
  | .infrastructure => "infrastructure"

/-- Why the settlement rules refuse a call. -/
inductive Rejection where
  | invalidFingerprint
  | invalidSupply
  | royaltyTooHigh (royalty : Bps)
  | markupTooHigh (markup : Bps)
  | feeTooHigh (fee : Bps)
  | invalidAddress
  | invalidSeat
  | invalidPrice
  | priceExceedsCap (price cap : Wei)
  | insufficientPayment (price payment : Wei)
  | cannotBuyOwnListing
  | notOwner
  | notEventAuthority (event : EventId)
  | notAuthorizedMinter (event : EventId)
  | notTokenOwner (ticket : TicketId)
  | notApprovedForTransfer (ticket : TicketId)
  | marketplaceNotApproved (ticket : TicketId)
  | notTheSeller (listing : ListingId)
  | eventDoesNotExist (event : EventId)
  | eventIsPaused (event : EventId)
  | seatAlreadyMinted (event : EventId) (seat : SeatId)
  | maxSupplyReached (event : EventId)
  | ticketDoesNotExist (ticket : TicketId)
  | ticketNotActive (ticket : TicketId)
  | ticketListed (ticket : TicketId)
  | listingNotActive (listing : ListingId)
  | marketplacePaused
  | transfersPaused
  | insufficientFunds (account : Address) (balance required : Wei)
  deriving DecidableEq, Repr

namespace Rejection

/-- The stable machine code. -/
def code : Rejection → String
  | .invalidFingerprint => "INVALID_FINGERPRINT"
  | .invalidSupply => "INVALID_SUPPLY"
  | .royaltyTooHigh _ => "ROYALTY_TOO_HIGH"
  | .markupTooHigh _ => "MARKUP_TOO_HIGH"
  | .feeTooHigh _ => "FEE_TOO_HIGH"
  | .invalidAddress => "INVALID_ADDRESS"
  | .invalidSeat => "INVALID_SEAT"
  | .invalidPrice => "INVALID_PRICE"
  | .priceExceedsCap _ _ => "PRICE_EXCEEDS_CAP"
  | .insufficientPayment _ _ => "INSUFFICIENT_PAYMENT"
  | .cannotBuyOwnListing => "CANNOT_BUY_OWN_LISTING"
  | .notOwner => "NOT_OWNER"
  | .notEventAuthority _ => "NOT_EVENT_AUTHORITY"
  | .notAuthorizedMinter _ => "NOT_AUTHORIZED_MINTER"
  | .notTokenOwner _ => "NOT_TOKEN_OWNER"
  | .notApprovedForTransfer _ => "NOT_APPROVED_FOR_TRANSFER"
  | .marketplaceNotApproved _ => "MARKETPLACE_NOT_APPROVED"
  | .notTheSeller _ => "NOT_THE_SELLER"
  | .eventDoesNotExist _ => "EVENT_DOES_NOT_EXIST"
  | .eventIsPaused _ => "EVENT_IS_PAUSED"
  | .seatAlreadyMinted _ _ => "SEAT_ALREADY_MINTED"
  | .maxSupplyReached _ => "MAX_SUPPLY_REACHED"
  | .ticketDoesNotExist _ => "TICKET_DOES_NOT_EXIST"
  | .ticketNotActive _ => "TICKET_NOT_ACTIVE"
  | .ticketListed _ => "TICKET_LISTED"
  | .listingNotActive _ => "LISTING_NOT_ACTIVE"
  | .marketplacePaused => "MARKETPLACE_PAUSED"
  | .transfersPaused => "TRANSFERS_PAUSED"
  | .insufficientFunds _ _ _ => "INSUFFICIENT_FUNDS"

/-- The kind of fault: the call itself, the caller's rights, or the ledger's state. -/
def kind : Rejection → ErrorKind
  | .invalidFingerprint | .invalidSupply | .royaltyTooHigh _ | .markupTooHigh _
  | .feeTooHigh _ | .invalidAddress | .invalidSeat | .invalidPrice
  | .priceExceedsCap _ _ | .insufficientPayment _ _ | .cannotBuyOwnListing => .validation
  | .notOwner | .notEventAuthority _ | .notAuthorizedMinter _ | .notTokenOwner _
  | .notApprovedForTransfer _ | .marketplaceNotApproved _ | .notTheSeller _ => .authorization
  | _ => .stateConflict

/-- The human-readable message. -/
def message : Rejection → String
  | .invalidFingerprint => "Invalid fingerprint"
  | .invalidSupply => "Invalid supply"
  | .royaltyTooHigh r => "Royalty too high: " ++ r.display ++ " exceeds 1000 bps"
  | .markupTooHigh m => "Markup too high: " ++ m.display ++ " exceeds 10000 bps"
  | .feeTooHigh f => "Fee too high: " ++ f.display ++ " exceeds 500 bps"
  | .invalidAddress => "Invalid address"
  | .invalidSeat => "Invalid seat"
  | .invalidPrice => "Price must be greater than zero"
  | .priceExceedsCap p c => "Price " ++ p.display ++ " exceeds resale cap " ++ c.display
  | .insufficientPayment p q =>
    "Insufficient payment: price is " ++ p.display ++ ", got " ++ q.display
  | .cannotBuyOwnListing => "Cannot buy own listing"
  | .notOwner => "Caller is not the contract owner"
  | .notEventAuthority e => "Caller is not an authority for event " ++ toString e.val
  | .notAuthorizedMinter e => "Not authorized to mint for event " ++ toString e.val
  | .notTokenOwner t => "Not token owner of ticket " ++ toString t.val
  | .notApprovedForTransfer t => "Not approved to transfer ticket " ++ toString t.val
  | .marketplaceNotApproved t => "Marketplace not approved for ticket " ++ toString t.val
  | .notTheSeller l => "Not the seller of listing " ++ toString l.val
  | .eventDoesNotExist e => "Event " ++ toString e.val ++ " does not exist"
  | .eventIsPaused e => "Event " ++ toString e.val ++ " is paused"
  | .seatAlreadyMinted e s =>
    "Seat " ++ s.name ++ " already minted for event " ++ toString e.val
  | .maxSupplyReached e => "Max supply reached for event " ++ toString e.val
  | .ticketDoesNotExist t => "Ticket " ++ toString t.val ++ " does not exist"
  | .ticketNotActive t => "Ticket " ++ toString t.val ++ " is not active"
  | .ticketListed t => "Ticket " ++ toString t.val ++ " is listed"
  | .listingNotActive l => "Listing " ++ toString l.val ++ " is not active"
  | .marketplacePaused => "Marketplace paused"
  | .transfersPaused => "Transfers paused"
  | .insufficientFunds a b r =>
    "Insufficient funds: " ++ a.render ++ " holds " ++ b.display ++ ", needs " ++ r.display

end Rejection

end TicketMarket
