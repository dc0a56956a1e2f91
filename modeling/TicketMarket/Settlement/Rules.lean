import TicketMarket.Settlement.State
import TicketMarket.Rejection

/-! # Settlement rules

`validateCall` checks a call on its own, before any state is looked at; the client runs
it before submitting and the ledger runs it again first thing. The other rules are
predicates on the state: who owns the contracts, who speaks for an event, who may mint.
`splitPrice` divides a resale price into royalty, platform cut and the seller's proceeds. -/
set_option autoImplicit false
namespace TicketMarket

/-- Refuse the all-zero address. -/
def requireAccount (a : Address) : Except Rejection Unit :=
  if a.isZero then .error .invalidAddress else .ok ()

/-- Check an event draft: fingerprint, supply, royalty, markup, then artist. -/
def validateDraft (d : EventDraft) : Except Rejection Unit :=
  if d.fingerprint.isZero then .error .invalidFingerprint
  else if d.maxSupply == 0 then .error .invalidSupply
  else if d.royalty.val > maxRoyalty then .error (.royaltyTooHigh d.royalty)
  else if d.markup.val > maxMarkup then .error (.markupTooHigh d.markup)
  else requireAccount d.artist

/-- Check a call on its own, before any state is consulted. -/
def validateCall : LedgerCall → Except Rejection Unit
  | .createEvent d => validateDraft d
  | .setMinter _ minter _ => requireAccount minter
  | .mintTicket _ recipient seat _ =>
    match requireAccount recipient with
    | .error e => .error e
    | .ok () => if seat.isBlank then .error .invalidSeat else .ok ()
  | .approve _ (some operator) => requireAccount operator
  | .transferTicket _ recipient => requireAccount recipient
  | .createListing _ price => if price.isZero then .error .invalidPrice else .ok ()
  | .setPlatformFee fee => if fee.val > maxPlatformFee then .error (.feeTooHigh fee) else .ok ()
  | .setPlatformAddress a => requireAccount a
  | _ => .ok ()

/-- Royalty, platform cut and seller's proceeds of a price; the proceeds saturate at zero,
which matters when the fee was set above the usual limit at deployment. -/
def splitPrice (price : Wei) (royalty fee : Bps) : Wei × Wei × Wei :=
  let r := royalty.shareOf price
  let c := fee.shareOf price
  (r, c, (price.satSub r).satSub c)

namespace SettlementState

variable (s : SettlementState)

/-- Whether the caller owns the contracts. -/
def isOwner (caller : Address) : Bool := caller == s.owner

/-- Whether the caller speaks for an event: its organizer or the contract owner. -/
def isEventAuthority (e : Event) (caller : Address) : Bool :=
  caller == e.organizer || s.isOwner caller

/-- Whether the caller may mint for an event: an authority or a holder of a minting right. -/
def canMint (e : Event) (caller : Address) : Bool :=
  s.isEventAuthority e caller || s.isMinter e.id caller

/-- Refuse a caller who does not own the contracts. -/
def requireOwner (caller : Address) : Except Rejection Unit :=
  if s.isOwner caller then .ok () else .error .notOwner

/-- The event with an id, or the rejection that it does not exist. -/
def requireEvent (id : EventId) : Except Rejection Event :=
  match s.event? id with
  | some e => .ok e
  | none => .error (.eventDoesNotExist id)

/-- The ticket with an id, or the rejection that it does not exist. -/
def requireTicket (id : TicketId) : Except Rejection Ticket :=
  match s.ticket? id with
  | some t => .ok t
  | none => .error (.ticketDoesNotExist id)

/-- Refuse a ticket that has an active listing. -/
def requireUnlisted (id : TicketId) : Except Rejection Unit :=
  match s.activeListingFor? id with
  | some _ => .error (.ticketListed id)
  | none => .ok ()

/-- Who may grant minting rights: the owner for every event, an event's authority for one. -/
def authorizeMinterAdmin (scope : MinterScope) (caller : Address) : Except Rejection Unit :=
  match scope with
  | .global => s.requireOwner caller
  | .event id =>
    match s.requireEvent id with
    | .error e => .error e
    | .ok e => if s.isEventAuthority e caller then .ok () else .error (.notEventAuthority id)

end SettlementState

end TicketMarket
