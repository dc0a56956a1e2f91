import TicketMarket.Settlement.Rules

/-! # Settling one call

A call is settled in place. `Reduce` reads and writes the ledger's state and may stop with
a rejection; whatever it wrote before it stopped stays written, so whether a refused call
leaves the state alone depends on each handler running its checks before its first write.
`Reducer.reduce` validates the call on its own and hands it to its handler, and
`SettlementState.run` evaluates a call against a state and returns the verdict with the
state the call leaves. A purchase escrows the buyer's payment, moves the ticket, pays the
artist, the platform and the seller, refunds any overpayment and closes the listing, in
that order, logging each effect. -/
set_option autoImplicit false
namespace TicketMarket

/-- Who makes a call and when. -/
structure CallContext where
  caller : Address
  time : Instant
  deriving DecidableEq, Repr

/-- What an accepted call answers and the logs it emits. -/
structure Applied where
  output : CallOutput
  logs : List LedgerLog
  deriving DecidableEq, Repr

/-- A step of the ledger: it reads and writes the state in place and may stop with a
rejection, keeping what it wrote before it stopped. -/
abbrev Reduce := ExceptT Rejection (StateM SettlementState)

/-- Run a step from a state: its verdict, and the state it leaves. -/
def Reduce.exec {α : Type} (m : Reduce α) (s : SettlementState) :
    Except Rejection α × SettlementState :=
  m.run.run s

namespace SettlementState

variable (s : SettlementState)

/-- Change the event with an id. -/
def updateEvent (id : EventId) (f : Event → Event) : SettlementState :=
  { s with events := s.events.map fun e => if e.id == id then f e else e }

/-- Change the ticket with an id. -/
def updateTicket (id : TicketId) (f : Ticket → Ticket) : SettlementState :=
  { s with tickets := s.tickets.map fun t => if t.id == id then f t else t }

/-- Change the listing with an id. -/
def updateListing (id : ListingId) (f : Listing → Listing) : SettlementState :=
  { s with listings := s.listings.map fun l => if l.id == id then f l else l }

/-- Close a listing of a ticket with a final status and drop the ticket's entry from the
index of active listings. -/
def closeListing (id : ListingId) (ticket : TicketId) (status : ListingStatus) :
    SettlementState :=
  { s.updateListing id (fun l => { l with status }) with
    activeListingByTicket := Assoc.erase ticket s.activeListingByTicket }

/-- Record the operator approved to move a ticket, or clear the approval. -/
def setApproval (id : TicketId) : Option Address → SettlementState
  | some op => { s with approvals := Assoc.insert id op s.approvals }
  | none => { s with approvals := Assoc.erase id s.approvals }

/-- The active listing with an id, or the rejection that there is none. -/
def requireActiveListing (id : ListingId) : Except Rejection Listing :=
  match s.listing? id with
  | some l => if l.isActive then .ok l else .error (.listingNotActive id)
  | none => .error (.listingNotActive id)

end SettlementState

namespace Reducer

/-- Register an event for its organizer; this is never refused. -/
def createEvent (organizer : Address) (d : EventDraft) (time : Instant) : Reduce Applied := do
  let id : EventId := ⟨(← get).nextEventId⟩
  modify fun s => { s with nextEventId := s.nextEventId + 1 }
  let e : Event :=
    { id, organizer, fingerprint := d.fingerprint, maxSupply := d.maxSupply,
      royalty := d.royalty, markup := d.markup, artist := d.artist,
      issuePrice := d.issuePrice, minted := 0, paused := false, createdAt := time }
  modify fun s => { s with events := s.events ++ [e] }
  return ⟨.eventCreated id, [.eventCreated id organizer d]⟩

/-- Grant or withdraw a minting right; setting the current value again logs nothing. -/
def setMinter (caller : Address) (scope : MinterScope) (minter : Address) (enabled : Bool) :
    Reduce Applied := do
  let s ← get
  liftExcept (s.authorizeMinterAdmin scope caller)
  let key := (scope, minter)
  if s.minters.contains key == enabled then
    return ⟨.empty, []⟩
  modify fun s =>
    { s with minters := if enabled then s.minters ++ [key] else s.minters.filter (· != key) }
  return ⟨.empty, [.minterUpdated scope minter enabled]⟩

/-- Mint a ticket for a seat of an event. -/
def mintTicket (caller : Address) (eventId : EventId) (recipient : Address) (seat : SeatId)
    (metadata : Option String) (time : Instant) : Reduce Applied := do
  let s ← get
  let e ← liftExcept (s.requireEvent eventId)
  if !s.canMint e caller then throw (.notAuthorizedMinter eventId)
  if e.paused then throw (.eventIsPaused eventId)
  if s.isSeatMinted eventId seat then throw (.seatAlreadyMinted eventId seat)
  if e.isSoldOut then throw (.maxSupplyReached eventId)
  let id : TicketId := ⟨s.nextTicketId⟩
  modify fun s => { s with nextTicketId := s.nextTicketId + 1 }
  modify fun s => { s with seats := s.seats ++ [(eventId, seat)] }
  modify (·.updateEvent eventId fun e => { e with minted := e.minted + 1 })
  let t : Ticket := ⟨id, eventId, seat, recipient, metadata, .owned, time⟩
  modify fun s => { s with tickets := s.tickets ++ [t] }
  return ⟨.ticketMinted id, [.ticketMinted id eventId seat recipient]⟩

/-- Approve an operator to move a ticket, or withdraw the approval. A listed ticket can
only be approved to the marketplace again. -/
def approve (caller : Address) (id : TicketId) (operator : Option Address) :
    Reduce Applied := do
  let s ← get
  let t ← liftExcept (s.requireTicket id)
  if t.owner != caller then throw (.notTokenOwner id)
  if !t.isActive then throw (.ticketNotActive id)
  if operator != some s.marketplace then liftExcept (s.requireUnlisted id)
  modify (·.setApproval id operator)
  return ⟨.empty, [.approval id caller operator]⟩

/-- Give a ticket to a new owner and drop its approval. A ticket that does not exist is
left alone and nothing is logged. -/
def moveTicket (id : TicketId) (recipient : Address) : Reduce (List LedgerLog) := do
  match (← get).ticket? id with
  | none => return []
  | some t =>
    modify (·.updateTicket id fun t => { t with owner := recipient })
    modify fun s => { s with approvals := Assoc.erase id s.approvals }
    return [.ticketTransferred id t.eventId t.owner recipient]

/-- Move a ticket on behalf of its owner or approved operator. -/
def transferTicket (caller : Address) (id : TicketId) (recipient : Address) :
    Reduce Applied := do
  let s ← get
  if s.transfersPaused then throw .transfersPaused
  let t ← liftExcept (s.requireTicket id)
  if !t.isActive then throw (.ticketNotActive id)
  if t.owner != caller && s.approval? id != some caller then
    throw (.notApprovedForTransfer id)
  liftExcept (s.requireUnlisted id)
  let logs ← moveTicket id recipient
  return ⟨.empty, logs⟩

/-- Offer a ticket for resale at a price within its event's cap. -/
def createListing (seller : Address) (id : TicketId) (price : Wei) (time : Instant) :
    Reduce Applied := do
  let s ← get
  if s.marketplacePaused then throw .marketplacePaused
  let t ← liftExcept (s.requireTicket id)
  if !t.isActive then throw (.ticketNotActive id)
  liftExcept (s.requireUnlisted id)
  if t.owner != seller then throw (.notTokenOwner id)
  if s.approval? id != some s.marketplace then throw (.marketplaceNotApproved id)
  let e ← liftExcept (s.requireEvent t.eventId)
  let cap := e.resaleCap
  if price.val > cap.val then throw (.priceExceedsCap price cap)
  let lid : ListingId := ⟨s.nextListingId⟩
  modify fun s => { s with nextListingId := s.nextListingId + 1 }
  let l : Listing := ⟨lid, id, t.eventId, seller, price, .active, time⟩
  modify fun s => { s with listings := s.listings ++ [l] }
  modify fun s =>
    { s with activeListingByTicket := Assoc.insert id lid s.activeListingByTicket }
  return ⟨.listingCreated lid, [.listingCreated lid id t.eventId seller price]⟩

/-- Credit each non-zero payout in turn, logging it. -/
def payOut : List (Address × Wei × PaymentReason) → Reduce (List LedgerLog)
  | [] => return []
  | (recipient, amount, why) :: rest => do
    if amount.isZero then payOut rest
    else
      modify (·.credit recipient amount)
      let logs ← payOut rest
      return .payment recipient amount why :: logs

/-- How a purchase of listing `lid` by `buyer`, paying `payment`, is paid out: the price
split by the event's royalty and the platform's fee, and the overpayment refunded. -/
def settlement (buyer : Address) (lid : ListingId) (payment : Wei) (l : Listing) (e : Event)
    (platform : PlatformConfig) : Settlement :=
  let (royalty, cut, proceeds) := splitPrice l.price e.royalty platform.fee
  { listingId := lid, ticketId := l.ticketId, buyer, seller := l.seller, price := l.price,
    royalty, platformCut := cut, sellerProceeds := proceeds,
    refund := payment.satSub l.price, artist := e.artist, platform := platform.address }

/-- The payouts of a settlement in the order they are made: royalty, platform fee, the
seller's proceeds, then the buyer's refund. -/
def payouts (st : Settlement) : List (Address × Wei × PaymentReason) :=
  [(st.artist, st.royalty, .royalty), (st.platform, st.platformCut, .platformFee),
    (st.seller, st.sellerProceeds, .sellerProceeds), (st.buyer, st.refund, .refund)]

/-- Buy a listed ticket: escrow, transfer, disburse, refund, close. -/
def purchaseListing (buyer : Address) (lid : ListingId) (payment : Wei) : Reduce Applied := do
  let s ← get
  if s.marketplacePaused then throw .marketplacePaused
  let l ← liftExcept (s.requireActiveListing lid)
  if l.seller == buyer then throw .cannotBuyOwnListing
  if payment.val < l.price.val then throw (.insufficientPayment l.price payment)
  let bal := s.balance buyer
  if bal.val < payment.val then throw (.insufficientFunds buyer bal payment)
  let e ← liftExcept (s.requireEvent l.eventId)
  let st := settlement buyer lid payment l e s.platform
  modify (·.debit buyer payment)
  let moveLogs ← moveTicket l.ticketId buyer
  let payLogs ← payOut (payouts st)
  modify (·.closeListing lid l.ticketId .sold)
  return ⟨.purchased st,
    moveLogs ++ payLogs ++ [.listingSold lid l.ticketId l.eventId buyer l.seller l.price]⟩

/-- Withdraw a listing; only its seller may, and only while it is active. -/
def cancelListing (caller : Address) (lid : ListingId) : Reduce Applied := do
  let s ← get
  let l ← match s.listing? lid with
    | some l => pure l
    | none => throw (.listingNotActive lid)
  if l.seller != caller then throw (.notTheSeller lid)
  if !l.isActive then throw (.listingNotActive lid)
  modify (·.closeListing lid l.ticketId .cancelled)
  return ⟨.empty, [.listingCancelled lid l.ticketId l.eventId]⟩

/-- Pause or resume minting for an event; this logs even when nothing changes. -/
def setEventPaused (caller : Address) (id : EventId) (paused : Bool) : Reduce Applied := do
  let s ← get
  let e ← liftExcept (s.requireEvent id)
  if !s.isEventAuthority e caller then throw (.notEventAuthority id)
  modify (·.updateEvent id fun e => { e with paused })
  let log := if paused then LedgerLog.eventPaused id else LedgerLog.eventUnpaused id
  return ⟨.empty, [log]⟩

/-- End a ticket's life as used or revoked, dropping its approval. -/
def finaliseTicket (caller : Address) (id : TicketId) (status : TicketStatus) :
    Reduce Applied := do
  let s ← get
  let t ← liftExcept (s.requireTicket id)
  let e ← liftExcept (s.requireEvent t.eventId)
  if !s.canMint e caller then throw (.notEventAuthority t.eventId)
  if !t.isActive then throw (.ticketNotActive id)
  liftExcept (s.requireUnlisted id)
  modify (·.updateTicket id fun t => { t with status })
  modify fun s => { s with approvals := Assoc.erase id s.approvals }
  let log := if status == .used then LedgerLog.ticketUsed id t.eventId
    else LedgerLog.ticketRevoked id t.eventId
  return ⟨.empty, [log]⟩

/-- Change a setting of the contracts on behalf of their owner, logging the change. The
pause switches and the platform's fee and address are changed this way. -/
def ownerOnly (caller : Address) (change : SettlementState → SettlementState)
    (log : LedgerLog) : Reduce Applied := do
  liftExcept ((← get).requireOwner caller)
  modify change
  return ⟨.empty, [log]⟩

/-- Hand a call that passed validation to its handler. -/
def dispatch (call : LedgerCall) (ctx : CallContext) : Reduce Applied :=
  let caller := ctx.caller
  match call with
  | .createEvent d => createEvent caller d ctx.time
  | .setMinter scope minter enabled => setMinter caller scope minter enabled
  | .mintTicket e recipient seat metadata => mintTicket caller e recipient seat metadata ctx.time
  | .approve t operator => approve caller t operator
  | .transferTicket t recipient => transferTicket caller t recipient
  | .createListing t price => createListing caller t price ctx.time
  | .purchaseListing l payment => purchaseListing caller l payment
  | .cancelListing l => cancelListing caller l
  | .pauseEvent e => setEventPaused caller e true
  | .unpauseEvent e => setEventPaused caller e false
  | .setTransfersPaused paused =>
    ownerOnly caller (fun s => { s with transfersPaused := paused })
      (.transfersPauseChanged paused)
  | .setMarketplacePaused paused =>
    ownerOnly caller (fun s => { s with marketplacePaused := paused })
      (.marketplacePauseChanged paused)
  | .setPlatformFee fee =>
    ownerOnly caller (fun s => { s with platform := { s.platform with fee } })
      (.platformFeeUpdated fee)
  | .setPlatformAddress address =>
    ownerOnly caller (fun s => { s with platform := { s.platform with address } })
      (.platformAddressUpdated address)
  | .markUsed t => finaliseTicket caller t .used
  | .revokeTicket t => finaliseTicket caller t .revoked

/-- Evaluate a call: validate it on its own, then hand it to its handler. -/
def reduce (call : LedgerCall) (ctx : CallContext) : Reduce Applied := do
  liftExcept (validateCall call)
  dispatch call ctx

end Reducer

namespace SettlementState

/-- Evaluate a call against a state: the verdict, and the state the call leaves. -/
def run (s : SettlementState) (call : LedgerCall) (ctx : CallContext) :
    Except Rejection Applied × SettlementState :=
  (Reducer.reduce call ctx).exec s

end SettlementState

end TicketMarket
