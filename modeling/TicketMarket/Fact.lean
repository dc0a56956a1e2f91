import TicketMarket.Call

/-! # Transition facts

A read replica outside the ledger keeps a denormalised copy of it, fed one
`TransitionFact` per change of an event, ticket or listing. `TransitionFact.ofLogs` turns
an accepted call's logs into those facts, in log order, all stamped with the call's time;
payments, approvals, minting rights and platform settings are no transitions and give
none. A replica that fails never affects the ledger, so `ReplicaError` is only reported. -/
set_option autoImplicit false
namespace TicketMarket

/-- The kind of record a fact is about. -/
inductive EntityType where
  | event
  | ticket
  | listing
  deriving DecidableEq, Repr

/-- The state a record moved into. -/
inductive FactState where
  | created
  | paused
  | unpaused
  | minted
  | transferred
  | used
  | revoked
  | active
  | sold
  | cancelled
  deriving DecidableEq, Repr

/-- One change of one record. `eventId` is the event a ticket or listing belongs to, and
is empty for an event's own changes. -/
structure TransitionFact where
  entityType : EntityType
  entityId : Nat
  eventId : Option EventId
  newState : FactState
  timestamp : Instant
  deriving DecidableEq, Repr

namespace EntityType

/-- The snake-case name. -/
def name : EntityType → String
  | .event => "event"
  | .ticket => "ticket"
  | .listing => "listing"

/-- The capitalised name, as diagnostics show it. -/
def title : EntityType → String
  | .event => "Event"
  | .ticket => "Ticket"
  | .listing => "Listing"

end EntityType

namespace FactState

/-- The snake-case name. -/
def name : FactState → String
  | .created => "created"
  | .paused => "paused"
  | .unpaused => "unpaused"
  | .minted => "minted"
  | .transferred => "transferred"
  | .used => "used"
  | .revoked => "revoked"
  | .active => "active"
  | .sold => "sold"
  | .cancelled => "cancelled"

/-- The capitalised name, as diagnostics show it. -/
def title : FactState → String
  | .created => "Created"
  | .paused => "Paused"
  | .unpaused => "Unpaused"
  | .minted => "Minted"
  | .transferred => "Transferred"
  | .used => "Used"
  | .revoked => "Revoked"
  | .active => "Active"
  | .sold => "Sold"
  | .cancelled => "Cancelled"

end FactState

namespace TransitionFact

/-- The fact a log records, if it records a transition. -/
def ofLog (log : LedgerLog) (time : Instant) : Option TransitionFact :=
  match log with
  | .eventCreated e _ _ => some ⟨.event, e.val, none, .created, time⟩
  | .eventPaused e => some ⟨.event, e.val, none, .paused, time⟩
  | .eventUnpaused e => some ⟨.event, e.val, none, .unpaused, time⟩
  | .ticketMinted t e _ _ => some ⟨.ticket, t.val, some e, .minted, time⟩
  | .ticketTransferred t e _ _ => some ⟨.ticket, t.val, some e, .transferred, time⟩
  | .ticketUsed t e => some ⟨.ticket, t.val, some e, .used, time⟩
  | .ticketRevoked t e => some ⟨.ticket, t.val, some e, .revoked, time⟩
  | .listingCreated l _ e _ _ => some ⟨.listing, l.val, some e, .active, time⟩
  | .listingSold l _ e _ _ _ => some ⟨.listing, l.val, some e, .sold, time⟩
  | .listingCancelled l _ e => some ⟨.listing, l.val, some e, .cancelled, time⟩
  | _ => none

/-- The facts of a call's logs, in order, all at the call's time. -/
def ofLogs (logs : List LedgerLog) (time : Instant) : List TransitionFact :=
  logs.filterMap (ofLog · time)

end TransitionFact

/-- Why the replica did not take a fact. -/
inductive ReplicaError where
  | unavailable (reason : String)
  | rejected (reason : String)
  deriving DecidableEq, Repr

namespace ReplicaError

/-- The stable machine code. -/
def code : ReplicaError → String
  | .unavailable _ => "MIRROR_UNAVAILABLE"
  | .rejected _ => "MIRROR_REJECTED"

/-- The human-readable message. -/
def message : ReplicaError → String
  | .unavailable r => "Mirror unavailable: " ++ r
  | .rejected r => "Mirror rejected fact: " ++ r

end ReplicaError

end TicketMarket
