import Mathlib
import TicketMarket.Proofs.Story
import TicketMarket.Proofs.ListingLock
import TicketMarket.Proofs.History
import TicketMarket.Fact

/-! # Logs and facts record every transition

A replica outside the ledger rebuilds events, tickets and listings from the transition
facts of the accepted calls, and a ticket's holder from the mint and transfer logs. This
module shows that nothing is lost on the way: after any run from genesis, the facts are
about exactly the records of the ledger, every record's facts open with its birth, name
its event and end on its status, and a ticket's mint and transfer logs end on its owner.

Each of the four tables is a `RecordKind` (`eventFacts`, `ticketFacts`, `listingFacts`,
`holderLogs`). `Mirrored` says all four are mirrored at once. Each kind of write keeps it
(`Mirrored.moveTicket`, `Mirrored.closeListing`, ...), so every accepted call does
(`Mirrored.dispatch`) and every run does (`Mirrored.replay`); a mirrored state is
completely recorded (`Mirrored.complete`). The main statement is
`run_records_every_transition`. -/
set_option autoImplicit false
namespace TicketMarket

namespace TransitionFact

/-- The key of the record of a type that a fact is about, if the fact is about one. -/
def subjectOf (type : EntityType) (f : TransitionFact) : Option Nat :=
  if f.entityType = type then some f.entityId else none

/-- The facts about one record, in order. -/
def history (facts : List TransitionFact) (type : EntityType) (id : Nat) :
    List TransitionFact :=
  facts.filter fun f => f.entityType = type ∧ f.entityId = id

/-- The state the last fact about a record leaves it in. -/
def lastState (facts : List TransitionFact) (type : EntityType) (id : Nat) :
    Option FactState :=
  (history facts type id).getLast?.map (·.newState)

end TransitionFact

/-- The state a record of a type is born in. -/
def EntityType.firstState : EntityType → FactState
  | .event => .created
  | .ticket => .minted
  | .listing => .active

namespace FactState

/-- Whether an event is paused after a fact that leaves it in this state. -/
def pausedFlag? : FactState → Option Bool
  | .created | .unpaused => some false
  | .paused => some true
  | _ => none

/-- The status of a ticket after a fact that leaves it in this state. -/
def ticketStatus? : FactState → Option TicketStatus
  | .minted | .transferred => some .owned
  | .used => some .used
  | .revoked => some .revoked
  | _ => none

/-- The status of a listing after a fact that leaves it in this state. -/
def listingStatus? : FactState → Option ListingStatus
  | .active => some .active
  | .sold => some .sold
  | .cancelled => some .cancelled
  | _ => none

theorem pausedFlag?_eq_some {st : FactState} {paused : Bool}
    (reads : st.pausedFlag? = some paused) : paused = true ↔ st = .paused := by
  cases st <;> simp_all [pausedFlag?]

theorem ticketStatus?_eq_some {st : FactState} {status : TicketStatus}
    (reads : st.ticketStatus? = some status) :
    (status = .owned ↔ st = .minted ∨ st = .transferred) ∧ (status = .used ↔ st = .used) ∧
      (status = .revoked ↔ st = .revoked) := by
  cases st <;> cases status <;> simp_all [ticketStatus?]

theorem listingStatus?_eq_some {st : FactState} {status : ListingStatus}
    (reads : st.listingStatus? = some status) :
    (status = .active ↔ st = .active) ∧ (status = .sold ↔ st = .sold) ∧
      (status = .cancelled ↔ st = .cancelled) := by
  cases st <;> cases status <;> simp_all [listingStatus?]

end FactState

namespace LedgerLog

/-- The ticket a log mints or moves, the event the log names and the account that gets the
ticket. -/
def handover? : LedgerLog → Option (TicketId × EventId × Address)
  | .ticketMinted t e _ owner => some (t, e, owner)
  | .ticketTransferred t e _ dst => some (t, e, dst)
  | _ => none

/-- The account a log mints a ticket to. -/
def mintedTo? (id : TicketId) : LedgerLog → Option Address
  | .ticketMinted t _ _ owner => if t = id then some owner else none
  | _ => none

/-- The account a log moves a ticket to. -/
def transferredTo? (id : TicketId) : LedgerLog → Option Address
  | .ticketTransferred t _ _ dst => if t = id then some dst else none
  | _ => none

end LedgerLog

/-! ## The four tables as their entries tell them -/

/-- Events as their facts tell them: born unpaused, then paused and unpaused. -/
def eventFacts : RecordKind TransitionFact Event Bool where
  subject := TransitionFact.subjectOf .event
  key e := e.id.val
  entryEvent f := f.eventId
  event _ := none
  status e := e.paused
  isBirth f := f.newState == .created
  reads f := f.newState.pausedFlag?

/-- Tickets as their facts tell them: born owned by their mint, then transferred, used or
revoked. -/
def ticketFacts : RecordKind TransitionFact Ticket TicketStatus where
  subject := TransitionFact.subjectOf .ticket
  key t := t.id.val
  entryEvent f := f.eventId
  event t := some t.eventId
  status t := t.status
  isBirth f := f.newState == .minted
  reads f := f.newState.ticketStatus?

/-- Listings as their facts tell them: born active, then sold or cancelled. -/
def listingFacts : RecordKind TransitionFact Listing ListingStatus where
  subject := TransitionFact.subjectOf .listing
  key l := l.id.val
  entryEvent f := f.eventId
  event l := some l.eventId
  status l := l.status
  isBirth f := f.newState == .active
  reads f := f.newState.listingStatus?

/-- Tickets' holders as the mint and transfer logs tell them. -/
def holderLogs : RecordKind LedgerLog Ticket Address where
  subject l := l.handover?.map (·.1.val)
  key t := t.id.val
  entryEvent l := l.handover?.map (·.2.1)
  event t := some t.eventId
  status t := t.owner
  isBirth l := match l with
    | .ticketMinted .. => true
    | _ => false
  reads l := l.handover?.map (·.2.2)

/-- The story of a record in a kind of facts is its history. -/
theorem story_subjectOf {σ α : Type} {kind : RecordKind TransitionFact α σ} {type : EntityType}
    (subject : kind.subject = TransitionFact.subjectOf type) (facts : List TransitionFact)
    (k : Nat) : kind.story facts k = TransitionFact.history facts type k := by
  unfold RecordKind.story TransitionFact.history
  rw [subject]
  congr 1
  funext f
  unfold TransitionFact.subjectOf
  split
  · by_cases same : f.entityId = k <;> simp_all
  · simp_all

theorem ticketFacts_story (facts : List TransitionFact) (k : Nat) :
    ticketFacts.story facts k = TransitionFact.history facts .ticket k :=
  story_subjectOf rfl facts k

theorem listingFacts_story (facts : List TransitionFact) (k : Nat) :
    listingFacts.story facts k = TransitionFact.history facts .listing k :=
  story_subjectOf rfl facts k

/-! ## Which logs record a transition -/

/-- A log that records no transition hands no ticket over. -/
theorem handover?_of_ofLog {l : LedgerLog} {time : Instant}
    (quiet : TransitionFact.ofLog l time = none) : l.handover? = none := by
  cases l <;> simp_all [TransitionFact.ofLog, LedgerLog.handover?]

/-- A log whose fact is about no ticket hands no ticket over. -/
theorem handover?_of_ofLog_some {l : LedgerLog} {time : Instant} {f : TransitionFact}
    (fact : TransitionFact.ofLog l time = some f) (other : f.entityType ≠ .ticket) :
    l.handover? = none := by
  cases l <;> simp_all [TransitionFact.ofLog, LedgerLog.handover?] <;> (subst f; exact other rfl)

theorem ofLogs_quiet {logs : List LedgerLog} {time : Instant}
    (quiet : ∀ l ∈ logs, TransitionFact.ofLog l time = none) :
    TransitionFact.ofLogs logs time = [] :=
  List.filterMap_eq_nil_iff.mpr quiet

theorem ofLogs_append (logs more : List LedgerLog) (time : Instant) :
    TransitionFact.ofLogs (logs ++ more) time =
      TransitionFact.ofLogs logs time ++ TransitionFact.ofLogs more time :=
  List.filterMap_append

/-- Payments record no transition. -/
theorem ofLog_payment {l : LedgerLog} (ps : List (Address × Wei × PaymentReason))
    (mem : l ∈ paymentLogs ps) (time : Instant) : TransitionFact.ofLog l time = none := by
  obtain ⟨p, -, made⟩ := List.mem_filterMap.mp mem
  split at made
  · cases made
  · cases made
    rfl

namespace SettlementState

theorem mem_of_ticket? {s : SettlementState} {id : TicketId} {T : Ticket}
    (found : s.ticket? id = some T) : T ∈ s.tickets ∧ T.id = id :=
  ⟨List.mem_of_find?_eq_some found, by simpa using List.find?_some found⟩

theorem mem_of_event? {s : SettlementState} {id : EventId} {e : Event}
    (found : s.event? id = some e) : e ∈ s.events ∧ e.id = id :=
  ⟨List.mem_of_find?_eq_some found, by simpa using List.find?_some found⟩

theorem listing?_creditAll (s : SettlementState) (ps : List (Address × Wei × PaymentReason))
    (lid : ListingId) : (s.creditAll ps).listing? lid = s.listing? lid := by
  obtain ⟨balances, credited⟩ := s.creditAll_eq ps
  rw [credited]
  rfl

/-- The time and logs of each call a run accepted, in order. -/
def acceptedLogs : SettlementState → List LedgerStep → List (Instant × List LedgerLog)
  | _, [] => []
  | s, .call call ctx :: rest =>
    match s.run call ctx with
    | (.ok a, s') => (ctx.time, a.logs) :: s'.acceptedLogs rest
    | (.error _, s') => s'.acceptedLogs rest
  | s, .fund account amount :: rest => (s.fund account amount).acceptedLogs rest

/-- The logs of the calls a run accepted, in order. -/
def runLogs (s : SettlementState) (steps : List LedgerStep) : List LedgerLog :=
  (s.acceptedLogs steps).flatMap (·.2)

/-- The transition facts of the calls a run accepted, each call's stamped with its time. -/
def runFacts (s : SettlementState) (steps : List LedgerStep) : List TransitionFact :=
  (s.acceptedLogs steps).flatMap fun r => TransitionFact.ofLogs r.2 r.1

/-- The keys of a state's records of a type. -/
def recordIds (s : SettlementState) : EntityType → List Nat
  | .event => s.events.map (·.id.val)
  | .ticket => s.tickets.map (·.id.val)
  | .listing => s.listings.map (·.id.val)

end SettlementState

/-! ## The mirror, kept by every call -/

/-- The events, tickets and listings of a state are mirrored by a log and its facts:
events, tickets and listings by the facts, and tickets' holders by the log. -/
structure Mirrored (logs : List LedgerLog) (facts : List TransitionFact) (s : SettlementState) :
    Prop where
  events : eventFacts.Mirrors facts s.events s.nextEventId
  tickets : ticketFacts.Mirrors facts s.tickets s.nextTicketId
  listings : listingFacts.Mirrors facts s.listings s.nextListingId
  holders : holderLogs.Mirrors logs s.tickets s.nextTicketId

namespace Mirrored

open SettlementState

variable {L : List LedgerLog} {F : List TransitionFact} {s s' : SettlementState}

theorem genesis (g : Genesis) : Mirrored [] [] (SettlementState.genesis g) :=
  ⟨.start, .start, .start, .start⟩

/-- Only the tables and their counters are mirrored. -/
theorem congr (inv : Mirrored L F s) (events : s'.events = s.events)
    (tickets : s'.tickets = s.tickets) (listings : s'.listings = s.listings)
    (nextEvent : s'.nextEventId = s.nextEventId) (nextTicket : s'.nextTicketId = s.nextTicketId)
    (nextListing : s'.nextListingId = s.nextListingId) : Mirrored L F s' := by
  obtain ⟨e, t, l, h⟩ := inv
  rw [← events, ← nextEvent] at e
  rw [← tickets, ← nextTicket] at t h
  rw [← listings, ← nextListing] at l
  exact ⟨e, t, l, h⟩

/-- Logs that record no transition, with the tables left alone, keep the mirror. -/
theorem frame (inv : Mirrored L F s) {logs : List LedgerLog} (time : Instant)
    (quiet : ∀ l ∈ logs, TransitionFact.ofLog l time = none)
    (events : s'.events = s.events) (tickets : s'.tickets = s.tickets)
    (listings : s'.listings = s.listings) (nextEvent : s'.nextEventId = s.nextEventId)
    (nextTicket : s'.nextTicketId = s.nextTicketId)
    (nextListing : s'.nextListingId = s.nextListingId) :
    Mirrored (L ++ logs) (F ++ TransitionFact.ofLogs logs time) s' := by
  rw [ofLogs_quiet quiet, List.append_nil]
  have holders : holderLogs.Mirrors (L ++ logs) s.tickets s.nextTicketId :=
    inv.holders.quiet fun l mem => by simp [holderLogs, handover?_of_ofLog (quiet l mem)]
  exact congr ⟨inv.events, inv.tickets, inv.listings, holders⟩ events tickets listings nextEvent
    nextTicket nextListing

theorem fund (inv : Mirrored L F s) (account : Address) (amount : Wei) :
    Mirrored L F (s.fund account amount) := by
  obtain ⟨balances, credited⟩ := s.credit_eq account amount
  rw [SettlementState.fund, credited]
  exact inv.congr rfl rfl rfl rfl rfl rfl

/-- Payouts tell nothing and leave the tables alone. -/
theorem creditAll (inv : Mirrored L F s) (ps : List (Address × Wei × PaymentReason))
    (time : Instant) :
    Mirrored (L ++ paymentLogs ps) (F ++ TransitionFact.ofLogs (paymentLogs ps) time)
      (s.creditAll ps) := by
  obtain ⟨balances, credited⟩ := s.creditAll_eq ps
  rw [credited]
  exact inv.frame time (fun l mem => ofLog_payment ps mem time) rfl rfl rfl rfl rfl rfl

/-- Moving an owned ticket is told by its transfer, as a fact and as a log. -/
theorem moveTicket (inv : Mirrored L F s) {id : TicketId} {T : Ticket}
    (found : s.ticket? id = some T) (owned : T.status = .owned) (recipient : Address)
    (time : Instant) :
    Mirrored (L ++ [.ticketTransferred id T.eventId T.owner recipient])
      (F ++ TransitionFact.ofLogs [.ticketTransferred id T.eventId T.owner recipient] time)
      { s.updateTicket id (fun t => { t with owner := recipient }) with
        approvals := Assoc.erase id s.approvals } := by
  obtain ⟨mem, rfl⟩ := mem_of_ticket? found
  -- a transfer leaves the ticket owned, which is what its fact reads as
  have stillOwned : FactState.transferred.ticketStatus? = some T.status := by rw [owned]; rfl
  have keyed : ∀ x y : Ticket, x.id = y.id → x.id.val = y.id.val := fun _ _ same => by rw [same]
  exact ⟨inv.events.quiet_one rfl,
    inv.tickets.change_at Ticket.id keyed _ mem rfl rfl rfl rfl rfl stillOwned,
    inv.listings.quiet_one rfl, inv.holders.change_at Ticket.id keyed _ mem rfl rfl rfl rfl rfl rfl⟩

/-- Pausing or unpausing an event is told by the one fact that reads as its new flag. -/
theorem setEventPaused (inv : Mirrored L F s) {id : EventId} {e : Event}
    (found : s.event? id = some e) (paused : Bool) (time : Instant) :
    Mirrored (L ++ [if paused then .eventPaused id else .eventUnpaused id])
      (F ++ TransitionFact.ofLogs [if paused then .eventPaused id else .eventUnpaused id] time)
      (s.updateEvent id fun e => { e with paused }) := by
  obtain ⟨mem, rfl⟩ := mem_of_event? found
  cases paused <;>
    exact ⟨inv.events.change_at Event.id (fun _ _ same => congrArg EventId.val same) _ mem
        rfl rfl rfl rfl rfl rfl,
      inv.tickets.quiet_one rfl, inv.listings.quiet_one rfl, inv.holders.quiet_one rfl⟩

/-- Using or revoking a ticket is told by the one fact that reads as its final status; its
holder stays. -/
theorem finaliseTicket (inv : Mirrored L F s) {id : TicketId} {T : Ticket}
    (found : s.ticket? id = some T) {status : TicketStatus} (final : status ≠ .owned)
    (time : Instant) :
    Mirrored (L ++ [if status = .used then .ticketUsed id T.eventId else .ticketRevoked id T.eventId])
      (F ++ TransitionFact.ofLogs
        [if status = .used then .ticketUsed id T.eventId else .ticketRevoked id T.eventId] time)
      { s.updateTicket id (fun t => { t with status }) with
        approvals := Assoc.erase id s.approvals } := by
  obtain ⟨mem, rfl⟩ := mem_of_ticket? found
  cases status with
  | owned => exact absurd rfl final
  | used | revoked =>
      -- the holders' log hears nothing: key, event and owner survive finalising
      exact ⟨inv.events.quiet_one rfl,
        inv.tickets.change_at Ticket.id (fun _ _ same => congrArg TicketId.val same) _ mem
          rfl rfl rfl rfl rfl rfl,
        inv.listings.quiet_one rfl,
        inv.holders.keep (fun l mem => by rw [List.mem_singleton.mp mem]; rfl) _
          (fun x => by split <;> rfl) (fun x => by split <;> rfl) (fun x => by split <;> rfl)⟩

/-- Closing a listing is told by the one fact that reads as its final status. -/
theorem closeListing (inv : Mirrored L F s) {lid : ListingId} {Lst : Listing}
    (found : s.listing? lid = some Lst) (ticket : TicketId) {status : ListingStatus}
    (log : LedgerLog) (time : Instant) {st : FactState}
    (fact : TransitionFact.ofLog log time = some ⟨.listing, lid.val, some Lst.eventId, st, time⟩)
    (reads : st.listingStatus? = some status) (closed : st ≠ .active) :
    Mirrored (L ++ [log]) (F ++ TransitionFact.ofLogs [log] time)
      (s.closeListing lid ticket status) := by
  obtain ⟨mem, rfl⟩ := mem_of_listing? s found
  have facts : TransitionFact.ofLogs [log] time =
      [⟨.listing, Lst.id.val, some Lst.eventId, st, time⟩] := by
    simp [TransitionFact.ofLogs, fact]
  have quiet : holderLogs.subject log = none := by
    simp [holderLogs, handover?_of_ofLog_some fact (by simp)]
  rw [facts]
  exact ⟨inv.events.quiet_one rfl, inv.tickets.quiet_one rfl,
    inv.listings.change_at Listing.id (fun _ _ same => congrArg ListingId.val same) _ mem rfl rfl
      rfl (beq_false_of_ne closed) rfl reads,
    inv.holders.quiet_one quiet⟩

/-- A purchase is told by the ticket's transfer, the payments, which tell nothing, and the
listing's sale, in that order. -/
theorem purchase (inv : Mirrored L F s) (lock : ListingLock s) {lid : ListingId} {Lst : Listing}
    (found : s.listing? lid = some Lst) (active : Lst.status = .active) {buyer : Address}
    {payment : Wei} {moveLogs : List LedgerLog} {moved : SettlementState}
    (move : Reduce.exec (Reducer.moveTicket Lst.ticketId buyer) (s.debit buyer payment) =
      (.ok moveLogs, moved))
    (ps : List (Address × Wei × PaymentReason)) (time : Instant) :
    Mirrored (L ++ (moveLogs ++ paymentLogs ps ++
        [.listingSold lid Lst.ticketId Lst.eventId buyer Lst.seller Lst.price]))
      (F ++ TransitionFact.ofLogs (moveLogs ++ paymentLogs ps ++
        [.listingSold lid Lst.ticketId Lst.eventId buyer Lst.seller Lst.price]) time)
      ((moved.creditAll ps).closeListing lid Lst.ticketId .sold) := by
  -- the listed ticket is owned, so the move transfers it
  obtain ⟨T, ticket, owned, -⟩ := lock.listed lid Lst found active
  have debited : (s.debit buyer payment).ticket? Lst.ticketId = some T := ticket
  rw [Reducer.moveTicket_exec, debited, Prod.mk.injEq, Except.ok.injEq] at move
  obtain ⟨rfl, rfl⟩ := move
  have unpaid : Mirrored L F (s.debit buyer payment) := inv.congr rfl rfl rfl rfl rfl rfl
  have paid := (unpaid.moveTicket debited owned buyer time).creditAll ps time
  have sold := paid.closeListing ((listing?_creditAll _ ps lid).trans found) Lst.ticketId
    (.listingSold lid Lst.ticketId Lst.eventId buyer Lst.seller Lst.price) time rfl rfl (by decide)
  simpa only [ofLogs_append, List.append_assoc] using sold

/-- Every accepted call keeps the mirror, with its logs and their facts appended. -/
theorem dispatch (inv : Mirrored L F s) (lock : ListingLock s) {call : LedgerCall}
    {ctx : CallContext} {a : Applied}
    (success : Reduce.exec (Reducer.dispatch call ctx) s = (.ok a, s')) :
    Mirrored (L ++ a.logs) (F ++ TransitionFact.ofLogs a.logs ctx.time) s' := by
  cases call with
  | createEvent d =>
      rw [Reducer.dispatch, Reducer.createEvent_exec, Prod.mk.injEq, Except.ok.injEq] at success
      obtain ⟨rfl, rfl⟩ := success
      exact ⟨inv.events.push_one _ rfl rfl rfl rfl rfl, inv.tickets.quiet_one rfl,
        inv.listings.quiet_one rfl, inv.holders.quiet_one rfl⟩
  | setMinter scope minter enabled =>
      obtain ⟨-, ⟨-, rfl, rfl⟩ | ⟨-, rfl, rfl⟩⟩ := Reducer.setMinter_ok success <;>
        exact inv.frame ctx.time (by simp [TransitionFact.ofLog]) rfl rfl rfl rfl rfl rfl
  | mintTicket eventId recipient seat metadata =>
      obtain ⟨e, -, -, -, -, -, rfl, rfl⟩ := Reducer.mintTicket_ok success
      -- the event counts one more mint, which no fact tells: its key, event and flag stay
      exact ⟨inv.events.keep (fun f mem => by rw [List.mem_singleton.mp mem]; rfl) _
          (fun x => by split <;> rfl) (fun x => rfl) (fun x => by split <;> rfl),
        inv.tickets.push_one _ rfl rfl rfl rfl rfl, inv.listings.quiet_one rfl,
        inv.holders.push_one _ rfl rfl rfl rfl rfl⟩
  | approve id operator =>
      obtain ⟨T, -, -, -, -, rfl, rfl⟩ := Reducer.approve_ok success
      obtain ⟨approvals, approved⟩ := s.setApproval_eq id operator
      rw [approved]
      exact inv.frame ctx.time (by simp [TransitionFact.ofLog]) rfl rfl rfl rfl rfl rfl
  | transferTicket id recipient =>
      obtain ⟨T, -, found, owned, -, -, rfl, rfl⟩ := Reducer.transferTicket_ok success
      exact inv.moveTicket found owned recipient ctx.time
  | createListing id price =>
      obtain ⟨T, e, -, -, -, -, -, -, -, -, rfl, rfl⟩ := Reducer.createListing_ok success
      exact ⟨inv.events.quiet_one rfl, inv.tickets.quiet_one rfl,
        inv.listings.push_one _ rfl rfl rfl rfl rfl, inv.holders.quiet_one rfl⟩
  | purchaseListing lid payment =>
      obtain ⟨Lst, e, moveLogs, moved, -, found, active, -, -, -, -, move, rfl, rfl⟩ :=
        Reducer.purchaseListing_ok success
      exact inv.purchase lock found active move _ ctx.time
  | cancelListing lid =>
      obtain ⟨Lst, found, -, -, rfl, rfl⟩ := Reducer.cancelListing_ok success
      exact inv.closeListing found Lst.ticketId _ ctx.time rfl rfl (by decide)
  | pauseEvent id | unpauseEvent id =>
      obtain ⟨e, found, -, rfl, rfl⟩ := Reducer.setEventPaused_ok success
      exact inv.setEventPaused found _ ctx.time
  | setTransfersPaused paused | setMarketplacePaused paused | setPlatformFee fee
  | setPlatformAddress address =>
      obtain ⟨-, rfl, rfl⟩ := Reducer.ownerOnly_ok success
      exact inv.frame ctx.time (by simp [TransitionFact.ofLog]) rfl rfl rfl rfl rfl rfl
  | markUsed id | revokeTicket id =>
      obtain ⟨T, e, found, -, -, -, -, rfl, rfl⟩ := Reducer.finaliseTicket_ok success
      exact inv.finaliseTicket found (by decide) ctx.time

/-- Every run from a reachable state keeps the mirror, with the logs of the calls it
accepted and their facts appended. -/
theorem replay {g : Genesis} (inv : Mirrored L F s) (reach : Reachable g s)
    (steps : List LedgerStep) :
    Mirrored (L ++ s.runLogs steps) (F ++ s.runFacts steps) (s.replay steps) := by
  induction steps generalizing s L F with
  | nil => simpa [runLogs, runFacts, acceptedLogs] using inv
  | cons step rest ih =>
      cases step with
      | call call ctx =>
          rcases s.run_verdict call ctx with ⟨e, refused⟩ | ⟨a, s', accepted, -, ran⟩
          · have later := ih inv (reach.of_run refused)
            simpa [runLogs, runFacts, acceptedLogs, advance, refused] using later
          · have later := ih (inv.dispatch (ListingLock.of_reachable reach) ran)
              (reach.of_run accepted)
            simpa [runLogs, runFacts, acceptedLogs, advance, accepted] using later
      | fund account amount =>
          have later := ih (inv.fund account amount) (reach.advance (.fund account amount))
          simpa [runLogs, runFacts, acceptedLogs, advance] using later

end Mirrored

/-! ## Reading the record back -/

open TransitionFact in
/-- Logs and facts that record every transition of a state: the facts are about exactly
its records, and each record's facts open with its birth, end on its status and name its
event; each ticket's mint and transfer logs end on its owner. -/
structure CompleteRecord (logs : List LedgerLog) (facts : List TransitionFact)
    (s : SettlementState) : Prop where
  about : ∀ f ∈ facts, f.entityId ∈ s.recordIds f.entityType
  born : ∀ type, ∀ id ∈ s.recordIds type,
    (history facts type id).head?.map (·.newState) = some type.firstState
  paused : ∀ e ∈ s.events, e.paused = true ↔ lastState facts .event e.id.val = some .paused
  ticketStatus : ∀ t ∈ s.tickets,
    (t.status = .owned ↔ lastState facts .ticket t.id.val = some .minted ∨
      lastState facts .ticket t.id.val = some .transferred) ∧
    (t.status = .used ↔ lastState facts .ticket t.id.val = some .used) ∧
    (t.status = .revoked ↔ lastState facts .ticket t.id.val = some .revoked)
  listingStatus : ∀ l ∈ s.listings,
    (l.status = .active ↔ lastState facts .listing l.id.val = some .active) ∧
    (l.status = .sold ↔ lastState facts .listing l.id.val = some .sold) ∧
    (l.status = .cancelled ↔ lastState facts .listing l.id.val = some .cancelled)
  eventBare : ∀ f ∈ facts, f.entityType = .event → f.eventId = none
  ticketEvent : ∀ t ∈ s.tickets, ∀ f ∈ history facts .ticket t.id.val, f.eventId = some t.eventId
  listingEvent : ∀ l ∈ s.listings, ∀ f ∈ history facts .listing l.id.val,
    f.eventId = some l.eventId
  owner : ∀ t ∈ s.tickets, ∃ minter, logs.filterMap (·.mintedTo? t.id) = [minter] ∧
    t.owner = (logs.filterMap (·.transferredTo? t.id)).getLast?.getD minter

section FactKinds

variable {α σ : Type} {kind : RecordKind TransitionFact α σ} {type : EntityType}
  {F : List TransitionFact} {x : α}

/-- A record told by a kind of facts has a history that opens with its birth. -/
theorem history_opens (subject : kind.subject = TransitionFact.subjectOf type) {st : FactState}
    (birth : ∀ f, kind.isBirth f = (f.newState == st)) (told : kind.Told F x) :
    (TransitionFact.history F type (kind.key x)).head?.map (·.newState) = some st := by
  have born := told.born
  rw [story_subjectOf subject] at born
  cases h : TransitionFact.history F type (kind.key x) with
  | nil => simp [h] at born
  | cons f rest =>
      rw [h] at born
      simpa [birth] using born

/-- A record told by a kind of facts is left by its last fact in a state that reads as its
status. -/
theorem lastState_reads (subject : kind.subject = TransitionFact.subjectOf type)
    (read : FactState → Option σ) (reads : ∀ f, kind.reads f = read f.newState)
    (told : kind.Told F x) :
    ∃ st, TransitionFact.lastState F type (kind.key x) = some st ∧
      read st = some (kind.status x) := by
  have current := told.current
  rw [story_subjectOf subject] at current
  unfold TransitionFact.lastState
  cases h : (TransitionFact.history F type (kind.key x)).getLast? with
  | none => simp [h] at current
  | some f =>
      rw [h] at current
      exact ⟨f.newState, rfl, by simpa [reads] using current⟩

end FactKinds

theorem TicketId.val_injective : Function.Injective TicketId.val :=
  fun ⟨_⟩ ⟨_⟩ same => congrArg TicketId.mk same

/-- A log about a ticket gives it to an account: by its mint, the only birth, or by a
transfer. -/
theorem holder_entry {l : LedgerLog} {id : TicketId} (about : holderLogs.subject l = some id.val) :
    ∃ a, holderLogs.reads l = some a ∧
      l.mintedTo? id = (if holderLogs.isBirth l then some a else none) ∧
      l.transferredTo? id = (if holderLogs.isBirth l then none else some a) := by
  cases l
  case ticketMinted t e seat owner =>
    obtain rfl : t = id := TicketId.val_injective (Option.some.inj about)
    exact ⟨owner, rfl, by simp [LedgerLog.mintedTo?, holderLogs],
      by simp [LedgerLog.transferredTo?, holderLogs]⟩
  case ticketTransferred t e src dst =>
    obtain rfl : t = id := TicketId.val_injective (Option.some.inj about)
    exact ⟨dst, rfl, by simp [LedgerLog.mintedTo?, holderLogs],
      by simp [LedgerLog.transferredTo?, holderLogs]⟩
  -- every other log hands nothing over
  all_goals cases about

theorem getLast?_filterMap_of_isSome {α β : Type} {f : α → Option β} {xs : List α}
    (defined : ∀ x ∈ xs, (f x).isSome) : (xs.filterMap f).getLast? = xs.getLast?.bind f := by
  rw [List.getLast?_filterMap, List.getLast?_eq_head?_reverse]
  cases h : xs.reverse with
  | nil => rfl
  | cons y ys =>
      obtain ⟨b, hb⟩ := Option.isSome_iff_exists.mp
        (defined y (List.mem_reverse.mp (by rw [h]; exact List.mem_cons_self)))
      simp [hb]

/-- A ticket told by its holder logs was minted to one account, and its owner is the
recipient of its last transfer, or that account if it never moved. -/
theorem owner_of_told {L : List LedgerLog} {t : Ticket} (told : holderLogs.Told L t) :
    ∃ minter, L.filterMap (·.mintedTo? t.id) = [minter] ∧
      t.owner = (L.filterMap (·.transferredTo? t.id)).getLast?.getD minter := by
  obtain ⟨born, once, -, current⟩ := told
  have key : holderLogs.key t = t.id.val := rfl
  have status : holderLogs.status t = t.owner := rfl
  rw [key] at born once current
  rw [status] at current
  -- only the logs about the ticket mint or move it
  have mintAbout : ∀ l a, l.mintedTo? t.id = some a → holderLogs.subject l = some t.id.val := by
    intro l a minted
    cases l <;> simp [LedgerLog.mintedTo?] at minted
    obtain ⟨rfl, -⟩ := minted
    rfl
  have moveAbout : ∀ l a, l.transferredTo? t.id = some a →
      holderLogs.subject l = some t.id.val := by
    intro l a moved
    cases l <;> simp [LedgerLog.transferredTo?] at moved
    obtain ⟨rfl, -⟩ := moved
    rfl
  rw [RecordKind.filterMap_story L _ _ mintAbout, RecordKind.filterMap_story L _ _ moveAbout]
  have entry : ∀ l ∈ holderLogs.story L t.id.val, ∃ a, holderLogs.reads l = some a ∧
      l.mintedTo? t.id = (if holderLogs.isBirth l then some a else none) ∧
      l.transferredTo? t.id = (if holderLogs.isBirth l then none else some a) :=
    fun l mem => holder_entry (RecordKind.mem_story.mp mem).2
  obtain ⟨b, rest, split⟩ : ∃ b rest, holderLogs.story L t.id.val = b :: rest := by
    cases h : holderLogs.story L t.id.val with
    | nil => simp [h] at born
    | cons b rest => exact ⟨b, rest, rfl⟩
  rw [split] at born once current entry ⊢
  have birth : holderLogs.isBirth b = true := by simpa using born
  obtain ⟨minter, readsB, mintedB, movedB⟩ := entry b List.mem_cons_self
  -- every later log is a transfer, which reads as the account it moves the ticket to
  have later : ∀ l ∈ rest, l.mintedTo? t.id = none ∧
      l.transferredTo? t.id = holderLogs.reads l ∧ (holderLogs.reads l).isSome := by
    intro l mem
    obtain ⟨a, readsL, mintedL, movedL⟩ := entry l (List.mem_cons_of_mem b mem)
    have notBirth : holderLogs.isBirth l = false := once l mem
    simp [notBirth] at mintedL movedL
    simp [mintedL, movedL, readsL]
  refine ⟨minter, ?_, ?_⟩
  · rw [List.filterMap_cons, mintedB, if_pos birth,
      List.filterMap_eq_nil_iff.mpr fun l mem => (later l mem).1]
  · rw [List.filterMap_cons, movedB, if_pos birth,
      List.filterMap_congr fun l mem => (later l mem).2.1,
      getLast?_filterMap_of_isSome fun l mem => (later l mem).2.2]
    cases rest with
    | nil =>
        simp only [List.getLast?_singleton, Option.bind_some, readsB, Option.some.injEq] at current
        simp [current]
    | cons l more =>
        rw [List.getLast?_cons_cons] at current
        rw [current]
        rfl

namespace Mirrored

variable {L : List LedgerLog} {F : List TransitionFact} {s : SettlementState}

/-- Mirrored tables are completely recorded by their log and its facts. -/
theorem complete (inv : Mirrored L F s) : CompleteRecord L F s where
  about f mem := by
    have subject : ∀ type, f.entityType = type →
        TransitionFact.subjectOf type f = some f.entityId := fun type same => by
      simp [TransitionFact.subjectOf, same]
    cases type : f.entityType with
    | event => exact inv.events.mem_keys mem (subject .event type)
    | ticket => exact inv.tickets.mem_keys mem (subject .ticket type)
    | listing => exact inv.listings.mem_keys mem (subject .listing type)
  born type id mem := by
    cases type with
    | event =>
        obtain ⟨e, memE, rfl⟩ := List.mem_map.mp mem
        exact history_opens rfl (fun _ => rfl) (inv.events.told e memE)
    | ticket =>
        obtain ⟨t, memT, rfl⟩ := List.mem_map.mp mem
        exact history_opens rfl (fun _ => rfl) (inv.tickets.told t memT)
    | listing =>
        obtain ⟨l, memL, rfl⟩ := List.mem_map.mp mem
        exact history_opens rfl (fun _ => rfl) (inv.listings.told l memL)
  paused e mem := by
    obtain ⟨st, last, reads⟩ : ∃ st, TransitionFact.lastState F .event e.id.val = some st ∧
        st.pausedFlag? = some e.paused :=
      lastState_reads rfl FactState.pausedFlag? (fun _ => rfl) (inv.events.told e mem)
    rw [last, Option.some.injEq]
    exact FactState.pausedFlag?_eq_some reads
  ticketStatus t mem := by
    obtain ⟨st, last, reads⟩ : ∃ st, TransitionFact.lastState F .ticket t.id.val = some st ∧
        st.ticketStatus? = some t.status :=
      lastState_reads rfl FactState.ticketStatus? (fun _ => rfl) (inv.tickets.told t mem)
    rw [last]
    simpa using FactState.ticketStatus?_eq_some reads
  listingStatus l mem := by
    obtain ⟨st, last, reads⟩ : ∃ st, TransitionFact.lastState F .listing l.id.val = some st ∧
        st.listingStatus? = some l.status :=
      lastState_reads rfl FactState.listingStatus? (fun _ => rfl) (inv.listings.told l mem)
    rw [last]
    simpa using FactState.listingStatus?_eq_some reads
  eventBare f mem type := by
    have subject : eventFacts.subject f = some f.entityId := by
      simp [eventFacts, TransitionFact.subjectOf, type]
    obtain ⟨e, memE, same⟩ := inv.events.complete f mem f.entityId subject
    have about : f ∈ eventFacts.story F (eventFacts.key e) :=
      RecordKind.mem_story.mpr ⟨mem, by rw [same]; exact subject⟩
    exact (inv.events.told e memE).event f about
  ticketEvent t mem f about := by
    rw [← ticketFacts_story] at about
    exact (inv.tickets.told t mem).event f about
  listingEvent l mem f about := by
    rw [← listingFacts_story] at about
    exact (inv.listings.told l mem).event f about
  owner t mem := owner_of_told (inv.holders.told t mem)

end Mirrored

/-- Logs and transition facts record every transition of a ledger. After any run from
genesis, the facts of the accepted calls are about exactly the events, tickets and
listings of the state reached; each record's facts open with its birth, name its event
(none for an event's own), and end in a state that says its status; and each ticket was
minted to one account and is owned by the recipient of its last transfer, or by that
account if it never moved. -/
theorem run_records_every_transition (g : Genesis) (steps : List LedgerStep) :
    CompleteRecord ((SettlementState.genesis g).runLogs steps)
      ((SettlementState.genesis g).runFacts steps) ((SettlementState.genesis g).replay steps) := by
  have mirrored := (Mirrored.genesis g).replay Reachable.genesis steps
  rw [List.nil_append, List.nil_append] at mirrored
  exact mirrored.complete

end TicketMarket
