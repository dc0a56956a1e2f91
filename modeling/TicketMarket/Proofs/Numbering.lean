import Mathlib
import TicketMarket.Proofs.History

/-! # Records are numbered densely and never renumbered

Events, tickets and listings each have a counter: the number the next record of the table
will get. After any run from deployment the records of each table are numbered 1, 2, … in
the order they were created, with the counter just past the last (`DenseIds`). Only the
call that creates a record of a table appends to it, under the counter, and moves the
counter on by one; every other write changes records in place without touching their
numbers (`DenseIds.dispatch`). So each creation answers and logs the number its counter
held, that number was free, and the new record joins the table after all the old ones,
which stay as they were: no record is ever overwritten (`ids_allocated_densely`). -/
set_option autoImplicit false
namespace TicketMarket

/-- Keys numbered 1, 2, … in order, with the counter just past the last. -/
structure Numbered (keys : List Nat) (next : Nat) : Prop where
  dense : keys = List.range' 1 keys.length
  counter : next = keys.length + 1

namespace Numbered

variable {keys : List Nat} {next : Nat}

theorem start : Numbered [] 1 := ⟨rfl, rfl⟩

/-- Issuing the counter's key appends it and moves the counter on. -/
theorem push (numbered : Numbered keys next) : Numbered (keys ++ [next]) (next + 1) := by
  obtain ⟨dense, rfl⟩ := numbered
  constructor
  · rw [List.length_append, List.length_singleton, List.range'_concat, ← dense]
    simp [Nat.add_comm]
  · simp

theorem eq_range (numbered : Numbered keys next) : keys = List.range' 1 (next - 1) := by
  rw [numbered.counter, Nat.add_sub_cancel]
  exact numbered.dense

/-- The counter's key is not issued yet. -/
theorem fresh (numbered : Numbered keys next) : next ∉ keys := by
  rw [numbered.dense, List.mem_range'_1, numbered.counter]
  omega

end Numbered

theorem find?_eq_none_of_unnumbered {α κ : Type} [DecidableEq κ] (key : α → κ) (val : κ → Nat)
    (mk : Nat → κ) (val_mk : ∀ n, val (mk n) = n) (xs : List α) {n : Nat}
    (fresh : n ∉ xs.map fun x => val (key x)) : xs.find? (fun x => key x == mk n) = none := by
  rw [List.find?_eq_none]
  intro x mem same
  have numbered : val (key x) = n := by rw [beq_iff_eq.mp same, val_mk]
  exact fresh (List.mem_map.mpr ⟨x, mem, numbered⟩)

namespace SettlementState

variable (s : SettlementState)

theorem event?_of_unnumbered {n : Nat} (fresh : n ∉ s.events.map (·.id.val)) :
    s.event? ⟨n⟩ = none :=
  find?_eq_none_of_unnumbered Event.id EventId.val EventId.mk (fun _ => rfl) s.events fresh

theorem ticket?_of_unnumbered {n : Nat} (fresh : n ∉ s.tickets.map (·.id.val)) :
    s.ticket? ⟨n⟩ = none :=
  find?_eq_none_of_unnumbered Ticket.id TicketId.val TicketId.mk (fun _ => rfl) s.tickets fresh

theorem listing?_of_unnumbered {n : Nat} (fresh : n ∉ s.listings.map (·.id.val)) :
    s.listing? ⟨n⟩ = none :=
  find?_eq_none_of_unnumbered Listing.id ListingId.val ListingId.mk (fun _ => rfl) s.listings
    fresh

end SettlementState

/-- Each table of a state is numbered from 1 in order of creation, up to its counter. -/
structure DenseIds (s : SettlementState) : Prop where
  events : Numbered (s.events.map (·.id.val)) s.nextEventId
  tickets : Numbered (s.tickets.map (·.id.val)) s.nextTicketId
  listings : Numbered (s.listings.map (·.id.val)) s.nextListingId

namespace DenseIds

open SettlementState

variable {s s' : SettlementState}

theorem genesis (g : Genesis) : DenseIds (SettlementState.genesis g) :=
  ⟨.start, .start, .start⟩

/-- A write that leaves the tables and their counters alone keeps the numbering. -/
theorem of_frame (inv : DenseIds s) (events : s'.events = s.events)
    (tickets : s'.tickets = s.tickets) (listings : s'.listings = s.listings)
    (nextEvent : s'.nextEventId = s.nextEventId) (nextTicket : s'.nextTicketId = s.nextTicketId)
    (nextListing : s'.nextListingId = s.nextListingId) : DenseIds s' := by
  obtain ⟨e, t, l⟩ := inv
  rw [← events, ← nextEvent] at e
  rw [← tickets, ← nextTicket] at t
  rw [← listings, ← nextListing] at l
  exact ⟨e, t, l⟩

theorem updateEvent (inv : DenseIds s) (id : EventId) (f : Event → Event)
    (keeps : ∀ e, (f e).id = e.id) : DenseIds (s.updateEvent id f) := by
  refine ⟨?_, inv.tickets, inv.listings⟩
  rw [SettlementState.updateEvent,
    map_update_read Event.id (·.id.val) s.events id f fun e => by rw [keeps]]
  exact inv.events

/-- Changing a ticket in place and rewriting the approvals keeps the numbering; transfers,
uses and revocations write this way. -/
theorem updateTicket (inv : DenseIds s) (id : TicketId) (f : Ticket → Ticket)
    (keeps : ∀ t, (f t).id = t.id) (approvals : List (TicketId × Address)) :
    DenseIds { s.updateTicket id f with approvals } := by
  refine ⟨inv.events, ?_, inv.listings⟩
  show Numbered ((s.tickets.map fun t => if t.id == id then f t else t).map (·.id.val))
    s.nextTicketId
  rw [map_update_read Ticket.id (·.id.val) s.tickets id f fun t => by rw [keeps]]
  exact inv.tickets

theorem closeListing (inv : DenseIds s) (lid : ListingId) (ticket : TicketId)
    (status : ListingStatus) : DenseIds (s.closeListing lid ticket status) := by
  refine ⟨inv.events, inv.tickets, ?_⟩
  show Numbered ((s.listings.map fun l => if l.id == lid then { l with status } else l).map
    (·.id.val)) s.nextListingId
  rw [map_update_read Listing.id (·.id.val) s.listings lid (fun l => { l with status })
    fun _ => rfl]
  exact inv.listings

theorem creditAll (inv : DenseIds s) (ps : List (Address × Wei × PaymentReason)) :
    DenseIds (s.creditAll ps) := by
  obtain ⟨balances, credited⟩ := s.creditAll_eq ps
  rw [credited]
  exact inv.of_frame rfl rfl rfl rfl rfl rfl

theorem moveTicket (inv : DenseIds s) {id : TicketId} {recipient : Address}
    {logs : List LedgerLog} (move : Reduce.exec (Reducer.moveTicket id recipient) s = (.ok logs, s')) :
    DenseIds s' := by
  rw [Reducer.moveTicket_exec] at move
  cases found : s.ticket? id with
  | none =>
      rw [found, Prod.mk.injEq] at move
      obtain ⟨-, rfl⟩ := move
      exact inv
  | some t =>
      rw [found, Prod.mk.injEq] at move
      obtain ⟨-, rfl⟩ := move
      exact inv.updateTicket id _ (by intro _; rfl) _

/-- Every accepted call keeps the numbering: the three creations append under their
counter, and every other handler writes in place. -/
theorem dispatch (inv : DenseIds s) {call : LedgerCall} {ctx : CallContext} {a : Applied}
    (success : Reduce.exec (Reducer.dispatch call ctx) s = (.ok a, s')) : DenseIds s' := by
  cases call with
  | createEvent d =>
      rw [Reducer.dispatch, Reducer.createEvent_exec, Prod.mk.injEq] at success
      obtain ⟨-, rfl⟩ := success
      refine ⟨?_, inv.tickets, inv.listings⟩
      simpa using inv.events.push
  | mintTicket eventId recipient seat metadata =>
      obtain ⟨e, -, -, -, -, -, -, rfl⟩ := Reducer.mintTicket_ok success
      have events := inv.updateEvent eventId (fun e => { e with minted := e.minted + 1 })
        fun _ => rfl
      refine ⟨events.events, ?_, inv.listings⟩
      simpa using inv.tickets.push
  | createListing id price =>
      obtain ⟨T, e, -, -, -, -, -, -, -, -, -, rfl⟩ := Reducer.createListing_ok success
      refine ⟨inv.events, inv.tickets, ?_⟩
      simpa using inv.listings.push
  | setMinter scope minter enabled =>
      obtain ⟨-, ⟨-, -, rfl⟩ | ⟨-, -, rfl⟩⟩ := Reducer.setMinter_ok success
      · exact inv
      · exact inv.of_frame rfl rfl rfl rfl rfl rfl
  | approve id operator =>
      obtain ⟨T, -, -, -, -, -, rfl⟩ := Reducer.approve_ok success
      obtain ⟨approvals, approved⟩ := s.setApproval_eq id operator
      rw [approved]
      exact inv.of_frame rfl rfl rfl rfl rfl rfl
  | transferTicket id recipient =>
      obtain ⟨T, -, -, -, -, -, -, rfl⟩ := Reducer.transferTicket_ok success
      exact inv.updateTicket id _ (by intro _; rfl) _
  | purchaseListing lid payment =>
      obtain ⟨L, e, logs, moved, -, -, -, -, -, -, -, move, -, rfl⟩ :=
        Reducer.purchaseListing_ok success
      -- the debit only touches balances, the move changes a ticket in place
      have debited : DenseIds (s.debit ctx.caller payment) :=
        inv.of_frame rfl rfl rfl rfl rfl rfl
      exact ((debited.moveTicket move).creditAll _).closeListing lid L.ticketId .sold
  | cancelListing lid =>
      obtain ⟨L, -, -, -, -, rfl⟩ := Reducer.cancelListing_ok success
      exact inv.closeListing lid L.ticketId .cancelled
  | pauseEvent id | unpauseEvent id =>
      obtain ⟨e, -, -, -, rfl⟩ := Reducer.setEventPaused_ok success
      exact inv.updateEvent id _ fun _ => rfl
  | setTransfersPaused paused | setMarketplacePaused paused | setPlatformFee fee
  | setPlatformAddress address =>
      obtain ⟨-, -, rfl⟩ := Reducer.ownerOnly_ok success
      exact inv.of_frame rfl rfl rfl rfl rfl rfl
  | markUsed id | revokeTicket id =>
      obtain ⟨T, e, -, -, -, -, -, -, rfl⟩ := Reducer.finaliseTicket_ok success
      exact inv.updateTicket id _ (by intro _; rfl) _

theorem fund (inv : DenseIds s) (account : Address) (amount : Wei) :
    DenseIds (s.fund account amount) := by
  obtain ⟨balances, credited⟩ := s.credit_eq account amount
  rw [SettlementState.fund, credited]
  exact inv.of_frame rfl rfl rfl rfl rfl rfl

theorem of_reachable {g : Genesis} (reach : Reachable g s) : DenseIds s :=
  Reachable.induction (genesis g) (fun _ _ _ _ _ _ inv _ success => inv.dispatch success)
    (fun _ account amount _ inv => inv.fund account amount) reach

/-! ## Each creation takes its counter's number -/

variable {a : Applied}

theorem run_createEvent (inv : DenseIds s) {d : EventDraft} {ctx : CallContext}
    (accepted : s.run (.createEvent d) ctx = (.ok a, s')) :
    a.output = .eventCreated ⟨s.nextEventId⟩ ∧
      a.logs = [.eventCreated ⟨s.nextEventId⟩ ctx.caller d] ∧
      s.event? ⟨s.nextEventId⟩ = none ∧
      (∃ e : Event, e.id = ⟨s.nextEventId⟩ ∧ s'.events = s.events ++ [e]) ∧
      s'.nextEventId = s.nextEventId + 1 := by
  have ran := dispatch_of_run accepted
  rw [Reducer.dispatch, Reducer.createEvent_exec, Prod.mk.injEq] at ran
  obtain ⟨answered, rfl⟩ := ran
  cases answered
  exact ⟨rfl, rfl, s.event?_of_unnumbered inv.events.fresh, ⟨_, rfl, rfl⟩, rfl⟩

theorem run_mintTicket (inv : DenseIds s) {event : EventId} {recipient : Address}
    {seat : SeatId} {metadata : Option String} {ctx : CallContext}
    (accepted : s.run (.mintTicket event recipient seat metadata) ctx = (.ok a, s')) :
    a.output = .ticketMinted ⟨s.nextTicketId⟩ ∧
      a.logs = [.ticketMinted ⟨s.nextTicketId⟩ event seat recipient] ∧
      s.ticket? ⟨s.nextTicketId⟩ = none ∧
      (∃ t : Ticket, t.id = ⟨s.nextTicketId⟩ ∧ s'.tickets = s.tickets ++ [t]) ∧
      s'.nextTicketId = s.nextTicketId + 1 := by
  obtain ⟨e, -, -, -, -, -, rfl, rfl⟩ := Reducer.mintTicket_ok (dispatch_of_run accepted)
  exact ⟨rfl, rfl, s.ticket?_of_unnumbered inv.tickets.fresh, ⟨_, rfl, rfl⟩, rfl⟩

theorem run_createListing (inv : DenseIds s) {ticket : TicketId} {price : Wei}
    {ctx : CallContext} (accepted : s.run (.createListing ticket price) ctx = (.ok a, s')) :
    a.output = .listingCreated ⟨s.nextListingId⟩ ∧
      (∃ event, a.logs = [.listingCreated ⟨s.nextListingId⟩ ticket event ctx.caller price]) ∧
      s.listing? ⟨s.nextListingId⟩ = none ∧
      (∃ l : Listing, l.id = ⟨s.nextListingId⟩ ∧ s'.listings = s.listings ++ [l]) ∧
      s'.nextListingId = s.nextListingId + 1 := by
  obtain ⟨T, e, -, -, -, -, -, -, -, -, rfl, rfl⟩ :=
    Reducer.createListing_ok (dispatch_of_run accepted)
  exact ⟨rfl, ⟨_, rfl⟩, s.listing?_of_unnumbered inv.listings.fresh, ⟨_, rfl, rfl⟩, rfl⟩

end DenseIds

/-- Over every run from deployment, the events, tickets and listings are numbered exactly
1 up to one below their counters, in order of creation. Each accepted creation of an event,
a ticket or a listing answers and logs the number its counter held, which no record of the
table carried, appends its record under that number after all the old ones, which stay as
they were, and moves the counter on by one. -/
theorem ids_allocated_densely (g : Genesis) (steps : List LedgerStep) :
    let s := (SettlementState.genesis g).replay steps
    (s.events.map (·.id.val) = List.range' 1 (s.nextEventId - 1) ∧
      s.tickets.map (·.id.val) = List.range' 1 (s.nextTicketId - 1) ∧
      s.listings.map (·.id.val) = List.range' 1 (s.nextListingId - 1)) ∧
    (∀ (d : EventDraft) (ctx : CallContext) (a : Applied) (s' : SettlementState),
      s.run (.createEvent d) ctx = (.ok a, s') →
      a.output = .eventCreated ⟨s.nextEventId⟩ ∧
        a.logs = [.eventCreated ⟨s.nextEventId⟩ ctx.caller d] ∧
        s.event? ⟨s.nextEventId⟩ = none ∧
        (∃ e : Event, e.id = ⟨s.nextEventId⟩ ∧ s'.events = s.events ++ [e]) ∧
        s'.nextEventId = s.nextEventId + 1) ∧
    (∀ (event : EventId) (recipient : Address) (seat : SeatId) (metadata : Option String)
      (ctx : CallContext) (a : Applied) (s' : SettlementState),
      s.run (.mintTicket event recipient seat metadata) ctx = (.ok a, s') →
      a.output = .ticketMinted ⟨s.nextTicketId⟩ ∧
        a.logs = [.ticketMinted ⟨s.nextTicketId⟩ event seat recipient] ∧
        s.ticket? ⟨s.nextTicketId⟩ = none ∧
        (∃ t : Ticket, t.id = ⟨s.nextTicketId⟩ ∧ s'.tickets = s.tickets ++ [t]) ∧
        s'.nextTicketId = s.nextTicketId + 1) ∧
    (∀ (ticket : TicketId) (price : Wei) (ctx : CallContext) (a : Applied)
      (s' : SettlementState), s.run (.createListing ticket price) ctx = (.ok a, s') →
      a.output = .listingCreated ⟨s.nextListingId⟩ ∧
        (∃ event, a.logs = [.listingCreated ⟨s.nextListingId⟩ ticket event ctx.caller price]) ∧
        s.listing? ⟨s.nextListingId⟩ = none ∧
        (∃ l : Listing, l.id = ⟨s.nextListingId⟩ ∧ s'.listings = s.listings ++ [l]) ∧
        s'.nextListingId = s.nextListingId + 1) := by
  intro s
  have inv : DenseIds s := DenseIds.of_reachable (Reachable.genesis.replay steps)
  exact ⟨⟨inv.events.eq_range, inv.tickets.eq_range, inv.listings.eq_range⟩,
    fun _ _ _ _ accepted => inv.run_createEvent accepted,
    fun _ _ _ _ _ _ _ accepted => inv.run_mintTicket accepted,
    fun _ _ _ _ _ accepted => inv.run_createListing accepted⟩

/-- The first event created after deployment is numbered 1, logged under that number, and
is the only event, with the counter moved on to 2. -/
theorem first_event_numbered_one :
    let g : Genesis := ⟨⟨1⟩, ⟨7⟩, ⟨Bps.lit 250, ⟨6⟩⟩⟩
    let draft : EventDraft := ⟨⟨1⟩, 10, Bps.lit 500, Bps.lit 1000, ⟨3⟩, ⟨100, by decide⟩⟩
    let ctx : CallContext := ⟨⟨2⟩, ⟨0, 0, 0⟩⟩
    let created := (SettlementState.genesis g).run (.createEvent draft) ctx
    ∃ a, created.1 = .ok a ∧ a.output = .eventCreated ⟨1⟩ ∧
      a.logs = [.eventCreated ⟨1⟩ ⟨2⟩ draft] ∧
      (∃ e : Event, e.id = ⟨1⟩ ∧ created.2.events = [e]) ∧ created.2.nextEventId = 2 := by
  intro g draft ctx created
  obtain ⟨a, ran⟩ := run_eq_ok_of_isOk (by decide : created.1.isOk = true)
  obtain ⟨-, creates, -, -⟩ := ids_allocated_densely g []
  -- the fresh state has no events and its counter at 1
  obtain ⟨output, logs, -, appended, counter⟩ := creates draft ctx a _ ran
  exact ⟨a, congrArg Prod.fst ran, output, logs, appended, counter⟩

end TicketMarket
