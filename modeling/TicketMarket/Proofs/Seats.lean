import Mathlib
import TicketMarket.Proofs.History

/-! # Each seat is minted once

A mint checks that its seat is unused and its event not sold out, and only then records
the seat, appends the ticket and raises the event's counter. No other call creates or
drops a ticket or a seat, or changes the event or seat of a ticket, so over every run the
recorded seats and the seats of the tickets both grow by exactly the seats of the mints
the run accepted (`seats_replay`, `seatKeys_replay`). `SeatLedger` is what the checks
keep: the recorded seats are the tickets' seats, none twice, every ticket's event exists,
and each event's counter is the number of its tickets, within its supply.
`seat_minted_once` reads it back over every run from deployment: the mints a run
accepted name distinct seats and at most an event's supply of them, and once a seat is
minted every later mint of it is refused, whatever became of its ticket. -/
set_option autoImplicit false
namespace TicketMarket

open SettlementState

/-- The event and seat a ticket is for. -/
def Ticket.seatKey (t : Ticket) : EventId × SeatId := (t.eventId, t.seat)

/-- The event and seat a call mints, if it is a mint. -/
def LedgerCall.mintSeat? : LedgerCall → Option (EventId × SeatId)
  | .mintTicket event _ seat _ => some (event, seat)
  | _ => none

/-! ## Seats and tickets grow only by mints -/

section Growth

variable {s s' : SettlementState}

theorem seatKeys_updateTicket (id : TicketId) (f : Ticket → Ticket)
    (keeps : ∀ t, (f t).seatKey = t.seatKey) :
    (s.updateTicket id f).tickets.map Ticket.seatKey = s.tickets.map Ticket.seatKey :=
  map_update_read Ticket.id Ticket.seatKey s.tickets id f keeps

/-- Moving a ticket changes its owner and approval only. -/
theorem moveTicket_keeps_seats {id : TicketId} {recipient : Address} {logs : List LedgerLog}
    (move : Reduce.exec (Reducer.moveTicket id recipient) s = (.ok logs, s')) :
    s'.events = s.events ∧ s'.nextEventId = s.nextEventId ∧ s'.seats = s.seats ∧
      s'.tickets.map Ticket.seatKey = s.tickets.map Ticket.seatKey := by
  rw [Reducer.moveTicket_exec] at move
  cases found : s.ticket? id with
  | none =>
      rw [found, Prod.mk.injEq] at move
      obtain ⟨-, rfl⟩ := move
      exact ⟨rfl, rfl, rfl, rfl⟩
  | some t =>
      rw [found, Prod.mk.injEq] at move
      obtain ⟨-, rfl⟩ := move
      exact ⟨rfl, rfl, rfl, seatKeys_updateTicket id _ fun _ => rfl⟩

/-- An accepted call adds the seat it mints, if it is a mint, to the recorded seats and to
the seats of the tickets, and changes neither otherwise. -/
theorem dispatch_seats {call : LedgerCall} {ctx : CallContext} {a : Applied}
    (success : Reduce.exec (Reducer.dispatch call ctx) s = (.ok a, s')) :
    s'.seats = s.seats ++ call.mintSeat?.toList ∧
      s'.tickets.map Ticket.seatKey = s.tickets.map Ticket.seatKey ++ call.mintSeat?.toList := by
  cases call with
  | createEvent d =>
      rw [Reducer.dispatch, Reducer.createEvent_exec, Prod.mk.injEq] at success
      obtain ⟨-, rfl⟩ := success
      simp [LedgerCall.mintSeat?]
  | setMinter scope minter enabled =>
      obtain ⟨-, ⟨-, -, rfl⟩ | ⟨-, -, rfl⟩⟩ := Reducer.setMinter_ok success <;>
        simp [LedgerCall.mintSeat?]
  | mintTicket eventId recipient seat metadata =>
      obtain ⟨-, -, -, -, -, -, -, rfl⟩ := Reducer.mintTicket_ok success
      simp [LedgerCall.mintSeat?, Ticket.seatKey]
  | approve id operator =>
      obtain ⟨-, -, -, -, -, -, rfl⟩ := Reducer.approve_ok success
      cases operator <;> simp [LedgerCall.mintSeat?, setApproval]
  | transferTicket id recipient =>
      obtain ⟨-, -, -, -, -, -, -, rfl⟩ := Reducer.transferTicket_ok success
      simp only [LedgerCall.mintSeat?, Option.toList, List.append_nil]
      exact ⟨rfl, seatKeys_updateTicket id _ fun _ => rfl⟩
  | createListing id price =>
      obtain ⟨-, -, -, -, -, -, -, -, -, -, -, rfl⟩ := Reducer.createListing_ok success
      simp [LedgerCall.mintSeat?]
  | purchaseListing lid payment =>
      obtain ⟨L, e, logs, moved, -, -, -, -, -, -, -, move, -, rfl⟩ :=
        Reducer.purchaseListing_ok success
      obtain ⟨-, -, seats, keys⟩ := moveTicket_keeps_seats move
      obtain ⟨balances, credited⟩ := SettlementState.creditAll_eq moved
        (Reducer.payouts (Reducer.settlement ctx.caller lid payment L e s.platform))
      rw [credited]
      simp only [LedgerCall.mintSeat?, Option.toList, List.append_nil]
      exact ⟨seats, keys⟩
  | cancelListing lid =>
      obtain ⟨-, -, -, -, -, rfl⟩ := Reducer.cancelListing_ok success
      simp [LedgerCall.mintSeat?, closeListing, updateListing]
  | pauseEvent id | unpauseEvent id =>
      obtain ⟨-, -, -, -, rfl⟩ := Reducer.setEventPaused_ok success
      simp [LedgerCall.mintSeat?, updateEvent]
  | setTransfersPaused paused | setMarketplacePaused paused | setPlatformFee fee
  | setPlatformAddress address =>
      obtain ⟨-, -, rfl⟩ := Reducer.ownerOnly_ok success
      simp [LedgerCall.mintSeat?]
  | markUsed id | revokeTicket id =>
      obtain ⟨-, -, -, -, -, -, -, -, rfl⟩ := Reducer.finaliseTicket_ok success
      simp only [LedgerCall.mintSeat?, Option.toList, List.append_nil]
      exact ⟨rfl, seatKeys_updateTicket id _ fun _ => rfl⟩

theorem fund_seats (account : Address) (amount : Wei) :
    (s.fund account amount).seats = s.seats ∧
      (s.fund account amount).tickets = s.tickets := by
  obtain ⟨balances, credited⟩ := s.credit_eq account amount
  rw [SettlementState.fund, credited]
  exact ⟨rfl, rfl⟩

/-- Over a run the recorded seats grow by the seats of the accepted mints, in order. -/
theorem seats_replay (s : SettlementState) (steps : List LedgerStep) :
    (s.replay steps).seats = s.seats ++ (s.acceptedCalls steps).filterMap LedgerCall.mintSeat? :=
  view_replay (·.seats) LedgerCall.mintSeat? (fun _ _ _ _ _ ran => (dispatch_seats ran).1)
    (fun s account amount => (fund_seats (s := s) account amount).1) s steps

/-- Over a run the seats of the tickets grow by the seats of the accepted mints, in order. -/
theorem seatKeys_replay (s : SettlementState) (steps : List LedgerStep) :
    (s.replay steps).tickets.map Ticket.seatKey =
      s.tickets.map Ticket.seatKey ++ (s.acceptedCalls steps).filterMap LedgerCall.mintSeat? :=
  view_replay (·.tickets.map Ticket.seatKey) LedgerCall.mintSeat?
    (fun _ _ _ _ _ ran => (dispatch_seats ran).2)
    (fun s account amount => by rw [(fund_seats (s := s) account amount).2]) s steps

end Growth

/-! ## A minted seat refuses every later mint -/

/-- A mint of a seat already minted is refused before anything is written: the event must
exist and the caller may mint for it and it is not paused, and then the seat is found
taken. -/
theorem mintTicket_exec_of_minted {s : SettlementState} {caller : Address} {event : EventId}
    {recipient : Address} {seat : SeatId} {metadata : Option String} {time : Instant}
    (minted : s.isSeatMinted event seat = true) :
    Reduce.exec (Reducer.mintTicket caller event recipient seat metadata time) s =
      (.error (match s.event? event with
        | none => .eventDoesNotExist event
        | some e => if !s.canMint e caller then .notAuthorizedMinter event
          else if e.paused then .eventIsPaused event else .seatAlreadyMinted event seat), s) := by
  simp only [Reducer.mintTicket, Reduce.exec_bind, Reduce.exec_get, Reduce.exec_liftExcept,
    Reduce.exec_ite, Reduce.exec_throw, requireEvent]
  cases found : s.event? event with
  | none => rfl
  | some e =>
      by_cases refused : (!s.canMint e caller) = true
      · simp [refused]
      · by_cases paused : e.paused = true
        · simp [refused, paused]
        · simp [refused, paused, minted]

/-- Every mint of a recorded seat is refused and changes nothing; if the call is valid, the
event exists, the caller may mint for it and it is not paused, the refusal is that the seat
is already minted. -/
theorem run_mint_of_seat_recorded {s : SettlementState} {event : EventId} {seat : SeatId}
    (recorded : (event, seat) ∈ s.seats) (recipient : Address) (metadata : Option String)
    (ctx : CallContext) :
    ∃ err, s.run (.mintTicket event recipient seat metadata) ctx = (.error err, s) ∧
      (validateCall (.mintTicket event recipient seat metadata) = .ok () →
        ∀ e, s.event? event = some e → s.canMint e ctx.caller = true → e.paused = false →
          err = .seatAlreadyMinted event seat) := by
  have minted : s.isSeatMinted event seat = true := by
    simpa [isSeatMinted] using recorded
  have ran : s.run (.mintTicket event recipient seat metadata) ctx =
      Reduce.exec (Reducer.reduce (.mintTicket event recipient seat metadata) ctx) s := rfl
  rw [ran, Reducer.reduce_exec]
  cases valid : validateCall (.mintTicket event recipient seat metadata) with
  | error err => exact ⟨err, rfl, fun ok => by cases ok⟩
  | ok u =>
      simp only [Reducer.dispatch, mintTicket_exec_of_minted minted]
      refine ⟨_, rfl, fun _ e found canMint unpaused => ?_⟩
      simp [found, canMint, unpaused]

/-- Once a mint of a seat is accepted, every later mint of that seat, however far into the
run, is refused as `run_mint_of_seat_recorded` says. -/
theorem run_mint_after_mint {s s₁ : SettlementState} {event : EventId} {seat : SeatId}
    {recipient : Address} {metadata : Option String} {ctx : CallContext} {a : Applied}
    (accepted : s.run (.mintTicket event recipient seat metadata) ctx = (.ok a, s₁))
    (more : List LedgerStep) (recipient' : Address) (metadata' : Option String)
    (ctx' : CallContext) :
    ∃ err, (s₁.replay more).run (.mintTicket event recipient' seat metadata') ctx' =
        (.error err, s₁.replay more) ∧
      (validateCall (.mintTicket event recipient' seat metadata') = .ok () →
        ∀ e, (s₁.replay more).event? event = some e →
          (s₁.replay more).canMint e ctx'.caller = true → e.paused = false →
          err = .seatAlreadyMinted event seat) := by
  obtain ⟨-, -, -, -, -, -, -, minted⟩ := Reducer.mintTicket_ok (dispatch_of_run accepted)
  -- the mint recorded its seat, and recorded seats are never dropped
  have recorded : (event, seat) ∈ (s₁.replay more).seats := by
    rw [seats_replay, minted]
    simp
  exact run_mint_of_seat_recorded recorded recipient' metadata' ctx'

/-! ## The seat ledger -/

/-- What the checks of a mint keep: the recorded seats are the tickets' seats, none twice,
every ticket's event exists, and each event counts its tickets within its supply. -/
structure SeatLedger (s : SettlementState) : Prop where
  /-- Events are kept in ascending order of id, so no id is used twice. -/
  ascending : (s.events.map (·.id)).Pairwise (fun a b => a.val < b.val)
  /-- Every event id is below the next one to be issued. -/
  belowNext : ∀ e ∈ s.events, e.id.val < s.nextEventId
  /-- The recorded seats are the seats of the tickets, in order. -/
  seats : s.seats = s.tickets.map Ticket.seatKey
  /-- No seat has two tickets. -/
  distinct : (s.tickets.map Ticket.seatKey).Nodup
  /-- Every ticket's event exists. -/
  eventOf : ∀ k ∈ s.tickets.map Ticket.seatKey, ∃ e ∈ s.events, e.id = k.1
  /-- Each event's counter is the number of its tickets, within its supply. -/
  minted : ∀ e ∈ s.events,
    e.minted = (s.tickets.map Ticket.seatKey).countP (·.1 = e.id) ∧ e.minted ≤ e.maxSupply

namespace SeatLedger

variable {s s' : SettlementState}

theorem genesis (g : Genesis) : SeatLedger (SettlementState.genesis g) where
  ascending := List.Pairwise.nil
  belowNext := by simp [SettlementState.genesis]
  seats := rfl
  distinct := List.nodup_nil
  eventOf := by simp [SettlementState.genesis]
  minted := by simp [SettlementState.genesis]

theorem ids_nodup (inv : SeatLedger s) : (s.events.map (·.id)).Nodup :=
  inv.ascending.imp fun {a b} lt same => by
    subst same
    exact Nat.lt_irrefl _ lt

theorem event_of_ticket (inv : SeatLedger s) {t : Ticket} (mem : t ∈ s.tickets) :
    ∃ e, s.event? t.eventId = some e := by
  obtain ⟨e, memE, sameId⟩ := inv.eventOf t.seatKey (List.mem_map_of_mem mem)
  have eventId : e.id = t.eventId := sameId
  exact ⟨e, by rw [← eventId]; exact s.event?_of_mem inv.ids_nodup memE⟩

/-- A write that keeps the events, the next event id, the recorded seats and the tickets'
seats keeps the ledger. -/
theorem of_frame (inv : SeatLedger s) (events : s'.events = s.events)
    (next : s'.nextEventId = s.nextEventId) (seats : s'.seats = s.seats)
    (keys : s'.tickets.map Ticket.seatKey = s.tickets.map Ticket.seatKey) : SeatLedger s' where
  ascending := by rw [events]; exact inv.ascending
  belowNext := by rw [events, next]; exact inv.belowNext
  seats := by rw [seats, keys]; exact inv.seats
  distinct := by rw [keys]; exact inv.distinct
  eventOf := by rw [keys, events]; exact inv.eventOf
  minted := by rw [keys, events]; exact inv.minted

/-- Changing events in place without touching their ids keeps the events' ids in order and
below the next one, and every ticket's event. -/
theorem updateEvent_ids (inv : SeatLedger s) (id : EventId) (f : Event → Event)
    (keeps : ∀ e, (f e).id = e.id) :
    ((s.updateEvent id f).events.map (·.id)).Pairwise (fun a b => a.val < b.val) ∧
      (∀ e ∈ (s.updateEvent id f).events, e.id.val < s.nextEventId) ∧
      ∀ k ∈ s.tickets.map Ticket.seatKey, ∃ e ∈ (s.updateEvent id f).events, e.id = k.1 := by
  have ids : (s.updateEvent id f).events.map (·.id) = s.events.map (·.id) :=
    map_update_read Event.id (·.id) s.events id f keeps
  refine ⟨by rw [ids]; exact inv.ascending, fun e mem => ?_, fun k mem => ?_⟩
  · obtain ⟨e₀, mem₀, sameId⟩ := List.mem_map.mp
      (ids ▸ List.mem_map_of_mem (f := (·.id)) mem : e.id ∈ s.events.map (·.id))
    rw [← sameId]
    exact inv.belowNext e₀ mem₀
  · obtain ⟨e₀, mem₀, sameId⟩ := inv.eventOf k mem
    obtain ⟨e, memE, sameE⟩ := List.mem_map.mp
      (ids ▸ List.mem_map_of_mem (f := (·.id)) mem₀ : e₀.id ∈ (s.updateEvent id f).events.map (·.id))
    exact ⟨e, memE, sameE.trans sameId⟩

/-- Changing events without touching their ids, counters or supplies keeps the ledger. -/
theorem updateEvent (inv : SeatLedger s) (id : EventId) (f : Event → Event)
    (keeps : ∀ e, (f e).id = e.id ∧ (f e).minted = e.minted ∧ (f e).maxSupply = e.maxSupply) :
    SeatLedger (s.updateEvent id f) := by
  obtain ⟨ascending, belowNext, eventOf⟩ := inv.updateEvent_ids id f fun e => (keeps e).1
  refine ⟨ascending, belowNext, inv.seats, inv.distinct, eventOf, fun e mem => ?_⟩
  simp only [SettlementState.updateEvent, List.mem_map] at mem
  obtain ⟨e₀, mem₀, rfl⟩ := mem
  -- the event is replaced by one that agrees with it on every field the ledger reads
  split
  · obtain ⟨sameId, sameMinted, sameSupply⟩ := keeps e₀
    rw [sameId, sameMinted, sameSupply]
    exact inv.minted e₀ mem₀
  · exact inv.minted e₀ mem₀

/-- A new event under the next id, with nothing minted, keeps the ledger. -/
theorem createEvent (inv : SeatLedger s) (new : Event) (fresh : new.id = ⟨s.nextEventId⟩)
    (unminted : new.minted = 0) :
    SeatLedger { s with nextEventId := s.nextEventId + 1, events := s.events ++ [new] } := by
  -- no ticket is for the new event yet, since every ticket's event has an older id
  have noTickets : (s.tickets.map Ticket.seatKey).countP (·.1 = new.id) = 0 := by
    rw [List.countP_eq_zero]
    intro k mem sameId
    obtain ⟨e, memE, eventId⟩ := inv.eventOf k mem
    have below := inv.belowNext e memE
    rw [eventId, decide_eq_true_eq.mp sameId, fresh] at below
    exact Nat.lt_irrefl _ below
  refine ⟨?_, ?_, inv.seats, inv.distinct, ?_, ?_⟩
  · simp only [List.map_append, List.map_singleton, List.pairwise_append,
      List.pairwise_singleton, List.mem_singleton, forall_eq, true_and, fresh]
    exact ⟨inv.ascending, fun a mem => by
      obtain ⟨e, memE, rfl⟩ := List.mem_map.mp mem
      exact inv.belowNext e memE⟩
  · intro e mem
    simp only [List.mem_append, List.mem_singleton] at mem
    rcases mem with old | rfl
    · exact Nat.lt_succ_of_lt (inv.belowNext e old)
    · rw [fresh]
      exact Nat.lt_succ_self _
  · intro k mem
    obtain ⟨e, memE, sameId⟩ := inv.eventOf k mem
    exact ⟨e, List.mem_append_left _ memE, sameId⟩
  · intro e mem
    simp only [List.mem_append, List.mem_singleton] at mem
    rcases mem with old | rfl
    · exact inv.minted e old
    · rw [noTickets, unminted]
      exact ⟨rfl, Nat.zero_le _⟩

/-- Minting a ticket for an unminted seat of an event that is not sold out keeps the
ledger: the seat is recorded, the ticket appended and the event's counter raised. -/
theorem mintTicket (inv : SeatLedger s) (t : Ticket) {e : Event}
    (found : s.event? t.eventId = some e) (unminted : s.isSeatMinted t.eventId t.seat = false)
    (room : e.isSoldOut = false) (nextTicket : Nat) :
    SeatLedger { s.updateEvent t.eventId (fun e => { e with minted := e.minted + 1 }) with
      nextTicketId := nextTicket, seats := s.seats ++ [t.seatKey], tickets := s.tickets ++ [t] } := by
  obtain ⟨ascending, belowNext, eventOf⟩ :=
    inv.updateEvent_ids t.eventId (fun e => { e with minted := e.minted + 1 }) fun _ => rfl
  have fresh : t.seatKey ∉ s.tickets.map Ticket.seatKey := by
    rw [← inv.seats]
    simpa [isSeatMinted, Ticket.seatKey] using unminted
  have memE : e ∈ s.events := List.mem_of_find?_eq_some found
  have eventId : e.id = t.eventId := by simpa using List.find?_some found
  -- the event found is the only one with its id, and it has room for one more ticket
  have only : ∀ e₀ ∈ s.events, e₀.id = t.eventId → e₀ = e := by
    intro e₀ mem₀ sameId
    exact List.inj_on_of_nodup_map inv.ids_nodup mem₀ memE (sameId.trans eventId.symm)
  have below : e.minted < e.maxSupply := by
    simpa [Event.isSoldOut] using room
  refine ⟨ascending, belowNext, ?_, ?_, ?_, ?_⟩
  · simp only [List.map_append, List.map_singleton, inv.seats]
  · simp only [List.map_append, List.map_singleton]
    exact List.nodup_append.mpr ⟨inv.distinct, List.nodup_singleton _,
      fun a mem b memB same => fresh (by rw [List.mem_singleton.mp memB] at same; rw [← same]; exact mem)⟩
  · intro k mem
    simp only [List.map_append, List.map_singleton, List.mem_append, List.mem_singleton] at mem
    rcases mem with old | rfl
    · exact eventOf k old
    · refine ⟨_, List.mem_map_of_mem memE, ?_⟩
      split <;> exact eventId
  · intro e' mem
    simp only [SettlementState.updateEvent, List.mem_map] at mem
    obtain ⟨e₀, mem₀, rfl⟩ := mem
    obtain ⟨counts, within⟩ := inv.minted e₀ mem₀
    simp only [List.map_append, List.map_singleton, List.countP_append, List.countP_singleton]
    by_cases mine : e₀.id = t.eventId
    · obtain rfl := only e₀ mem₀ mine
      simp only [mine, beq_self_eq_true, if_true, Ticket.seatKey, decide_true]
      exact ⟨by rw [counts, ← mine], by omega⟩
    · have other : ¬ t.eventId = e₀.id := fun same => mine same.symm
      simp only [mine, beq_iff_eq, if_false, Ticket.seatKey, other, decide_false]
      exact ⟨counts, within⟩

theorem fund (inv : SeatLedger s) (account : Address) (amount : Wei) :
    SeatLedger (s.fund account amount) := by
  obtain ⟨seats, tickets⟩ := fund_seats (s := s) account amount
  obtain ⟨balances, credited⟩ := s.credit_eq account amount
  exact inv.of_frame (by rw [SettlementState.fund, credited]) (by rw [SettlementState.fund, credited])
    seats (by rw [tickets])

/-- Every accepted call keeps the seat ledger. -/
theorem dispatch (inv : SeatLedger s) {call : LedgerCall} {ctx : CallContext} {a : Applied}
    (success : Reduce.exec (Reducer.dispatch call ctx) s = (.ok a, s')) : SeatLedger s' := by
  obtain ⟨seats, keys⟩ := dispatch_seats success
  cases call with
  | createEvent d =>
      rw [Reducer.dispatch, Reducer.createEvent_exec, Prod.mk.injEq] at success
      obtain ⟨-, rfl⟩ := success
      exact inv.createEvent _ rfl rfl
  | mintTicket eventId recipient seat metadata =>
      obtain ⟨e, found, -, -, unminted, room, -, rfl⟩ := Reducer.mintTicket_ok success
      exact inv.mintTicket ⟨⟨s.nextTicketId⟩, eventId, seat, recipient, metadata, .owned, ctx.time⟩
        found unminted room _
  | pauseEvent id | unpauseEvent id =>
      obtain ⟨-, -, -, -, rfl⟩ := Reducer.setEventPaused_ok success
      exact inv.updateEvent id _ fun _ => ⟨rfl, rfl, rfl⟩
  | setMinter scope minter enabled =>
      obtain ⟨-, ⟨-, -, rfl⟩ | ⟨-, -, rfl⟩⟩ := Reducer.setMinter_ok success
      · exact inv
      · exact inv.of_frame rfl rfl rfl rfl
  | approve id operator =>
      obtain ⟨-, -, -, -, -, -, rfl⟩ := Reducer.approve_ok success
      obtain ⟨approvals, approved⟩ := s.setApproval_eq id operator
      rw [approved]
      exact inv.of_frame rfl rfl rfl rfl
  | transferTicket id recipient =>
      obtain ⟨-, -, -, -, -, -, -, rfl⟩ := Reducer.transferTicket_ok success
      exact inv.of_frame rfl rfl rfl (by simpa [LedgerCall.mintSeat?] using keys)
  | createListing id price =>
      obtain ⟨-, -, -, -, -, -, -, -, -, -, -, rfl⟩ := Reducer.createListing_ok success
      exact inv.of_frame rfl rfl rfl rfl
  | purchaseListing lid payment =>
      obtain ⟨L, e, logs, moved, -, -, -, -, -, -, -, move, -, rfl⟩ :=
        Reducer.purchaseListing_ok success
      obtain ⟨events, next, -, -⟩ := moveTicket_keeps_seats move
      obtain ⟨balances, credited⟩ := SettlementState.creditAll_eq moved
        (Reducer.payouts (Reducer.settlement ctx.caller lid payment L e s.platform))
      have same : ∀ x : SettlementState, x = (moved.creditAll
          (Reducer.payouts (Reducer.settlement ctx.caller lid payment L e s.platform))).closeListing
          lid L.ticketId .sold → x.events = s.events ∧ x.nextEventId = s.nextEventId := by
        intro x hx
        rw [hx, credited]
        exact ⟨events, next⟩
      obtain ⟨sameEvents, sameNext⟩ := same _ rfl
      exact inv.of_frame sameEvents sameNext (by simpa [LedgerCall.mintSeat?] using seats)
        (by simpa [LedgerCall.mintSeat?] using keys)
  | cancelListing lid =>
      obtain ⟨-, -, -, -, -, rfl⟩ := Reducer.cancelListing_ok success
      exact inv.of_frame rfl rfl rfl rfl
  | setTransfersPaused paused | setMarketplacePaused paused | setPlatformFee fee
  | setPlatformAddress address =>
      obtain ⟨-, -, rfl⟩ := Reducer.ownerOnly_ok success
      exact inv.of_frame rfl rfl rfl rfl
  | markUsed id | revokeTicket id =>
      obtain ⟨-, -, -, -, -, -, -, -, rfl⟩ := Reducer.finaliseTicket_ok success
      exact inv.of_frame rfl rfl rfl (by simpa [LedgerCall.mintSeat?] using keys)

/-- The seat ledger holds in every state a deployment can reach. -/
theorem of_reachable {g : Genesis} {s : SettlementState} (reach : Reachable g s) :
    SeatLedger s :=
  Reachable.induction (genesis g) (fun _ _ _ _ _ _ inv _ success => inv.dispatch success)
    (fun _ account amount _ inv => inv.fund account amount) reach

end SeatLedger

/-- Over every run from deployment: the recorded seats are exactly the seats of the
tickets, no two tickets share a seat of an event, every ticket's event exists, and each
event's counter is the number of its tickets and within its supply. The mints the run
accepted are for distinct seats of existing events, as many per event as its counter
says. And after any further accepted mint of a seat, every later mint of that seat is
refused and changes nothing, with the refusal that the seat is already minted whenever
the call is valid and its caller may mint for the event, which is not paused. -/
theorem seat_minted_once (g : Genesis) (steps : List LedgerStep) :
    let s := (SettlementState.genesis g).replay steps
    let mints := ((SettlementState.genesis g).acceptedCalls steps).filterMap LedgerCall.mintSeat?
    (s.seats = s.tickets.map (fun t => (t.eventId, t.seat)) ∧
      (s.tickets.map (fun t => (t.eventId, t.seat))).Nodup ∧
      (∀ t ∈ s.tickets, ∃ e, s.event? t.eventId = some e) ∧
      ∀ e ∈ s.events, e.minted = s.tickets.countP (·.eventId = e.id) ∧ e.minted ≤ e.maxSupply) ∧
    (mints.Nodup ∧ (∀ m ∈ mints, ∃ e ∈ s.events, e.id = m.1) ∧
      ∀ e ∈ s.events, mints.countP (·.1 = e.id) = e.minted) ∧
    ∀ (event : EventId) (seat : SeatId) (recipient : Address) (metadata : Option String)
      (ctx : CallContext) (a : Applied) (s₁ : SettlementState),
      s.run (.mintTicket event recipient seat metadata) ctx = (.ok a, s₁) →
      ∀ (more : List LedgerStep) (recipient' : Address) (metadata' : Option String)
        (ctx' : CallContext),
        ∃ err, (s₁.replay more).run (.mintTicket event recipient' seat metadata') ctx' =
            (.error err, s₁.replay more) ∧
          (validateCall (.mintTicket event recipient' seat metadata') = .ok () →
            ∀ e, (s₁.replay more).event? event = some e →
              (s₁.replay more).canMint e ctx'.caller = true → e.paused = false →
              err = .seatAlreadyMinted event seat) := by
  intro s mints
  have inv : SeatLedger s := SeatLedger.of_reachable (Reachable.genesis.replay steps)
  -- from deployment, the tickets' seats are exactly the accepted mints
  have keys : s.tickets.map Ticket.seatKey = mints := by
    show ((SettlementState.genesis g).replay steps).tickets.map Ticket.seatKey = mints
    rw [seatKeys_replay]
    rfl
  refine ⟨⟨inv.seats, inv.distinct, fun t mem => inv.event_of_ticket mem, ?_⟩, ⟨?_, ?_, ?_⟩,
    fun _ _ _ _ _ _ _ accepted => run_mint_after_mint accepted⟩
  · intro e mem
    obtain ⟨counts, within⟩ := inv.minted e mem
    rw [List.countP_map] at counts
    exact ⟨counts, within⟩
  · rw [← keys]
    exact inv.distinct
  · rw [← keys]
    exact inv.eventOf
  · intro e mem
    rw [← keys]
    exact (inv.minted e mem).1.symm

/-- Once seat A1 of a fresh event is minted, its organiser minting A1 again, to another
buyer, is refused as a seat already minted and changes nothing. -/
theorem seat_refused_after_its_mint :
    let t : Instant := ⟨0, 0, 0⟩
    let g : Genesis := ⟨⟨1⟩, ⟨7⟩, ⟨Bps.lit 250, ⟨6⟩⟩⟩
    let draft : EventDraft := ⟨⟨1⟩, 10, Bps.lit 500, Bps.lit 1000, ⟨3⟩, ⟨100, by decide⟩⟩
    let steps : List LedgerStep := [.call (.createEvent draft) ⟨⟨2⟩, t⟩]
    let minted :=
      ((SettlementState.genesis g).replay steps).run (.mintTicket ⟨1⟩ ⟨4⟩ ⟨"A1"⟩ none) ⟨⟨2⟩, t⟩
    minted.1.isOk = true ∧
      minted.2.run (.mintTicket ⟨1⟩ ⟨5⟩ ⟨"A1"⟩ none) ⟨⟨2⟩, t⟩ =
        (.error (.seatAlreadyMinted ⟨1⟩ ⟨"A1"⟩), minted.2) := by
  intro t g draft steps minted
  have accepted : minted.1.isOk = true := by decide
  obtain ⟨a, ran⟩ := run_eq_ok_of_isOk accepted
  obtain ⟨-, -, once⟩ := seat_minted_once g steps
  obtain ⟨err, refused, why⟩ := once _ _ _ _ _ _ _ ran [] ⟨5⟩ none ⟨⟨2⟩, t⟩
  -- the event is there, unpaused, with its organiser allowed to mint
  have found : (minted.2.replay []).event? ⟨1⟩ =
      some ⟨⟨1⟩, ⟨2⟩, ⟨1⟩, 10, Bps.lit 500, Bps.lit 1000, ⟨3⟩, ⟨100, by decide⟩, 1, false, t⟩ := by
    decide
  obtain rfl := why (by decide) _ found (by decide) rfl
  exact ⟨accepted, refused⟩

end TicketMarket
