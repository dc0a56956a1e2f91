import Mathlib
import TicketMarket.Proofs.Seats
import TicketMarket.Proofs.Purchase

/-! # What is recorded stays recorded

`Keeps s s'` is what a later state keeps of an earlier one. Every listing is still there
with the same ticket, event, seller, price and creation time, and a sold or cancelled
one keeps its status; every ticket is still there with the same event, seat, metadata and
minting time, and a used or revoked one keeps its owner, status and approval; every event
is still there and differs at most in its pause flag and its counter, which has not gone
down; and the recorded seats have only grown.

A handler changes a listing's status only after finding it active, and a ticket's owner,
status or approval only after finding it owned: for a purchase the listing lock says the
listed ticket is owned. So every accepted call from a locked state keeps what it found
(`Keeps.dispatch`), and since `Keeps` composes it holds along every run from a reachable
state (`Keeps.replay`). A sold listing is never active again, so every later purchase of
it is refused, and no run buys one listing twice. `recorded_facts_permanent` states it
all for every run from deployment. -/
set_option autoImplicit false
namespace TicketMarket

open SettlementState

section Kept

variable (s s' : SettlementState)

/-- Every listing is still there, differing at most in its status, and a sold or cancelled
one keeps its status. -/
def ListingsKept : Prop :=
  ∀ l L, s.listing? l = some L → ∃ L', s'.listing? l = some L' ∧
    L' = { L with status := L'.status } ∧ (L.status ≠ .active → L'.status = L.status)

/-- Every ticket is still there, differing at most in its owner and status, and a used or
revoked one keeps both and its approval. -/
def TicketsKept : Prop :=
  ∀ t T, s.ticket? t = some T → ∃ T', s'.ticket? t = some T' ∧
    T' = { T with owner := T'.owner, status := T'.status } ∧
    (T.status ≠ .owned → T' = T ∧ s'.approval? t = s.approval? t)

/-- Every event is still there, differing at most in its pause flag and its counter, which
has not gone down. -/
def EventsKept : Prop :=
  ∀ id e, s.event? id = some e → ∃ e', s'.event? id = some e' ∧
    e' = { e with paused := e'.paused, minted := e'.minted } ∧ e.minted ≤ e'.minted

end Kept

variable {s s' s'' : SettlementState}

/-- A closed listing is found again with its new status. -/
theorem listing?_of_closed {lid : ListingId} {L₀ : Listing} {status : ListingStatus}
    (found₀ : s.listing? lid = some L₀)
    (closed : s'.listings = (s.updateListing lid fun L => { L with status }).listings) :
    s'.listing? lid = some { L₀ with status } := by
  rw [(s.updateListing lid _).listing?_congr closed,
    s.listing?_updateListing lid lid (fun L => { L with status }) fun _ => rfl, if_pos rfl,
    found₀]
  rfl

namespace ListingsKept

theorem refl (s : SettlementState) : ListingsKept s s :=
  fun _ L found => ⟨L, found, rfl, fun _ => rfl⟩

theorem trans (first : ListingsKept s s') (second : ListingsKept s' s'') : ListingsKept s s'' := by
  intro l L found
  obtain ⟨L₁, found₁, same₁, final₁⟩ := first l L found
  obtain ⟨L₂, found₂, same₂, final₂⟩ := second l L₁ found₁
  refine ⟨L₂, found₂, ?_, fun closed => ?_⟩
  · calc L₂ = { L₁ with status := L₂.status } := same₂
      _ = { L with status := L₂.status } := by rw [same₁]
  · rw [final₂ (by rw [final₁ closed]; exact closed), final₁ closed]

theorem of_eq (same : s'.listings = s.listings) : ListingsKept s s' :=
  fun l L found => ⟨L, by rw [s.listing?_congr same]; exact found, rfl, fun _ => rfl⟩

theorem of_appended {x : Listing} (appended : s'.listings = s.listings ++ [x]) :
    ListingsKept s s' := by
  intro l L found
  refine ⟨L, ?_, rfl, fun _ => rfl⟩
  rw [s.listing?_of_appended appended, found]
  rfl

/-- Closing a listing found active changes only that listing's status. -/
theorem of_closed {lid : ListingId} {L₀ : Listing} {status : ListingStatus}
    (found₀ : s.listing? lid = some L₀) (active : L₀.status = .active)
    (closed : s'.listings = (s.updateListing lid fun L => { L with status }).listings) :
    ListingsKept s s' := by
  intro l L found
  by_cases mine : lid = l
  · subst mine
    rw [found₀] at found
    cases found
    exact ⟨_, listing?_of_closed found₀ closed, rfl, fun inactive => absurd active inactive⟩
  · rw [(s.updateListing lid _).listing?_congr closed,
      s.listing?_updateListing lid l (fun L => { L with status }) fun _ => rfl, if_neg mine]
    exact ⟨L, found, rfl, fun _ => rfl⟩

end ListingsKept

namespace TicketsKept

theorem refl (s : SettlementState) : TicketsKept s s :=
  fun _ T found => ⟨T, found, rfl, fun _ => ⟨rfl, rfl⟩⟩

theorem trans (first : TicketsKept s s') (second : TicketsKept s' s'') : TicketsKept s s'' := by
  intro t T found
  obtain ⟨T₁, found₁, same₁, final₁⟩ := first t T found
  obtain ⟨T₂, found₂, same₂, final₂⟩ := second t T₁ found₁
  refine ⟨T₂, found₂, ?_, fun done => ?_⟩
  · calc T₂ = { T₁ with owner := T₂.owner, status := T₂.status } := same₂
      _ = { T with owner := T₂.owner, status := T₂.status } := by rw [same₁]
  · obtain ⟨rfl, approval₁⟩ := final₁ done
    obtain ⟨rfl, approval₂⟩ := final₂ done
    exact ⟨rfl, approval₂.trans approval₁⟩

/-- A write that still finds every ticket it found, and touches the approvals of owned
tickets only, keeps the tickets. -/
theorem of_found (tickets : ∀ t T, s.ticket? t = some T → s'.ticket? t = some T)
    (approvals : ∀ t T, s.ticket? t = some T → T.status ≠ .owned →
      s'.approval? t = s.approval? t) : TicketsKept s s' :=
  fun t T found => ⟨T, tickets t T found, rfl, fun done => ⟨rfl, approvals t T found done⟩⟩

theorem of_appended {x : Ticket} (appended : s'.tickets = s.tickets ++ [x])
    (approvals : s'.approvals = s.approvals) : TicketsKept s s' := by
  refine of_found (fun t T found => ?_) fun t _ _ _ => s.approval?_congr approvals t
  rw [s.ticket?_of_appended appended, found]
  rfl

/-- Changing the owner or status of a ticket found owned, and at most its own approval,
keeps the tickets. -/
theorem of_update {id : TicketId} {T₀ : Ticket} {f : Ticket → Ticket}
    (found₀ : s.ticket? id = some T₀) (owned : T₀.status = .owned)
    (tickets : s'.tickets = (s.updateTicket id f).tickets)
    (keeps : ∀ x, f x = { x with owner := (f x).owner, status := (f x).status })
    (approvals : ∀ t, t ≠ id → s'.approval? t = s.approval? t) : TicketsKept s s' := by
  have ids : ∀ x, (f x).id = x.id := fun x => (congrArg Ticket.id (keeps x)).trans rfl
  intro t T found
  rw [(s.updateTicket id f).ticket?_congr tickets, s.ticket?_updateTicket id t f ids]
  by_cases mine : id = t
  · subst mine
    rw [found₀] at found
    cases found
    exact ⟨f T₀, by rw [if_pos rfl, found₀]; rfl, keeps T₀, fun done => absurd owned done⟩
  · exact ⟨T, by rw [if_neg mine]; exact found, rfl,
      fun _ => ⟨rfl, approvals t fun same => mine same.symm⟩⟩

end TicketsKept

/-- Dropping one ticket's approval leaves every other ticket's approval. -/
theorem approval?_of_erased {id : TicketId} (erased : s'.approvals = Assoc.erase id s.approvals)
    (t : TicketId) (other : t ≠ id) : s'.approval? t = s.approval? t := by
  rw [approval?, erased, Assoc.lookup_erase, if_neg (Ne.symm other)]
  rfl

namespace EventsKept

theorem refl (s : SettlementState) : EventsKept s s :=
  fun _ e found => ⟨e, found, rfl, le_rfl⟩

theorem trans (first : EventsKept s s') (second : EventsKept s' s'') : EventsKept s s'' := by
  intro id e found
  obtain ⟨e₁, found₁, same₁, grew₁⟩ := first id e found
  obtain ⟨e₂, found₂, same₂, grew₂⟩ := second id e₁ found₁
  refine ⟨e₂, found₂, ?_, grew₁.trans grew₂⟩
  calc e₂ = { e₁ with paused := e₂.paused, minted := e₂.minted } := same₂
    _ = { e with paused := e₂.paused, minted := e₂.minted } := by rw [same₁]

theorem of_eq (same : s'.events = s.events) : EventsKept s s' :=
  fun id e found => ⟨e, by rw [s.event?_congr same]; exact found, rfl, le_rfl⟩

theorem of_appended {x : Event} (appended : s'.events = s.events ++ [x]) : EventsKept s s' := by
  intro id e found
  refine ⟨e, ?_, rfl, le_rfl⟩
  rw [s.event?_of_appended appended, found]
  rfl

/-- Changing an event in place, only its pause flag and its counter and the counter never
down, keeps the events. -/
theorem of_update {id : EventId} {f : Event → Event}
    (events : s'.events = (s.updateEvent id f).events)
    (keeps : ∀ e, f e = { e with paused := (f e).paused, minted := (f e).minted } ∧
      e.minted ≤ (f e).minted) : EventsKept s s' := by
  have ids : ∀ e, (f e).id = e.id := fun e => (congrArg Event.id (keeps e).1).trans rfl
  intro i e found
  rw [(s.updateEvent id f).event?_congr events, s.event?_updateEvent id i f ids]
  by_cases mine : id = i
  · rw [if_pos mine, found]
    exact ⟨f e, rfl, (keeps e).1, (keeps e).2⟩
  · exact ⟨e, by rw [if_neg mine]; exact found, rfl, le_rfl⟩

end EventsKept

/-- What a later state keeps of an earlier one. -/
structure Keeps (s s' : SettlementState) : Prop where
  listings : ListingsKept s s'
  tickets : TicketsKept s s'
  events : EventsKept s s'
  seats : s.seats <+: s'.seats

namespace Keeps

theorem refl (s : SettlementState) : Keeps s s :=
  ⟨.refl s, .refl s, .refl s, List.prefix_refl _⟩

theorem trans (first : Keeps s s') (second : Keeps s' s'') : Keeps s s'' :=
  ⟨first.listings.trans second.listings, first.tickets.trans second.tickets,
    first.events.trans second.events, first.seats.trans second.seats⟩

/-- A write that leaves listings, tickets, approvals, events and seats alone keeps them. -/
theorem of_frame (listings : s'.listings = s.listings) (tickets : s'.tickets = s.tickets)
    (approvals : s'.approvals = s.approvals) (events : s'.events = s.events)
    (seats : s'.seats = s.seats) : Keeps s s' where
  listings := .of_eq listings
  tickets := .of_found (fun t T found => by rw [s.ticket?_congr tickets]; exact found)
    fun t _ _ _ => s.approval?_congr approvals t
  events := .of_eq events
  seats := by rw [seats]

theorem fund (s : SettlementState) (account : Address) (amount : Wei) :
    Keeps s (s.fund account amount) := by
  obtain ⟨balances, credited⟩ := s.credit_eq account amount
  rw [SettlementState.fund, credited]
  exact of_frame rfl rfl rfl rfl rfl

/-- Every accepted call from a locked state keeps what it found. -/
theorem dispatch (inv : ListingLock s) {call : LedgerCall} {ctx : CallContext} {a : Applied}
    (success : Reduce.exec (Reducer.dispatch call ctx) s = (.ok a, s')) : Keeps s s' := by
  have seats : s.seats <+: s'.seats := by
    rw [(dispatch_seats success).1]
    exact List.prefix_append _ _
  cases call with
  | createEvent d =>
      rw [Reducer.dispatch, Reducer.createEvent_exec, Prod.mk.injEq] at success
      obtain ⟨-, rfl⟩ := success
      exact ⟨.of_eq rfl, .of_found (fun _ _ found => found) fun _ _ _ _ => rfl,
        .of_appended rfl, seats⟩
  | setMinter scope minter enabled =>
      obtain ⟨-, ⟨-, -, rfl⟩ | ⟨-, -, rfl⟩⟩ := Reducer.setMinter_ok success
      · exact refl _
      · exact of_frame rfl rfl rfl rfl rfl
  | mintTicket eventId recipient seat metadata =>
      obtain ⟨-, -, -, -, -, -, -, rfl⟩ := Reducer.mintTicket_ok success
      exact ⟨.of_eq rfl, .of_appended rfl rfl,
        .of_update rfl fun e => ⟨rfl, Nat.le_succ _⟩, seats⟩
  | approve id operator =>
      obtain ⟨T₀, found₀, -, owned, -, -, rfl⟩ := Reducer.approve_ok success
      -- only the approved ticket's approval changes, and that ticket is owned
      have approvals : ∀ t T, s.ticket? t = some T → T.status ≠ .owned →
          (s.setApproval id operator).approval? t = s.approval? t := by
        intro t T found done
        rw [approval?_setApproval, if_neg]
        rintro rfl
        rw [found₀] at found
        cases found
        exact done owned
      obtain ⟨approvals', set⟩ := s.setApproval_eq id operator
      rw [set] at approvals seats ⊢
      exact ⟨.of_eq rfl, .of_found (fun _ _ found => found) approvals, .of_eq rfl, seats⟩
  | transferTicket id recipient =>
      obtain ⟨T₀, -, found₀, owned, -, -, -, rfl⟩ := Reducer.transferTicket_ok success
      exact ⟨.of_eq rfl, .of_update found₀ owned rfl (fun _ => rfl) (approval?_of_erased rfl),
        .of_eq rfl, seats⟩
  | createListing id price =>
      obtain ⟨t, e, -, -, -, -, -, -, -, -, -, rfl⟩ := Reducer.createListing_ok success
      exact ⟨.of_appended rfl, .of_found (fun _ _ found => found) fun _ _ _ _ => rfl,
        .of_eq rfl, seats⟩
  | purchaseListing lid payment =>
      obtain ⟨L, e, T, -, found, active, -, -, -, -, -, -, -, rfl⟩ :=
        purchase_effect inv success
      -- the lock says the listed ticket is owned, so moving it keeps the tickets
      obtain ⟨T', ticket, owned, -, -, -⟩ := inv.listed lid L found active
      obtain ⟨balances, credited⟩ := SettlementState.creditAll_eq
        ({ (s.debit ctx.caller payment).updateTicket L.ticketId
            (fun t => { t with owner := ctx.caller })
          with approvals := Assoc.erase L.ticketId s.approvals } : SettlementState)
        (Reducer.payouts (Reducer.settlement ctx.caller lid payment L e s.platform))
      rw [credited] at seats ⊢
      exact ⟨.of_closed found active rfl,
        .of_update ticket owned rfl (fun _ => rfl) (approval?_of_erased rfl), .of_eq rfl, seats⟩
  | cancelListing lid =>
      obtain ⟨L, found, -, active, -, rfl⟩ := Reducer.cancelListing_ok success
      exact ⟨.of_closed found active rfl,
        .of_found (fun _ _ found => found) fun _ _ _ _ => rfl, .of_eq rfl, seats⟩
  | pauseEvent id | unpauseEvent id =>
      obtain ⟨-, -, -, -, rfl⟩ := Reducer.setEventPaused_ok success
      exact ⟨.of_eq rfl, .of_found (fun _ _ found => found) fun _ _ _ _ => rfl,
        .of_update rfl fun e => ⟨rfl, le_rfl⟩, seats⟩
  | setTransfersPaused paused | setMarketplacePaused paused | setPlatformFee fee
  | setPlatformAddress address =>
      obtain ⟨-, -, rfl⟩ := Reducer.ownerOnly_ok success
      exact of_frame rfl rfl rfl rfl rfl
  | markUsed id | revokeTicket id =>
      obtain ⟨T₀, -, found₀, -, -, owned, -, -, rfl⟩ := Reducer.finaliseTicket_ok success
      exact ⟨.of_eq rfl, .of_update found₀ owned rfl (fun _ => rfl) (approval?_of_erased rfl),
        .of_eq rfl, seats⟩

/-- Every step from a reachable state keeps what it found. -/
theorem advance {g : Genesis} (reach : Reachable g s) (step : LedgerStep) :
    Keeps s (s.advance step) := by
  cases step with
  | call call ctx =>
      rcases s.run_verdict call ctx with ⟨e, refused⟩ | ⟨a, s', accepted, -, ran⟩
      · simp only [SettlementState.advance, refused]
        exact refl s
      · simp only [SettlementState.advance, accepted]
        exact dispatch (ListingLock.of_reachable reach) ran
  | fund account amount => exact fund s account amount

/-- Along every run from a reachable state, every later state keeps what it found. -/
theorem replay {g : Genesis} (reach : Reachable g s) (more : List LedgerStep) :
    Keeps s (s.replay more) :=
  Reachable.replay_rel refl trans (fun _ step reach => advance reach step) reach more

end Keeps

/-! ## A listing is sold once -/

/-- The listing a call buys, if it is a purchase. -/
def LedgerCall.purchased? : LedgerCall → Option ListingId
  | .purchaseListing lid _ => some lid
  | _ => none

theorem LedgerCall.purchased?_eq_some {call : LedgerCall} {lid : ListingId} :
    call.purchased? = some lid ↔ ∃ payment, call = .purchaseListing lid payment := by
  cases call <;> simp [LedgerCall.purchased?]

/-- A purchase of a listing that is not active is refused before anything is written:
for the paused marketplace if it is paused, else for the listing. -/
theorem run_purchase_of_inactive {lid : ListingId} {L : Listing} (found : s.listing? lid = some L)
    (inactive : L.status ≠ .active) (payment : Wei) (ctx : CallContext) :
    s.run (.purchaseListing lid payment) ctx =
      (.error (if s.marketplacePaused then .marketplacePaused else .listingNotActive lid), s) := by
  have ran : s.run (.purchaseListing lid payment) ctx =
      Reduce.exec (Reducer.reduce (.purchaseListing lid payment) ctx) s := rfl
  have notActive : L.isActive = false :=
    Bool.eq_false_iff.mpr fun act => inactive ((Reducer.listing_isActive_iff L).mp act)
  rw [ran, Reducer.reduce_exec]
  simp only [validateCall, Reducer.dispatch, Reducer.purchaseListing, Reduce.exec_bind,
    Reduce.exec_get, Reduce.exec_ite, Reduce.exec_throw, Reduce.exec_liftExcept,
    requireActiveListing, found, notActive]
  by_cases paused : s.marketplacePaused = true <;> simp [paused]

/-- An accepted purchase found its listing active and leaves it sold. -/
theorem purchase_sells_listing (inv : ListingLock s) {buyer : Address} {lid : ListingId}
    {payment : Wei} {a : Applied}
    (success : Reduce.exec (Reducer.purchaseListing buyer lid payment) s = (.ok a, s')) :
    ∃ L, s.listing? lid = some L ∧ L.status = .active ∧
      s'.listing? lid = some { L with status := .sold } := by
  obtain ⟨L, e, T, -, found, active, -, -, -, -, -, -, -, rfl⟩ := purchase_effect inv success
  refine ⟨L, found, active, ?_⟩
  obtain ⟨balances, credited⟩ := SettlementState.creditAll_eq
    ({ (s.debit buyer payment).updateTicket L.ticketId (fun t => { t with owner := buyer })
      with approvals := Assoc.erase L.ticketId s.approvals } : SettlementState)
    (Reducer.payouts (Reducer.settlement buyer lid payment L e s.platform))
  rw [credited]
  exact listing?_of_closed found rfl

/-- After an accepted purchase of a listing from a reachable state, every later purchase
of it is refused and changes nothing. -/
theorem purchase_refused_after_sale {g : Genesis} (reach : Reachable g s) {lid : ListingId}
    {payment : Wei} {ctx : CallContext} {a : Applied}
    (accepted : s.run (.purchaseListing lid payment) ctx = (.ok a, s')) (later : List LedgerStep)
    (payment' : Wei) (ctx' : CallContext) :
    (s'.replay later).run (.purchaseListing lid payment') ctx' =
      (.error (if (s'.replay later).marketplacePaused then .marketplacePaused
        else .listingNotActive lid), s'.replay later) := by
  obtain ⟨L, -, -, sold⟩ :=
    purchase_sells_listing (ListingLock.of_reachable reach) (dispatch_of_run accepted)
  -- the sold listing stays sold along the rest of the run
  have keeps := Keeps.replay (reach.of_run accepted) later
  obtain ⟨L', found', -, final⟩ := keeps.listings lid _ sold
  have stillSold : L'.status = .sold := final (by simp)
  exact run_purchase_of_inactive found' (by rw [stillSold]; decide) payment' ctx'

/-- No run from a reachable state buys one listing twice, and every listing a run buys was
active or not yet created when the run began. -/
theorem purchases_nodup {g : Genesis} (reach : Reachable g s) (steps : List LedgerStep) :
    ((s.acceptedCalls steps).filterMap LedgerCall.purchased?).Nodup ∧
      ∀ lid ∈ (s.acceptedCalls steps).filterMap LedgerCall.purchased?,
        ∀ L, s.listing? lid = some L → L.status = .active := by
  induction steps generalizing s with
  | nil => simp [acceptedCalls]
  | cons step rest ih =>
      -- a listing still bought later was active here, since a closed one stays closed
      have stillActive : ∀ {s₁ : SettlementState}, Keeps s s₁ →
          (∀ lid ∈ (s₁.acceptedCalls rest).filterMap LedgerCall.purchased?,
            ∀ L, s₁.listing? lid = some L → L.status = .active) →
          ∀ lid ∈ (s₁.acceptedCalls rest).filterMap LedgerCall.purchased?,
            ∀ L, s.listing? lid = some L → L.status = .active := by
        intro s₁ keeps active₁ lid mem L found
        obtain ⟨L', found', -, final⟩ := keeps.listings lid L found
        by_contra closed
        exact closed ((final closed).symm.trans (active₁ lid mem L' found'))
      cases step with
      | fund account amount =>
          obtain ⟨distinct, active₁⟩ := ih (reach.advance (.fund account amount))
          exact ⟨distinct, stillActive (Keeps.fund s account amount) active₁⟩
      | call call ctx =>
          rcases s.run_verdict call ctx with ⟨e, refused⟩ | ⟨a, s₁, accepted, -, ran⟩
          · simp only [acceptedCalls, refused]
            exact ih reach
          · have reach₁ : Reachable g s₁ := reach.of_run accepted
            have keeps := Keeps.dispatch (ListingLock.of_reachable reach) ran
            obtain ⟨distinct, active₁⟩ := ih reach₁
            simp only [acceptedCalls, accepted, List.filterMap_cons]
            cases bought : call.purchased? with
            | none => exact ⟨distinct, stillActive keeps active₁⟩
            | some lid =>
                obtain ⟨payment, rfl⟩ := LedgerCall.purchased?_eq_some.mp bought
                obtain ⟨L, found, active, sold⟩ :=
                  purchase_sells_listing (ListingLock.of_reachable reach) ran
                -- the listing just sold is never bought again in this run
                have fresh : lid ∉ (s₁.acceptedCalls rest).filterMap LedgerCall.purchased? :=
                  fun mem => by simpa using active₁ lid mem _ sold
                refine ⟨List.nodup_cons.mpr ⟨fresh, distinct⟩, fun lid' mem L' found' => ?_⟩
                rcases List.mem_cons.mp mem with rfl | later
                · rw [found] at found'
                  cases found'
                  exact active
                · exact stillActive keeps active₁ lid' later L' found'

/-- Along every run from deployment, every later state keeps what an earlier one recorded:
each listing is still there with the same ticket, event, seller, price and creation time,
and a sold or cancelled one stays so; each ticket is still there with the same event, seat,
metadata and minting time, and a used or revoked one keeps its owner, status and approval;
each event is still there, changed at most in its pause flag and its counter, which never
goes down; and the recorded seats only grow. No run buys one listing twice, and after a
listing is bought every later purchase of it is refused: as a paused marketplace's if the
marketplace is paused, else as a listing that is not active. -/
theorem recorded_facts_permanent (g : Genesis) (steps more : List LedgerStep) :
    let s := (SettlementState.genesis g).replay steps
    let s' := s.replay more
    (∀ l L, s.listing? l = some L → ∃ L', s'.listing? l = some L' ∧
      L' = { L with status := L'.status } ∧ (L.status ≠ .active → L'.status = L.status)) ∧
    (∀ t T, s.ticket? t = some T → ∃ T', s'.ticket? t = some T' ∧
      T' = { T with owner := T'.owner, status := T'.status } ∧
      (T.status ≠ .owned → T' = T ∧ s'.approval? t = s.approval? t)) ∧
    (∀ id e, s.event? id = some e → ∃ e', s'.event? id = some e' ∧
      e' = { e with paused := e'.paused, minted := e'.minted } ∧ e.minted ≤ e'.minted) ∧
    s.seats <+: s'.seats ∧
    (((SettlementState.genesis g).acceptedCalls steps).filterMap LedgerCall.purchased?).Nodup ∧
    ∀ (lid : ListingId) (payment : Wei) (ctx : CallContext) (a : Applied)
      (s₁ : SettlementState), s.run (.purchaseListing lid payment) ctx = (.ok a, s₁) →
      ∀ (later : List LedgerStep) (payment' : Wei) (ctx' : CallContext),
        (s₁.replay later).run (.purchaseListing lid payment') ctx' =
          (.error (if (s₁.replay later).marketplacePaused then .marketplacePaused
            else .listingNotActive lid), s₁.replay later) := by
  intro s s'
  have reach : Reachable g s := Reachable.genesis.replay steps
  have keeps := Keeps.replay reach more
  exact ⟨keeps.listings, keeps.tickets, keeps.events, keeps.seats,
    (purchases_nodup Reachable.genesis steps).1,
    fun _ _ _ _ _ accepted later payment' ctx' =>
      purchase_refused_after_sale reach accepted later payment' ctx'⟩

/-- Once a funded buyer has bought a listing, another buyer's purchase of it is refused as
a listing that is not active and changes nothing. -/
theorem bought_listing_stays_sold :
    let t : Instant := ⟨0, 0, 0⟩
    let g : Genesis := ⟨⟨1⟩, ⟨7⟩, ⟨Bps.lit 250, ⟨6⟩⟩⟩
    let draft : EventDraft := ⟨⟨1⟩, 10, Bps.lit 500, Bps.lit 1000, ⟨3⟩, ⟨100, by decide⟩⟩
    let steps : List LedgerStep :=
      [.call (.createEvent draft) ⟨⟨2⟩, t⟩, .call (.mintTicket ⟨1⟩ ⟨4⟩ ⟨"A1"⟩ none) ⟨⟨2⟩, t⟩,
        .call (.approve ⟨1⟩ (some ⟨7⟩)) ⟨⟨4⟩, t⟩,
        .call (.createListing ⟨1⟩ ⟨110, by decide⟩) ⟨⟨4⟩, t⟩, .fund ⟨5⟩ ⟨200, by decide⟩]
    let bought :=
      ((SettlementState.genesis g).replay steps).run (.purchaseListing ⟨1⟩ ⟨120, by decide⟩) ⟨⟨5⟩, t⟩
    bought.1.isOk = true ∧
      bought.2.run (.purchaseListing ⟨1⟩ ⟨110, by decide⟩) ⟨⟨8⟩, t⟩ =
        (.error (.listingNotActive ⟨1⟩), bought.2) := by
  intro t g draft steps bought
  have accepted : bought.1.isOk = true := by decide
  obtain ⟨a, ran⟩ := run_eq_ok_of_isOk accepted
  obtain ⟨-, -, -, -, -, resold⟩ := recorded_facts_permanent g steps []
  have refused := resold _ _ _ _ _ ran [] ⟨110, by decide⟩ ⟨⟨8⟩, t⟩
  -- the marketplace is running, so the refusal is that the listing is not active
  split at refused
  · next paused => exact absurd paused (by decide)
  · exact ⟨accepted, refused⟩

end TicketMarket
