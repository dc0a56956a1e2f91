import Mathlib
import TicketMarket.Proofs.Purchase

/-! # Who may move assets and change settings

Every accepted call stays within the rights the ledger grants. `CallAuthorised` lists them
for one call from a state to the state it leaves: a ticket changes hands only by a transfer
from its owner or approved operator, or by a purchase of its active listing; only the buyer
of a purchase can end with less; an approval is set only by the ticket's owner and is
otherwise only cleared; a listing is opened only by its ticket's owner and cancelled only
by its seller; the platform's settings, the pause switches and global minting rights change
only for the owner, and an event's pause flag and its own minting rights only for its
organizer or the owner; a ticket is minted, used or revoked only by a caller who may mint
for its event.

Most calls touch few of these, so each right has a frame lemma that settles it from the
fields a call leaves alone, and each handler has one lemma that gives all the rights for
it. `reachable_calls_authorised` assembles them; the purchase needs the listing lock to
know that the ticket it moves belongs to the listing's seller. -/
set_option autoImplicit false
namespace TicketMarket

open SettlementState

section Rights

variable (s : SettlementState) (caller : Address) (call : LedgerCall) (s' : SettlementState)

/-- A ticket changes hands only by a transfer, while transfers run, from its owner or its
approved operator to the recipient; or by a purchase of its active listing, which takes it
from the listing's seller to the caller. -/
def OwnersMoveByRight : Prop :=
  ∀ t T T', s.ticket? t = some T → s'.ticket? t = some T' → T'.owner ≠ T.owner →
    (∃ recipient, call = .transferTicket t recipient ∧ s.transfersPaused = false ∧
        (T.owner = caller ∨ s.approval? t = some caller) ∧ T'.owner = recipient) ∨
      ∃ lid payment L, call = .purchaseListing lid payment ∧ s.listing? lid = some L ∧
        L.status = .active ∧ L.ticketId = t ∧ T.owner = L.seller ∧ T'.owner = caller

/-- Only the caller can end with a lower balance, and only by a purchase. -/
def BalancesDropByPurchase : Prop :=
  ∀ acct, (s'.balance acct).val < (s.balance acct).val →
    acct = caller ∧ ∃ lid payment, call = .purchaseListing lid payment

/-- An approval is set only by the ticket's owner approving an operator; every other change
clears it. -/
def ApprovalsSetByOwner : Prop :=
  ∀ t, s'.approval? t ≠ s.approval? t → s'.approval? t = none ∨
    ∃ op T, call = .approve t (some op) ∧ s.ticket? t = some T ∧ T.owner = caller ∧
      s'.approval? t = some op

/-- A listing is opened only by its ticket's owner, as its seller, and cancelled only by its
seller. -/
def ListingsByRight : Prop :=
  (∀ l L, s.listing? l = none → s'.listing? l = some L →
    call = .createListing L.ticketId L.price ∧ L.seller = caller ∧
      ∃ T, s.ticket? L.ticketId = some T ∧ T.owner = caller) ∧
  (∀ l L L', s.listing? l = some L → s'.listing? l = some L' → L.status ≠ .cancelled →
    L'.status = .cancelled → call = .cancelListing l ∧ L.seller = caller)

/-- The platform's settings, both pause switches and every global minting right change only
for the owner of the contracts; an event's pause flag and its own minting rights only for
the event's organizer or the owner. -/
def SettingsByAuthority : Prop :=
  ((s'.platform ≠ s.platform ∨ s'.transfersPaused ≠ s.transfersPaused ∨
      s'.marketplacePaused ≠ s.marketplacePaused ∨
      ∃ m, s'.minters.contains (.global, m) ≠ s.minters.contains (.global, m)) →
    caller = s.owner) ∧
  (∀ id e e', s.event? id = some e → s'.event? id = some e' → e'.paused ≠ e.paused →
    caller = e.organizer ∨ caller = s.owner) ∧
  (∀ id m, s'.minters.contains (.event id, m) ≠ s.minters.contains (.event id, m) →
    ∃ e, s.event? id = some e ∧ (caller = e.organizer ∨ caller = s.owner))

/-- A ticket comes into being only by a mint of it, from a caller who may mint for its
event. -/
def TicketsMintedByMinter : Prop :=
  ∀ t T', s.ticket? t = none → s'.ticket? t = some T' →
    call = .mintTicket T'.eventId T'.owner T'.seat T'.metadata ∧
      ∃ e, s.event? T'.eventId = some e ∧ s.canMint e caller = true

/-- A ticket is used or revoked only by a caller who may mint for its event. -/
def TicketsFinalisedByMinter : Prop :=
  ∀ t T T', s.ticket? t = some T → s'.ticket? t = some T' → T'.status ≠ T.status →
    (call = .markUsed t ∨ call = .revokeTicket t) ∧
      ∃ e, s.event? T.eventId = some e ∧ s.canMint e caller = true

/-- Every right the ledger grants, for one call by `caller` from `s` to `s'`. -/
structure CallAuthorised : Prop where
  owners : OwnersMoveByRight s caller call s'
  balances : BalancesDropByPurchase s caller call s'
  approvals : ApprovalsSetByOwner s caller call s'
  listings : ListingsByRight s caller call s'
  settings : SettingsByAuthority s caller s'
  minted : TicketsMintedByMinter s caller call s'
  finalised : TicketsFinalisedByMinter s caller call s'

end Rights

/-! ## Who the rules let through -/

section Rules

variable {s : SettlementState} {caller : Address}

theorem authority_of_isEventAuthority {e : Event} (authority : s.isEventAuthority e caller = true) :
    caller = e.organizer ∨ caller = s.owner := by
  simpa [isEventAuthority, isOwner] using authority

theorem owner_of_authorizeMinterAdmin (authorized : s.authorizeMinterAdmin .global caller = .ok ()) :
    caller = s.owner := by
  simp only [authorizeMinterAdmin, requireOwner] at authorized
  by_cases owner : s.isOwner caller = true
  · simpa [isOwner] using owner
  · rw [if_neg owner] at authorized
    cases authorized

theorem authority_of_authorizeMinterAdmin {id : EventId}
    (authorized : s.authorizeMinterAdmin (.event id) caller = .ok ()) :
    ∃ e, s.event? id = some e ∧ (caller = e.organizer ∨ caller = s.owner) := by
  simp only [authorizeMinterAdmin, requireEvent] at authorized
  cases found : s.event? id with
  | none => simp [found] at authorized
  | some e =>
      simp only [found] at authorized
      split at authorized
      · next authority => exact ⟨e, rfl, authority_of_isEventAuthority authority⟩
      · cases authorized

/-- Granting or withdrawing one right changes whether that right, and no other, is held. -/
theorem eq_of_toggle_contains {α : Type} [BEq α] [LawfulBEq α] {l : List α} {key x : α}
    {enabled : Bool}
    (changed : (if enabled then l ++ [key] else l.filter (· != key)).contains x ≠ l.contains x) :
    x = key := by
  by_contra other
  apply changed
  cases enabled
  · simp only [Bool.false_eq_true, if_false]
    rw [Bool.eq_iff_iff]
    simp [List.mem_filter, other]
  · simp [other]

end Rules

/-! ## Rights a call keeps by leaving fields alone -/

section Frames

variable {s s' : SettlementState} {caller : Address} {call : LedgerCall}

theorem OwnersMoveByRight.of_kept
    (kept : ∀ t T T', s.ticket? t = some T → s'.ticket? t = some T' → T'.owner = T.owner) :
    OwnersMoveByRight s caller call s' :=
  fun t T T' before after moved => absurd (kept t T T' before after) moved

theorem OwnersMoveByRight.of_found (found : ∀ t T, s.ticket? t = some T → s'.ticket? t = some T) :
    OwnersMoveByRight s caller call s' := by
  refine .of_kept fun t T T' before after => ?_
  rw [found t T before, Option.some.injEq] at after
  rw [after]

theorem BalancesDropByPurchase.of_kept (kept : s'.balances = s.balances) :
    BalancesDropByPurchase s caller call s' := by
  intro acct dropped
  rw [s.balance_congr kept] at dropped
  exact absurd dropped (Nat.lt_irrefl _)

theorem ApprovalsSetByOwner.of_cleared
    (cleared : ∀ t, s'.approval? t = s.approval? t ∨ s'.approval? t = none) :
    ApprovalsSetByOwner s caller call s' := by
  intro t changed
  rcases cleared t with same | none
  · exact absurd same changed
  · exact .inl none

/-- Dropping one ticket's approval only ever clears it. -/
theorem ApprovalsSetByOwner.of_erased {id : TicketId}
    (erased : s'.approvals = Assoc.erase id s.approvals) :
    ApprovalsSetByOwner s caller call s' := by
  refine .of_cleared fun t => ?_
  have lookup : s'.approval? t = if id = t then none else s.approval? t := by
    rw [approval?, erased, Assoc.lookup_erase]
    rfl
  by_cases mine : id = t
  · rw [lookup, if_pos mine]
    exact .inr rfl
  · rw [lookup, if_neg mine]
    exact .inl rfl

theorem ListingsByRight.of_kept (kept : s'.listings = s.listings) :
    ListingsByRight s caller call s' := by
  have same := s.listing?_congr kept
  constructor
  · intro l L before after
    rw [same, before] at after
    cases after
  · intro l L L' before after stillOpen closed
    rw [same, before, Option.some.injEq] at after
    subst after
    exact absurd closed stillOpen

theorem SettingsByAuthority.of_kept (platform : s'.platform = s.platform)
    (transfers : s'.transfersPaused = s.transfersPaused)
    (marketplace : s'.marketplacePaused = s.marketplacePaused) (minters : s'.minters = s.minters)
    (paused : ∀ id e e', s.event? id = some e → s'.event? id = some e' → e'.paused = e.paused) :
    SettingsByAuthority s caller s' := by
  refine ⟨?_, fun id e e' before after changed => absurd (paused id e e' before after) changed,
    fun id m changed => absurd (by rw [minters]) changed⟩
  rintro (changed | changed | changed | ⟨m, changed⟩)
  · exact absurd platform changed
  · exact absurd transfers changed
  · exact absurd marketplace changed
  · exact absurd (by rw [minters]) changed

theorem paused_of_events (same : s'.events = s.events) :
    ∀ id e e', s.event? id = some e → s'.event? id = some e' → e'.paused = e.paused := by
  intro id e e' before after
  rw [s.event?_congr same, before, Option.some.injEq] at after
  rw [after]

theorem found_of_tickets (same : s'.tickets = s.tickets) :
    ∀ t T, s.ticket? t = some T → s'.ticket? t = some T := by
  intro t T before
  rw [s.ticket?_congr same, before]

theorem absent_of_tickets (same : s'.tickets = s.tickets) :
    ∀ t, s.ticket? t = none → s'.ticket? t = none := by
  intro t before
  rw [s.ticket?_congr same, before]

theorem TicketsMintedByMinter.of_kept (kept : ∀ t, s.ticket? t = none → s'.ticket? t = none) :
    TicketsMintedByMinter s caller call s' := by
  intro t T' before after
  rw [kept t before] at after
  cases after

theorem TicketsFinalisedByMinter.of_kept
    (kept : ∀ t T T', s.ticket? t = some T → s'.ticket? t = some T' → T'.status = T.status) :
    TicketsFinalisedByMinter s caller call s' :=
  fun t T T' before after changed => absurd (kept t T T' before after) changed

theorem TicketsFinalisedByMinter.of_found
    (found : ∀ t T, s.ticket? t = some T → s'.ticket? t = some T) :
    TicketsFinalisedByMinter s caller call s' := by
  refine .of_kept fun t T T' before after => ?_
  rw [found t T before, Option.some.injEq] at after
  rw [after]

/-- A write that changes one ticket in place creates none and leaves every other ticket as
it was. -/
theorem ticket?_of_updated {id : TicketId} {f : Ticket → Ticket}
    (updated : s'.tickets = (s.updateTicket id f).tickets) (keeps : ∀ x, (f x).id = x.id) :
    (∀ t, s.ticket? t = none → s'.ticket? t = none) ∧
      ∀ t T T', s.ticket? t = some T → s'.ticket? t = some T' → (id = t ∧ T' = f T) ∨ T' = T := by
  have lookup : ∀ t, s'.ticket? t = if id = t then (s.ticket? t).map f else s.ticket? t := by
    intro t
    rw [(s.updateTicket id f).ticket?_congr updated, ticket?_updateTicket _ _ _ _ keeps]
  refine ⟨fun t before => ?_, fun t T T' before after => ?_⟩
  · rw [lookup, before]
    split <;> rfl
  · rw [lookup, before] at after
    split at after
    · next mine =>
        rw [Option.map_some, Option.some.injEq] at after
        exact .inl ⟨mine, after.symm⟩
    · rw [Option.some.injEq] at after
      exact .inr after.symm

end Frames

/-! ## What each handler may do -/

namespace CallAuthorised

variable {s s' : SettlementState} {caller : Address} {a : Applied}

/-- A call that leaves tickets and balances alone has every right over them. -/
theorem of_tickets_kept {call : LedgerCall} (tickets : s'.tickets = s.tickets)
    (balances : s'.balances = s.balances) (approvals : ApprovalsSetByOwner s caller call s')
    (listings : ListingsByRight s caller call s') (settings : SettingsByAuthority s caller s') :
    CallAuthorised s caller call s' :=
  ⟨.of_found (found_of_tickets tickets), .of_kept balances, approvals, listings, settings,
    .of_kept (absent_of_tickets tickets), .of_found (found_of_tickets tickets)⟩

/-- A call that leaves tickets, approvals, listings and balances alone is authorised as soon
as its changes to the settings are. -/
theorem of_assets_kept {call : LedgerCall} (tickets : s'.tickets = s.tickets)
    (approvals : s'.approvals = s.approvals) (listings : s'.listings = s.listings)
    (balances : s'.balances = s.balances) (settings : SettingsByAuthority s caller s') :
    CallAuthorised s caller call s' :=
  .of_tickets_kept tickets balances (.of_cleared fun t => .inl (s.approval?_congr approvals t))
    (.of_kept listings) settings

/-- A call on the owner's behalf that changes nothing but the platform and the switches. -/
theorem byOwner {call : LedgerCall} (owner : s.isOwner caller = true)
    (tickets : s'.tickets = s.tickets) (approvals : s'.approvals = s.approvals)
    (listings : s'.listings = s.listings) (balances : s'.balances = s.balances)
    (events : s'.events = s.events) (minters : s'.minters = s.minters) :
    CallAuthorised s caller call s' :=
  .of_assets_kept tickets approvals listings balances
    ⟨fun _ => by simpa [isOwner] using owner,
      fun id e e' before after changed => absurd (paused_of_events events id e e' before after)
        changed,
      fun id m changed => absurd (by rw [minters]) changed⟩

theorem createEvent {d : EventDraft} {time : Instant}
    (success : Reduce.exec (Reducer.createEvent caller d time) s = (.ok a, s')) :
    CallAuthorised s caller (.createEvent d) s' := by
  rw [Reducer.createEvent_exec, Prod.mk.injEq] at success
  obtain ⟨-, created⟩ := success
  have event := s.event?_of_appended (show s'.events = s.events ++ _ by rw [← created])
  subst created
  refine .of_assets_kept rfl rfl rfl rfl (.of_kept rfl rfl rfl rfl fun id e e' before after => ?_)
  -- the new event is appended, so every event found before is still found first
  rw [event, before, Option.some_or, Option.some.injEq] at after
  rw [after]

theorem setMinter {scope : MinterScope} {minter : Address} {enabled : Bool}
    (success : Reduce.exec (Reducer.setMinter caller scope minter enabled) s = (.ok a, s')) :
    CallAuthorised s caller (.setMinter scope minter enabled) s' := by
  obtain ⟨authorized, ⟨-, -, rfl⟩ | ⟨-, -, rfl⟩⟩ := Reducer.setMinter_ok success
  · exact .of_assets_kept rfl rfl rfl rfl (.of_kept rfl rfl rfl rfl (paused_of_events rfl))
  · refine .of_assets_kept rfl rfl rfl rfl ⟨?_, fun id e e' before after changed =>
      absurd (paused_of_events rfl id e e' before after) changed, fun id m changed => ?_⟩
    · rintro (changed | changed | changed | ⟨m, changed⟩)
      · exact absurd rfl changed
      · exact absurd rfl changed
      · exact absurd rfl changed
      · -- only the right toggled changes, and a global right is the owner's to give
        obtain ⟨global, -⟩ := Prod.mk.inj (eq_of_toggle_contains changed)
        rw [← global] at authorized
        exact owner_of_authorizeMinterAdmin authorized
    · obtain ⟨forEvent, -⟩ := Prod.mk.inj (eq_of_toggle_contains changed)
      rw [← forEvent] at authorized
      exact authority_of_authorizeMinterAdmin authorized

theorem mintTicket {eventId : EventId} {recipient : Address} {seat : SeatId}
    {metadata : Option String} {time : Instant}
    (success : Reduce.exec (Reducer.mintTicket caller eventId recipient seat metadata time) s =
      (.ok a, s')) :
    CallAuthorised s caller (.mintTicket eventId recipient seat metadata) s' := by
  obtain ⟨e, event, canMint, -, -, -, -, minted⟩ := Reducer.mintTicket_ok success
  have appended : s'.tickets =
      s.tickets ++ [⟨⟨s.nextTicketId⟩, eventId, seat, recipient, metadata, .owned, time⟩] := by
    rw [minted]
  have counted : s'.events =
      (s.updateEvent eventId fun e => { e with minted := e.minted + 1 }).events := by
    rw [minted]
  have ticket := s.ticket?_of_appended appended
  have found : ∀ t T, s.ticket? t = some T → s'.ticket? t = some T := by
    intro t T before
    rw [ticket, before]
    rfl
  subst minted
  refine ⟨.of_found found, .of_kept rfl, .of_cleared fun t => .inl rfl, .of_kept rfl,
    .of_kept rfl rfl rfl rfl fun id e₀ e' before after => ?_, fun t T' before after => ?_,
    .of_found found⟩
  · -- minting counts the ticket on its event and leaves every pause flag alone
    rw [(s.updateEvent eventId _).event?_congr counted,
      event?_updateEvent _ _ _ (fun e => { e with minted := e.minted + 1 }) fun _ => rfl,
      before] at after
    split at after
    · rw [Option.map_some, Option.some.injEq] at after
      rw [← after]
    · rw [Option.some.injEq] at after
      rw [after]
  · -- the only new ticket is the minted one, for the seat and recipient asked for
    rw [ticket, before, Option.none_or] at after
    split at after
    · cases after
      exact ⟨rfl, e, event, canMint⟩
    · cases after

theorem approve {id : TicketId} {operator : Option Address}
    (success : Reduce.exec (Reducer.approve caller id operator) s = (.ok a, s')) :
    CallAuthorised s caller (.approve id operator) s' := by
  obtain ⟨T, found, owner, -, -, -, approved⟩ := Reducer.approve_ok success
  have approval : ∀ t, s'.approval? t = if id = t then operator else s.approval? t := by
    intro t
    rw [approved, approval?_setApproval]
  obtain ⟨approvals, onlyApprovals⟩ := s.setApproval_eq id operator
  rw [onlyApprovals] at approved
  subst approved
  refine .of_tickets_kept rfl rfl (fun t changed => ?_) (.of_kept rfl)
    (.of_kept rfl rfl rfl rfl (paused_of_events rfl))
  -- only the ticket approved changes, to the operator its owner chose
  rw [approval] at changed ⊢
  by_cases mine : id = t
  · rw [if_pos mine] at changed ⊢
    subst mine
    cases operator with
    | none => exact .inl rfl
    | some op => exact .inr ⟨op, T, rfl, found, owner, rfl⟩
  · rw [if_neg mine] at changed
    exact absurd rfl changed

theorem transferTicket {id : TicketId} {recipient : Address}
    (success : Reduce.exec (Reducer.transferTicket caller id recipient) s = (.ok a, s')) :
    CallAuthorised s caller (.transferTicket id recipient) s' := by
  obtain ⟨T, running, found, -, allowed, -, -, moved⟩ := Reducer.transferTicket_ok success
  obtain ⟨absent, present⟩ := ticket?_of_updated
    (show s'.tickets = (s.updateTicket id fun t => { t with owner := recipient }).tickets by
      rw [moved]) fun _ => rfl
  subst moved
  refine ⟨fun t T₀ T' before after changed => ?_, .of_kept rfl, .of_erased rfl, .of_kept rfl,
    .of_kept rfl rfl rfl rfl (paused_of_events rfl), .of_kept absent,
    .of_kept fun t T₀ T' before after => ?_⟩
  · -- only the transferred ticket changes hands, to the recipient
    rcases present t T₀ T' before after with ⟨mine, rfl⟩ | rfl
    · subst mine
      rw [found, Option.some.injEq] at before
      subst before
      exact .inl ⟨recipient, rfl, running, allowed, rfl⟩
    · exact absurd rfl changed
  · rcases present t T₀ T' before after with ⟨-, rfl⟩ | rfl <;> rfl

theorem createListing {id : TicketId} {price : Wei} {time : Instant}
    (success : Reduce.exec (Reducer.createListing caller id price time) s = (.ok a, s')) :
    CallAuthorised s caller (.createListing id price) s' := by
  obtain ⟨T, e, -, found, -, -, owner, -, -, -, -, listed⟩ := Reducer.createListing_ok success
  have appended : s'.listings =
      s.listings ++ [⟨⟨s.nextListingId⟩, id, T.eventId, caller, price, .active, time⟩] := by
    rw [listed]
  have listing := s.listing?_of_appended appended
  subst listed
  refine .of_tickets_kept rfl rfl (.of_cleared fun t => .inl rfl)
    ⟨fun l L before after => ?_, fun l L L' before after stillOpen closed => ?_⟩
    (.of_kept rfl rfl rfl rfl (paused_of_events rfl))
  · -- the only new listing is the one asked for, by the ticket's owner
    rw [listing, before, Option.none_or] at after
    split at after
    · cases after
      exact ⟨rfl, rfl, T, found, owner⟩
    · cases after
  · -- no listing already there changes
    rw [listing, before, Option.some_or, Option.some.injEq] at after
    subst after
    exact absurd closed stillOpen

theorem purchaseListing (inv : ListingLock s) {lid : ListingId} {payment : Wei}
    (success : Reduce.exec (Reducer.purchaseListing caller lid payment) s = (.ok a, s')) :
    CallAuthorised s caller (.purchaseListing lid payment) s' := by
  obtain ⟨L, e, T, -, found, active, -, -, -, -, ticket, owner, -, bought⟩ :=
    purchase_effect inv success
  -- the buyer pays, the ticket moves, and only then are the payouts credited
  set moved : SettlementState :=
    { (s.debit caller payment).updateTicket L.ticketId (fun t => { t with owner := caller }) with
        approvals := Assoc.erase L.ticketId s.approvals }
  set payouts := Reducer.payouts (Reducer.settlement caller lid payment L e s.platform)
  obtain ⟨balances, credited⟩ := moved.creditAll_eq payouts
  have paid : ∀ acct, s'.balance acct = (moved.creditAll payouts).balance acct := by
    intro acct
    rw [bought]
    rfl
  rw [credited] at bought
  obtain ⟨absent, present⟩ := ticket?_of_updated
    (show s'.tickets = (s.updateTicket L.ticketId fun t => { t with owner := caller }).tickets by
      rw [bought]
      rfl) fun _ => rfl
  have listing : ∀ l, s'.listing? l =
      if lid = l then (s.listing? l).map (fun L => { L with status := .sold })
      else s.listing? l := by
    intro l
    rw [bought, listing?_closeListing]
    rfl
  subst bought
  refine ⟨fun t T₀ T' before after changed => ?_, fun acct dropped => ?_, .of_erased rfl,
    ⟨fun l L' before after => ?_, fun l L₀ L' before after stillOpen closed => ?_⟩,
    .of_kept rfl rfl rfl rfl (paused_of_events rfl), .of_kept absent,
    .of_kept fun t T₀ T' before after => ?_⟩
  · -- only the listed ticket changes hands, from the seller to the buyer
    rcases present t T₀ T' before after with ⟨mine, rfl⟩ | rfl
    · subst mine
      rw [ticket, Option.some.injEq] at before
      subst before
      exact .inr ⟨lid, payment, L, rfl, found, active, rfl, owner, rfl⟩
    · exact absurd rfl changed
  · -- every account but the buyer is only credited
    refine ⟨?_, lid, payment, rfl⟩
    by_contra other
    have credits := moved.creditAll_balance_ge payouts acct
    have debited := s.debit_balance caller payment acct
    rw [if_neg other, Nat.sub_zero] at debited
    rw [paid] at dropped
    change ((s.debit caller payment).balance acct).val ≤ _ at credits
    omega
  · rw [listing, before, Option.map_none, ite_self] at after
    cases after
  · -- the purchased listing is sold, not cancelled, and no other listing changes
    rw [listing] at after
    by_cases mine : lid = l
    · rw [if_pos mine, before, Option.map_some, Option.some.injEq] at after
      rw [← after] at closed
      cases closed
    · rw [if_neg mine, before, Option.some.injEq] at after
      subst after
      exact absurd closed stillOpen
  · rcases present t T₀ T' before after with ⟨-, rfl⟩ | rfl <;> rfl

theorem cancelListing {lid : ListingId}
    (success : Reduce.exec (Reducer.cancelListing caller lid) s = (.ok a, s')) :
    CallAuthorised s caller (.cancelListing lid) s' := by
  obtain ⟨L, found, seller, -, -, rfl⟩ := Reducer.cancelListing_ok success
  refine .of_tickets_kept rfl rfl (.of_cleared fun t => .inl rfl)
    ⟨fun l L' before after => ?_, fun l L₀ L' before after stillOpen closed => ?_⟩
    (.of_kept rfl rfl rfl rfl (paused_of_events rfl))
  · rw [listing?_closeListing, before, Option.map_none, ite_self] at after
    cases after
  · -- only the listing named is cancelled, and its seller asked for it
    rw [listing?_closeListing] at after
    by_cases mine : lid = l
    · subst mine
      rw [found, Option.some.injEq] at before
      subst before
      exact ⟨rfl, seller⟩
    · rw [if_neg mine, before, Option.some.injEq] at after
      subst after
      exact absurd closed stillOpen

theorem setEventPaused {call : LedgerCall} {id : EventId} {paused : Bool}
    (success : Reduce.exec (Reducer.setEventPaused caller id paused) s = (.ok a, s')) :
    CallAuthorised s caller call s' := by
  obtain ⟨e, found, authority, -, rfl⟩ := Reducer.setEventPaused_ok success
  refine .of_assets_kept rfl rfl rfl rfl ⟨?_, fun id' e₀ e' before after changed => ?_,
    fun id' m changed => absurd rfl changed⟩
  · rintro (changed | changed | changed | ⟨m, changed⟩) <;> exact absurd rfl changed
  · -- only the event named changes, and the caller speaks for it
    rw [event?_updateEvent _ _ _ (fun e => { e with paused }) fun _ => rfl, before] at after
    by_cases mine : id = id'
    · subst mine
      rw [found, Option.some.injEq] at before
      subst before
      exact authority_of_isEventAuthority authority
    · rw [if_neg mine, Option.some.injEq] at after
      subst after
      exact absurd rfl changed

theorem finaliseTicket {call : LedgerCall} {id : TicketId} {status : TicketStatus}
    (which : call = .markUsed id ∨ call = .revokeTicket id)
    (success : Reduce.exec (Reducer.finaliseTicket caller id status) s = (.ok a, s')) :
    CallAuthorised s caller call s' := by
  obtain ⟨T, e, found, event, canMint, -, -, -, finalised⟩ := Reducer.finaliseTicket_ok success
  obtain ⟨absent, present⟩ := ticket?_of_updated
    (show s'.tickets = (s.updateTicket id fun t => { t with status }).tickets by
      rw [finalised]) fun _ => rfl
  subst finalised
  refine ⟨.of_kept fun t T₀ T' before after => ?_, .of_kept rfl, .of_erased rfl, .of_kept rfl,
    .of_kept rfl rfl rfl rfl (paused_of_events rfl), .of_kept absent,
    fun t T₀ T' before after changed => ?_⟩
  · rcases present t T₀ T' before after with ⟨-, rfl⟩ | rfl <;> rfl
  · -- only the finalised ticket changes status, and the caller may mint for its event
    rcases present t T₀ T' before after with ⟨mine, rfl⟩ | rfl
    · subst mine
      rw [found, Option.some.injEq] at before
      subst before
      exact ⟨which, e, event, canMint⟩
    · exact absurd rfl changed

end CallAuthorised

/-- In every reachable state every accepted call, whoever makes it, stays within the rights
the ledger grants: tickets change hands, approvals are set, listings are opened and
cancelled, tickets are minted, used and revoked, settings change and balances fall only
for the callers the rules name. -/
theorem reachable_calls_authorised {g : Genesis} {s s' : SettlementState} {call : LedgerCall}
    {caller : Address} {time : Instant} {a : Applied} (reach : Reachable g s)
    (success : s.run call ⟨caller, time⟩ = (.ok a, s')) : CallAuthorised s caller call s' := by
  -- an accepted call passed validation, so its handler ran from `s`
  have ran : Reduce.exec (Reducer.dispatch call ⟨caller, time⟩) s = (.ok a, s') := by
    rw [SettlementState.run, Reducer.reduce_exec] at success
    cases valid : validateCall call with
    | error e =>
        rw [valid] at success
        simp at success
    | ok u =>
        rw [valid] at success
        exact success
  cases call with
  | createEvent d => exact .createEvent ran
  | setMinter scope minter enabled => exact .setMinter ran
  | mintTicket eventId recipient seat metadata => exact .mintTicket ran
  | approve id operator => exact .approve ran
  | transferTicket id recipient => exact .transferTicket ran
  | createListing id price => exact .createListing ran
  | purchaseListing lid payment => exact .purchaseListing (ListingLock.of_reachable reach) ran
  | cancelListing lid => exact .cancelListing ran
  | pauseEvent id | unpauseEvent id => exact .setEventPaused ran
  | setTransfersPaused paused | setMarketplacePaused paused | setPlatformFee fee
  | setPlatformAddress address =>
      obtain ⟨owner, -, rfl⟩ := Reducer.ownerOnly_ok ran
      exact .byOwner owner rfl rfl rfl rfl rfl rfl
  | markUsed id => exact .finaliseTicket (.inl rfl) ran
  | revokeTicket id => exact .finaliseTicket (.inr rfl) ran

/-- An operator the owner approved, not the owner, moves the ticket: the transfer is
accepted, and each right it exercises is one the ledger grants. -/
theorem approved_operator_transfer_authorised :
    let t : Instant := ⟨0, 0, 0⟩
    let g : Genesis := ⟨⟨1⟩, ⟨7⟩, ⟨Bps.lit 250, ⟨6⟩⟩⟩
    let draft : EventDraft := ⟨⟨1⟩, 10, Bps.lit 500, Bps.lit 1000, ⟨3⟩, ⟨100, by decide⟩⟩
    let s₁ := ((SettlementState.genesis g).run (.createEvent draft) ⟨⟨2⟩, t⟩).2
    let s₂ := (s₁.run (.mintTicket ⟨1⟩ ⟨4⟩ ⟨"A1"⟩ none) ⟨⟨2⟩, t⟩).2
    let s := (s₂.run (.approve ⟨1⟩ (some ⟨8⟩)) ⟨⟨4⟩, t⟩).2
    let s' := (s.run (.transferTicket ⟨1⟩ ⟨9⟩) ⟨⟨8⟩, t⟩).2
    Reachable g s ∧
    s.run (.transferTicket ⟨1⟩ ⟨9⟩) ⟨⟨8⟩, t⟩ =
      (.ok ⟨.empty, [.ticketTransferred ⟨1⟩ ⟨1⟩ ⟨4⟩ ⟨9⟩]⟩, s') ∧
    CallAuthorised s ⟨8⟩ (.transferTicket ⟨1⟩ ⟨9⟩) s' := by
  intro t g draft s₁ s₂ s s'
  have reach : Reachable g s := .call _ _ (.call _ _ (.call _ _ .genesis))
  have success : s.run (.transferTicket ⟨1⟩ ⟨9⟩) ⟨⟨8⟩, t⟩ =
      (.ok ⟨.empty, [.ticketTransferred ⟨1⟩ ⟨1⟩ ⟨4⟩ ⟨9⟩]⟩, s') :=
    Prod.ext (by decide) rfl
  exact ⟨reach, success, reachable_calls_authorised reach success⟩

end TicketMarket
