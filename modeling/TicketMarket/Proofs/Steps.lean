import Mathlib
import TicketMarket.Proofs.Run

/-! # What an accepted call did

One lemma for each handler says everything an accepted run of it tells about the state it
started from and the state it left: which checks passed, what it answered and how the new
state is built from the old one. `reduce_exec` says a call is validated on its own before
its handler runs. Every later proof about accepted calls goes through these lemmas and
never unfolds a handler again. -/
set_option autoImplicit false
namespace TicketMarket
namespace Reducer

open SettlementState

variable {s s' : SettlementState} {a : Applied} {caller : Address}

theorem ticket_isActive_iff (t : Ticket) : t.isActive = true ↔ t.status = .owned := by
  simp [Ticket.isActive]

theorem listing_isActive_iff (l : Listing) : l.isActive = true ↔ l.status = .active := by
  simp [Listing.isActive]

/-- A call is validated on its own first; only a valid call reaches its handler. -/
theorem reduce_exec (call : LedgerCall) (ctx : CallContext) (s : SettlementState) :
    Reduce.exec (reduce call ctx) s = match validateCall call with
      | .error e => (.error e, s)
      | .ok () => Reduce.exec (dispatch call ctx) s := by
  simp only [reduce, Reduce.exec_bind, Reduce.exec_liftExcept]
  cases validateCall call <;> rfl

theorem createEvent_exec (organizer : Address) (d : EventDraft) (time : Instant) :
    Reduce.exec (createEvent organizer d time) s =
      (.ok ⟨.eventCreated ⟨s.nextEventId⟩, [.eventCreated ⟨s.nextEventId⟩ organizer d]⟩,
        { s with
          nextEventId := s.nextEventId + 1,
          events := s.events ++ [{
            id := ⟨s.nextEventId⟩, organizer, fingerprint := d.fingerprint,
            maxSupply := d.maxSupply, royalty := d.royalty, markup := d.markup,
            artist := d.artist, issuePrice := d.issuePrice, minted := 0, paused := false,
            createdAt := time }] }) := rfl

theorem setMinter_ok {scope : MinterScope} {minter : Address} {enabled : Bool}
    (success : Reduce.exec (setMinter caller scope minter enabled) s = (.ok a, s')) :
    s.authorizeMinterAdmin scope caller = .ok () ∧
      (s.minters.contains (scope, minter) = enabled ∧ a = ⟨.empty, []⟩ ∧ s' = s ∨
        s.minters.contains (scope, minter) ≠ enabled ∧
          a = ⟨.empty, [.minterUpdated scope minter enabled]⟩ ∧
          s' = { s with minters := if enabled then s.minters ++ [(scope, minter)]
            else s.minters.filter (· != (scope, minter)) }) := by
  simp only [setMinter, Reduce.exec_bind, Reduce.exec_get, Reduce.exec_liftExcept,
    Reduce.exec_ite, Reduce.exec_modify, Reduce.exec_pure] at success
  cases authorized : s.authorizeMinterAdmin scope caller with
  | error e => simp [authorized] at success
  | ok u =>
      simp only [authorized] at success
      by_cases already : (s.minters.contains (scope, minter) == enabled) = true
      · rw [if_pos already] at success
        obtain ⟨rfl, rfl⟩ := by simpa using success
        exact ⟨rfl, .inl ⟨by simpa using already, rfl, rfl⟩⟩
      · rw [if_neg already] at success
        obtain ⟨rfl, rfl⟩ := by simpa using success
        exact ⟨rfl, .inr ⟨by simpa using already, rfl, rfl⟩⟩

theorem mintTicket_ok {eventId : EventId} {recipient : Address} {seat : SeatId}
    {metadata : Option String} {time : Instant}
    (success : Reduce.exec (mintTicket caller eventId recipient seat metadata time) s =
      (.ok a, s')) :
    ∃ e, s.event? eventId = some e ∧ s.canMint e caller = true ∧ e.paused = false ∧
      s.isSeatMinted eventId seat = false ∧ e.isSoldOut = false ∧
      a = ⟨.ticketMinted ⟨s.nextTicketId⟩,
        [.ticketMinted ⟨s.nextTicketId⟩ eventId seat recipient]⟩ ∧
      s' = { s.updateEvent eventId (fun e => { e with minted := e.minted + 1 }) with
        nextTicketId := s.nextTicketId + 1,
        seats := s.seats ++ [(eventId, seat)],
        tickets := s.tickets ++
          [⟨⟨s.nextTicketId⟩, eventId, seat, recipient, metadata, .owned, time⟩] } := by
  simp only [mintTicket, Reduce.exec_bind, Reduce.exec_get, Reduce.exec_liftExcept,
    Reduce.exec_ite, Reduce.exec_throw, Reduce.exec_modify, Reduce.exec_pure,
    requireEvent] at success
  cases found : s.event? eventId with
  | none => simp [found] at success
  | some e =>
      simp only [found] at success
      by_cases refused : (!s.canMint e caller) = true
      · simp [refused] at success
      rw [if_neg refused] at success
      by_cases paused : e.paused = true
      · simp [paused] at success
      rw [if_neg paused] at success
      by_cases minted : s.isSeatMinted eventId seat = true
      · simp [minted] at success
      rw [if_neg minted] at success
      by_cases soldOut : e.isSoldOut = true
      · simp [soldOut] at success
      rw [if_neg soldOut] at success
      obtain ⟨rfl, rfl⟩ := by simpa using success
      exact ⟨e, rfl, by simpa using refused, by simpa using paused, by simpa using minted,
        by simpa using soldOut, rfl, rfl⟩

theorem approve_ok {id : TicketId} {operator : Option Address}
    (success : Reduce.exec (approve caller id operator) s = (.ok a, s')) :
    ∃ t, s.ticket? id = some t ∧ t.owner = caller ∧ t.status = .owned ∧
      (operator ≠ some s.marketplace → s.activeListingFor? id = none) ∧
      a = ⟨.empty, [.approval id caller operator]⟩ ∧ s' = s.setApproval id operator := by
  simp only [approve, Reduce.exec_bind, Reduce.exec_get, Reduce.exec_liftExcept,
    Reduce.exec_ite, Reduce.exec_throw, Reduce.exec_modify, Reduce.exec_pure,
    requireTicket, requireUnlisted] at success
  cases found : s.ticket? id with
  | none => simp [found] at success
  | some t =>
      simp only [found] at success
      by_cases other : (t.owner != caller) = true
      · simp [other] at success
      rw [if_neg other] at success
      by_cases inactive : (!t.isActive) = true
      · simp [inactive] at success
      rw [if_neg inactive] at success
      have owned : t.status = .owned := by simpa [ticket_isActive_iff] using inactive
      by_cases notMarketplace : (operator != some s.marketplace) = true
      · -- approving anyone but the marketplace is refused while the ticket is listed
        rw [if_pos notMarketplace] at success
        cases listed : s.activeListingFor? id with
        | some l => simp [listed] at success
        | none =>
            obtain ⟨rfl, rfl⟩ := by simpa [listed] using success
            exact ⟨t, rfl, by simpa using other, owned, fun _ => rfl, rfl, rfl⟩
      · rw [if_neg notMarketplace] at success
        obtain ⟨rfl, rfl⟩ := by simpa using success
        refine ⟨t, rfl, by simpa using other, owned, fun h => ?_, rfl, rfl⟩
        exact absurd h (by simpa using notMarketplace)

theorem transferTicket_ok {id : TicketId} {recipient : Address}
    (success : Reduce.exec (transferTicket caller id recipient) s = (.ok a, s')) :
    ∃ t, s.transfersPaused = false ∧ s.ticket? id = some t ∧ t.status = .owned ∧
      (t.owner = caller ∨ s.approval? id = some caller) ∧ s.activeListingFor? id = none ∧
      a = ⟨.empty, [.ticketTransferred id t.eventId t.owner recipient]⟩ ∧
      s' = { s.updateTicket id (fun t => { t with owner := recipient }) with
        approvals := Assoc.erase id s.approvals } := by
  simp only [transferTicket, Reduce.exec_bind, Reduce.exec_get, Reduce.exec_liftExcept,
    Reduce.exec_ite, Reduce.exec_throw, Reduce.exec_pure, requireTicket,
    requireUnlisted] at success
  by_cases paused : s.transfersPaused = true
  · simp [paused] at success
  rw [if_neg paused] at success
  cases found : s.ticket? id with
  | none => simp [found] at success
  | some t =>
      simp only [found] at success
      by_cases inactive : (!t.isActive) = true
      · simp [inactive] at success
      rw [if_neg inactive] at success
      by_cases unapproved : (t.owner != caller && s.approval? id != some caller) = true
      · simp [unapproved] at success
      rw [if_neg unapproved] at success
      cases listed : s.activeListingFor? id with
      | some l => simp [listed] at success
      | none =>
          simp only [listed, moveTicket_exec, found] at success
          obtain ⟨rfl, rfl⟩ := by simpa using success
          refine ⟨t, by simpa using paused, rfl, ?_, ?_, rfl, rfl, rfl⟩
          · simpa [ticket_isActive_iff] using inactive
          · simp only [Bool.and_eq_true, bne_iff_ne, ne_eq, not_and, not_not] at unapproved
            by_cases owner : t.owner = caller
            · exact .inl owner
            · exact .inr (unapproved owner)

theorem createListing_ok {id : TicketId} {price : Wei} {time : Instant}
    (success : Reduce.exec (createListing caller id price time) s = (.ok a, s')) :
    ∃ t e, s.marketplacePaused = false ∧ s.ticket? id = some t ∧ t.status = .owned ∧
      s.activeListingFor? id = none ∧ t.owner = caller ∧
      s.approval? id = some s.marketplace ∧ s.event? t.eventId = some e ∧
      price.val ≤ e.resaleCap.val ∧
      a = ⟨.listingCreated ⟨s.nextListingId⟩,
        [.listingCreated ⟨s.nextListingId⟩ id t.eventId caller price]⟩ ∧
      s' = { s with
        nextListingId := s.nextListingId + 1,
        listings := s.listings ++ [⟨⟨s.nextListingId⟩, id, t.eventId, caller, price, .active, time⟩],
        activeListingByTicket := Assoc.insert id ⟨s.nextListingId⟩ s.activeListingByTicket } := by
  simp only [createListing, Reduce.exec_bind, Reduce.exec_get, Reduce.exec_liftExcept,
    Reduce.exec_ite, Reduce.exec_throw, Reduce.exec_modify, Reduce.exec_pure, requireTicket,
    requireUnlisted, requireEvent] at success
  by_cases paused : s.marketplacePaused = true
  · simp [paused] at success
  rw [if_neg paused] at success
  cases found : s.ticket? id with
  | none => simp [found] at success
  | some t =>
      simp only [found] at success
      by_cases inactive : (!t.isActive) = true
      · simp [inactive] at success
      rw [if_neg inactive] at success
      cases listed : s.activeListingFor? id with
      | some l => simp [listed] at success
      | none =>
          simp only [listed] at success
          by_cases other : (t.owner != caller) = true
          · simp [other] at success
          rw [if_neg other] at success
          by_cases unapproved : (s.approval? id != some s.marketplace) = true
          · simp [unapproved] at success
          rw [if_neg unapproved] at success
          cases event : s.event? t.eventId with
          | none => simp [event] at success
          | some e =>
              simp only [event] at success
              by_cases overCap : price.val > e.resaleCap.val
              · simp [overCap] at success
              rw [if_neg overCap] at success
              obtain ⟨rfl, rfl⟩ := by simpa using success
              refine ⟨t, e, by simpa using paused, rfl, ?_, rfl, by simpa using other,
                by simpa using unapproved, event, by omega, rfl, rfl⟩
              simpa [ticket_isActive_iff] using inactive

theorem purchaseListing_ok {buyer : Address} {lid : ListingId} {payment : Wei}
    (success : Reduce.exec (purchaseListing buyer lid payment) s = (.ok a, s')) :
    ∃ l e moveLogs moved, s.marketplacePaused = false ∧ s.listing? lid = some l ∧
      l.status = .active ∧ l.seller ≠ buyer ∧ l.price.val ≤ payment.val ∧
      payment.val ≤ (s.balance buyer).val ∧ s.event? l.eventId = some e ∧
      Reduce.exec (moveTicket l.ticketId buyer) (s.debit buyer payment) = (.ok moveLogs, moved) ∧
      a = ⟨.purchased (settlement buyer lid payment l e s.platform),
        moveLogs ++ paymentLogs (payouts (settlement buyer lid payment l e s.platform)) ++
          [.listingSold lid l.ticketId l.eventId buyer l.seller l.price]⟩ ∧
      s' = (moved.creditAll (payouts (settlement buyer lid payment l e s.platform))).closeListing
        lid l.ticketId .sold := by
  simp only [purchaseListing, Reduce.exec_bind, Reduce.exec_get, Reduce.exec_liftExcept,
    Reduce.exec_ite, Reduce.exec_throw, Reduce.exec_modify, Reduce.exec_pure,
    requireActiveListing, requireEvent, payOut_exec] at success
  by_cases paused : s.marketplacePaused = true
  · simp [paused] at success
  rw [if_neg paused] at success
  cases found : s.listing? lid with
  | none => simp [found] at success
  | some l =>
      by_cases inactive : l.isActive = false
      · simp [found, inactive] at success
      have active : l.isActive = true := by simpa using inactive
      simp only [found, active, if_true] at success
      by_cases own : (l.seller == buyer) = true
      · simp [own] at success
      rw [if_neg own] at success
      by_cases underpaid : payment.val < l.price.val
      · simp [underpaid] at success
      rw [if_neg underpaid] at success
      by_cases poor : (s.balance buyer).val < payment.val
      · simp [poor] at success
      rw [if_neg poor] at success
      cases event : s.event? l.eventId with
      | none => simp [event] at success
      | some e =>
          simp only [event] at success
          -- moving the ticket is never refused, so its run is some `(.ok moveLogs, moved)`
          obtain ⟨moveLogs, moved, move⟩ : ∃ moveLogs moved,
              Reduce.exec (moveTicket l.ticketId buyer) (s.debit buyer payment) =
                (.ok moveLogs, moved) := by
            rw [moveTicket_exec]
            cases (s.debit buyer payment).ticket? l.ticketId <;> simp
          simp only [move] at success
          obtain ⟨rfl, rfl⟩ := by simpa using success
          refine ⟨l, e, moveLogs, moved, by simpa using paused, rfl, ?_, by simpa using own,
            by omega, by omega, event, move, by simp, rfl⟩
          exact (listing_isActive_iff l).mp active

theorem cancelListing_ok {lid : ListingId}
    (success : Reduce.exec (cancelListing caller lid) s = (.ok a, s')) :
    ∃ l, s.listing? lid = some l ∧ l.seller = caller ∧ l.status = .active ∧
      a = ⟨.empty, [.listingCancelled lid l.ticketId l.eventId]⟩ ∧
      s' = s.closeListing lid l.ticketId .cancelled := by
  simp only [cancelListing, Reduce.exec_bind, Reduce.exec_get] at success
  cases found : s.listing? lid with
  | none => simp [found] at success
  | some l =>
      simp only [found, Reduce.exec_bind, Reduce.exec_pure, Reduce.exec_ite, Reduce.exec_throw,
        Reduce.exec_modify] at success
      by_cases other : (l.seller != caller) = true
      · simp [other] at success
      rw [if_neg other] at success
      by_cases inactive : (!l.isActive) = true
      · simp [inactive] at success
      rw [if_neg inactive] at success
      obtain ⟨rfl, rfl⟩ := by simpa using success
      refine ⟨l, rfl, by simpa using other, ?_, rfl, rfl⟩
      simpa [listing_isActive_iff] using inactive

theorem setEventPaused_ok {id : EventId} {paused : Bool}
    (success : Reduce.exec (setEventPaused caller id paused) s = (.ok a, s')) :
    ∃ e, s.event? id = some e ∧ s.isEventAuthority e caller = true ∧
      a = ⟨.empty, [if paused then .eventPaused id else .eventUnpaused id]⟩ ∧
      s' = s.updateEvent id (fun e => { e with paused }) := by
  simp only [setEventPaused, Reduce.exec_bind, Reduce.exec_get, Reduce.exec_liftExcept,
    Reduce.exec_ite, Reduce.exec_throw, Reduce.exec_modify, Reduce.exec_pure,
    requireEvent] at success
  cases found : s.event? id with
  | none => simp [found] at success
  | some e =>
      simp only [found] at success
      by_cases refused : (!s.isEventAuthority e caller) = true
      · simp [refused] at success
      rw [if_neg refused] at success
      obtain ⟨rfl, rfl⟩ := by simpa using success
      exact ⟨e, rfl, by simpa using refused, rfl, rfl⟩

theorem finaliseTicket_ok {id : TicketId} {status : TicketStatus}
    (success : Reduce.exec (finaliseTicket caller id status) s = (.ok a, s')) :
    ∃ t e, s.ticket? id = some t ∧ s.event? t.eventId = some e ∧ s.canMint e caller = true ∧
      t.status = .owned ∧ s.activeListingFor? id = none ∧
      a = ⟨.empty, [if status = .used then .ticketUsed id t.eventId
        else .ticketRevoked id t.eventId]⟩ ∧
      s' = { s.updateTicket id (fun t => { t with status }) with
        approvals := Assoc.erase id s.approvals } := by
  simp only [finaliseTicket, Reduce.exec_bind, Reduce.exec_get, Reduce.exec_liftExcept,
    Reduce.exec_ite, Reduce.exec_throw, Reduce.exec_modify, Reduce.exec_pure,
    requireTicket, requireEvent, requireUnlisted] at success
  cases found : s.ticket? id with
  | none => simp [found] at success
  | some t =>
      simp only [found] at success
      cases event : s.event? t.eventId with
      | none => simp [event] at success
      | some e =>
          simp only [event] at success
          by_cases refused : (!s.canMint e caller) = true
          · simp [refused] at success
          rw [if_neg refused] at success
          by_cases inactive : (!t.isActive) = true
          · simp [inactive] at success
          rw [if_neg inactive] at success
          cases listed : s.activeListingFor? id with
          | some l => simp [listed] at success
          | none =>
              obtain ⟨rfl, rfl⟩ := by simpa [listed] using success
              refine ⟨t, e, rfl, event, by simpa using refused, ?_, rfl, by simp, rfl⟩
              simpa [ticket_isActive_iff] using inactive

theorem ownerOnly_ok {change : SettlementState → SettlementState} {log : LedgerLog}
    (success : Reduce.exec (ownerOnly caller change log) s = (.ok a, s')) :
    s.isOwner caller = true ∧ a = ⟨.empty, [log]⟩ ∧ s' = change s := by
  simp only [ownerOnly, Reduce.exec_bind, Reduce.exec_get, Reduce.exec_liftExcept,
    Reduce.exec_modify, Reduce.exec_pure, requireOwner] at success
  by_cases owner : s.isOwner caller = true
  · rw [if_pos owner] at success
    obtain ⟨rfl, rfl⟩ := by simpa using success
    exact ⟨owner, rfl, rfl⟩
  · simp [owner] at success

end Reducer
end TicketMarket
