import Mathlib
import TicketMarket.Proofs.Reachable

/-! # The listing lock

A listed ticket is locked: while a listing of it is active, the ticket stays with the
listing's seller, stays owned and stays approved to the marketplace, so that a purchase
can always move it. The ledger keeps an index from a ticket to its active listing, and
every handler that moves, approves or finalises a ticket consults that index, so the
lock rests on the index agreeing with the listings themselves.

`ListingLock` states the whole invariant: the index against the listings, what an active
listing says of its ticket, and that only owned tickets carry an approval. The lemmas
below show that each kind of write keeps it: writes that leave listings, index, approvals
and tickets alone (`of_frame`), an approval (`setApproval`), a change to an unlisted
ticket (`updateUnlisted`), a new listing (`createListing`) and the closing of one
(`closeListing`); a purchase is a closing followed by a change to a ticket that is no
longer listed (`purchase`). `dispatch` assembles them per call and `of_reachable` carries
the invariant along every run. The last theorem reads it back in terms of the ledger's
queries. -/
set_option autoImplicit false
namespace TicketMarket

open SettlementState

/-- The invariant that locks listed tickets. -/
structure ListingLock (s : SettlementState) : Prop where
  /-- Listings are kept in ascending order of id, so no id is used twice. -/
  ascending : (s.listings.map (·.id)).Pairwise (fun a b => a.val < b.val)
  /-- Every listing id is below the next one to be issued. -/
  belowNext : ∀ l ∈ s.listings.map (·.id), l.val < s.nextListingId
  /-- The index maps a ticket to a listing exactly when the listing is active and of that
  ticket. -/
  index : ∀ t l, s.activeListingFor? t = some l ↔
    ∃ L, s.listing? l = some L ∧ L.status = .active ∧ L.ticketId = t
  /-- An active listing holds an owned ticket of its seller, of its event, approved to the
  marketplace. -/
  listed : ∀ l L, s.listing? l = some L → L.status = .active →
    ∃ T, s.ticket? L.ticketId = some T ∧ T.status = .owned ∧ T.owner = L.seller ∧
      T.eventId = L.eventId ∧ s.approval? L.ticketId = some s.marketplace
  /-- Only an owned ticket carries an approval. -/
  approved : ∀ t op, s.approval? t = some op → ∃ T, s.ticket? t = some T ∧ T.status = .owned

namespace ListingLock

variable {s : SettlementState}

theorem genesis (g : Genesis) : ListingLock (SettlementState.genesis g) where
  ascending := List.Pairwise.nil
  belowNext := by simp [SettlementState.genesis]
  index := by simp [SettlementState.genesis, activeListingFor?, listing?]
  listed := by simp [SettlementState.genesis, listing?]
  approved := by simp [SettlementState.genesis, approval?]

theorem ids_nodup (inv : ListingLock s) : (s.listings.map (·.id)).Nodup :=
  inv.ascending.imp fun {a b} lt same => by
    subst same
    exact Nat.lt_irrefl _ lt

/-- Two active listings of one ticket are the same listing. -/
theorem eq_of_ticketId (inv : ListingLock s) {l₁ l₂ : ListingId} {L₁ L₂ : Listing}
    (found₁ : s.listing? l₁ = some L₁) (active₁ : L₁.status = .active)
    (found₂ : s.listing? l₂ = some L₂) (active₂ : L₂.status = .active)
    (same : L₁.ticketId = L₂.ticketId) : l₁ = l₂ := by
  have indexed₁ := (inv.index L₁.ticketId l₁).mpr ⟨L₁, found₁, active₁, rfl⟩
  have indexed₂ := (inv.index L₁.ticketId l₂).mpr ⟨L₂, found₂, active₂, same.symm⟩
  rw [indexed₁] at indexed₂
  exact Option.some.inj indexed₂

/-- A ticket the index does not list has no active listing. -/
theorem ticketId_ne_of_unlisted (inv : ListingLock s) {id : TicketId}
    (unlisted : s.activeListingFor? id = none) {l : ListingId} {L : Listing}
    (found : s.listing? l = some L) (active : L.status = .active) : L.ticketId ≠ id := by
  intro same
  have indexed := (inv.index id l).mpr ⟨L, found, active, same⟩
  rw [unlisted] at indexed
  cases indexed

/-! ## Each kind of write keeps the lock -/

/-- A write that keeps listings, index, approvals and the marketplace, and finds every
ticket it found before, keeps the lock. -/
theorem of_frame (inv : ListingLock s) {s' : SettlementState}
    (listings : s'.listings = s.listings) (next : s'.nextListingId = s.nextListingId)
    (index : s'.activeListingByTicket = s.activeListingByTicket)
    (approvals : s'.approvals = s.approvals) (marketplace : s'.marketplace = s.marketplace)
    (tickets : ∀ t T, s.ticket? t = some T → s'.ticket? t = some T) : ListingLock s' := by
  have listing : ∀ l, s'.listing? l = s.listing? l := by
    intro l
    simp only [listing?, listings]
  have approval : ∀ t, s'.approval? t = s.approval? t := by
    intro t
    simp only [approval?, approvals]
  refine ⟨?_, ?_, ?_, ?_, ?_⟩
  · rw [listings]
    exact inv.ascending
  · rw [listings, next]
    exact inv.belowNext
  · intro t l
    simp only [activeListingFor?, index, listing]
    exact inv.index t l
  · intro l L found active
    rw [listing] at found
    obtain ⟨T, ticket, owned, owner, event, approvedHere⟩ := inv.listed l L found active
    refine ⟨T, tickets _ _ ticket, owned, owner, event, ?_⟩
    rw [approval, marketplace]
    exact approvedHere
  · intro t op approvedHere
    rw [approval] at approvedHere
    obtain ⟨T, ticket, owned⟩ := inv.approved t op approvedHere
    exact ⟨T, tickets _ _ ticket, owned⟩

/-- Crediting an account from outside keeps the lock. -/
theorem fund (inv : ListingLock s) (account : Address) (amount : Wei) :
    ListingLock (s.fund account amount) := by
  obtain ⟨balances, credited⟩ := s.credit_eq account amount
  rw [SettlementState.fund, credited]
  exact inv.of_frame rfl rfl rfl rfl rfl fun _ _ found => found

/-- Approving an operator for an owned ticket keeps the lock, provided an approval other
than to the marketplace is only given to a ticket that is not listed. -/
theorem setApproval (inv : ListingLock s) {id : TicketId} {operator : Option Address}
    {T : Ticket} (found : s.ticket? id = some T) (owned : T.status = .owned)
    (unlisted : operator ≠ some s.marketplace → s.activeListingFor? id = none) :
    ListingLock (s.setApproval id operator) := by
  -- only the approvals change; the other fields are those of `s` whatever the operator
  have listings : (s.setApproval id operator).listings = s.listings := by
    cases operator <;> rfl
  have same : (s.setApproval id operator).nextListingId = s.nextListingId ∧
      (s.setApproval id operator).activeListingByTicket = s.activeListingByTicket ∧
      (s.setApproval id operator).tickets = s.tickets ∧
      (s.setApproval id operator).marketplace = s.marketplace := by
    cases operator <;> exact ⟨rfl, rfl, rfl, rfl⟩
  obtain ⟨next, index, tickets, marketplace⟩ := same
  have listing : ∀ l, (s.setApproval id operator).listing? l = s.listing? l := by
    intro l
    simp only [listing?, listings]
  have ticket : ∀ t, (s.setApproval id operator).ticket? t = s.ticket? t := by
    intro t
    simp only [ticket?, tickets]
  refine ⟨?_, ?_, ?_, ?_, ?_⟩
  · rw [listings]
    exact inv.ascending
  · rw [listings, next]
    exact inv.belowNext
  · intro t l
    simp only [activeListingFor?, index, listing]
    exact inv.index t l
  · intro l L foundL active
    rw [listing] at foundL
    obtain ⟨T', ticketL, ownedL, owner, event, approvedL⟩ := inv.listed l L foundL active
    refine ⟨T', by rw [ticket]; exact ticketL, ownedL, owner, event, ?_⟩
    rw [approval?_setApproval, marketplace]
    by_cases mine : id = L.ticketId
    · -- the listed ticket itself: only the marketplace may be approved for it
      rw [if_pos mine]
      by_contra other
      exact inv.ticketId_ne_of_unlisted (unlisted other) foundL active mine.symm
    · rw [if_neg mine]
      exact approvedL
  · intro t op approvedHere
    rw [approval?_setApproval] at approvedHere
    rw [ticket]
    by_cases mine : id = t
    · rw [← mine]
      exact ⟨T, found, owned⟩
    · rw [if_neg mine] at approvedHere
      exact inv.approved t op approvedHere

/-- Changing a ticket that has no active listing, and dropping its approval, keeps the
lock. Transfers, purchases and finalising change a ticket this way. -/
theorem updateUnlisted (inv : ListingLock s) {id : TicketId}
    (unlisted : s.activeListingFor? id = none) (f : Ticket → Ticket)
    (keeps : ∀ x, (f x).id = x.id) :
    ListingLock { s.updateTicket id f with approvals := Assoc.erase id s.approvals } := by
  have ticket : ∀ t, ({ s.updateTicket id f with approvals := Assoc.erase id s.approvals } :
      SettlementState).ticket? t = if id = t then (s.ticket? t).map f else s.ticket? t :=
    fun t => s.ticket?_updateTicket id t f keeps
  have approval : ∀ t, ({ s.updateTicket id f with approvals := Assoc.erase id s.approvals } :
      SettlementState).approval? t = if id = t then none else s.approval? t :=
    fun t => Assoc.lookup_erase id t s.approvals
  refine ⟨inv.ascending, inv.belowNext, inv.index, ?_, ?_⟩
  · intro l L found active
    have other : id ≠ L.ticketId := (inv.ticketId_ne_of_unlisted unlisted found active).symm
    rw [ticket, approval, if_neg other, if_neg other]
    exact inv.listed l L found active
  · intro t op approvedHere
    rw [approval] at approvedHere
    by_cases mine : id = t
    · rw [if_pos mine] at approvedHere
      cases approvedHere
    · rw [if_neg mine] at approvedHere
      rw [ticket, if_neg mine]
      exact inv.approved t op approvedHere

/-- Appending an active listing under the next listing id keeps the lock, when its ticket
is owned by its seller, of its event, unlisted and approved to the marketplace. -/
theorem createListing (inv : ListingLock s) (new : Listing)
    (nextId : new.id = ⟨s.nextListingId⟩) (active : new.status = .active) {T : Ticket}
    (found : s.ticket? new.ticketId = some T) (owned : T.status = .owned)
    (owner : T.owner = new.seller) (event : T.eventId = new.eventId)
    (unlisted : s.activeListingFor? new.ticketId = none)
    (approvedHere : s.approval? new.ticketId = some s.marketplace) :
    ListingLock { s with
      nextListingId := s.nextListingId + 1,
      listings := s.listings ++ [new],
      activeListingByTicket := Assoc.insert new.ticketId new.id s.activeListingByTicket } := by
  set s' : SettlementState := { s with
      nextListingId := s.nextListingId + 1,
      listings := s.listings ++ [new],
      activeListingByTicket := Assoc.insert new.ticketId new.id s.activeListingByTicket }
    with hs'
  have fresh : ∀ y ∈ s.listings, y.id ≠ new.id := by
    intro y mem same
    have below := inv.belowNext y.id (List.mem_map_of_mem mem)
    rw [same, nextId] at below
    exact Nat.lt_irrefl _ below
  -- the new id names no listing yet, so no entry of the index points at it
  have unindexed : ∀ t, s.activeListingFor? t ≠ some new.id := by
    intro t indexed
    obtain ⟨L, foundL, -, -⟩ := (inv.index t new.id).mp indexed
    obtain ⟨mem, sameId⟩ := s.mem_of_listing? foundL
    exact fresh L mem sameId
  have listing : ∀ l, s'.listing? l = if new.id = l then some new else s.listing? l := by
    intro l
    rw [s.listing?_of_appended (rfl : s'.listings = s.listings ++ [new])]
    by_cases isNew : new.id = l
    · subst isNew
      cases foundNew : s.listing? new.id with
      | none => simp
      | some L =>
          obtain ⟨mem, sameId⟩ := s.mem_of_listing? foundNew
          exact absurd sameId (fresh L mem)
    · simp [isNew]
  have index : ∀ t, s'.activeListingFor? t =
      if new.ticketId = t then some new.id else s.activeListingFor? t :=
    fun t => Assoc.lookup_insert new.ticketId t new.id s.activeListingByTicket
  refine ⟨?_, ?_, ?_, ?_, ?_⟩
  · simp only [hs', List.map_append, List.map_singleton, List.pairwise_append,
      List.pairwise_singleton, List.mem_singleton, forall_eq, true_and, nextId]
    exact ⟨inv.ascending, inv.belowNext⟩
  · intro l mem
    simp only [hs', List.map_append, List.map_singleton, List.mem_append,
      List.mem_singleton] at mem
    rcases mem with old | rfl
    · exact Nat.lt_succ_of_lt (inv.belowNext l old)
    · rw [nextId]
      exact Nat.lt_succ_self _
  · intro t l
    rw [index, listing]
    by_cases isNew : new.id = l
    · subst isNew
      simp only [if_true, Option.some.injEq, exists_eq_left', active, true_and]
      by_cases mine : new.ticketId = t
      · simp [mine]
      · rw [if_neg mine]
        exact ⟨fun indexed => absurd indexed (unindexed t), fun same => absurd same mine⟩
    · rw [if_neg isNew]
      by_cases mine : new.ticketId = t
      · rw [if_pos mine, ← mine]
        simp only [Option.some.injEq, isNew, false_iff, not_exists, not_and]
        intro L foundL activeL sameTicket
        exact inv.ticketId_ne_of_unlisted unlisted foundL activeL sameTicket
      · rw [if_neg mine]
        exact inv.index t l
  · intro l L foundL activeL
    rw [listing] at foundL
    by_cases isNew : new.id = l
    · rw [if_pos isNew] at foundL
      cases foundL
      exact ⟨T, found, owned, owner, event, approvedHere⟩
    · rw [if_neg isNew] at foundL
      exact inv.listed l L foundL activeL
  · exact inv.approved

/-- Closing an active listing as sold or cancelled, and dropping its ticket from the
index, keeps the lock. -/
theorem closeListing (inv : ListingLock s) {lid : ListingId} {L₀ : Listing}
    (found : s.listing? lid = some L₀) (active : L₀.status = .active) {status : ListingStatus}
    (final : status ≠ .active) : ListingLock (s.closeListing lid L₀.ticketId status) := by
  have ids : (s.closeListing lid L₀.ticketId status).listings.map (·.id) =
      s.listings.map (·.id) :=
    s.updateListing_ids lid _ fun _ => rfl
  refine ⟨?_, ?_, ?_, ?_, ?_⟩
  · rw [ids]
    exact inv.ascending
  · rw [ids]
    exact inv.belowNext
  · intro t l
    rw [activeListingFor?_closeListing, listing?_closeListing]
    by_cases closed : lid = l
    · -- the closed listing is no longer active, and its ticket was the only one indexed to it
      subst closed
      simp only [if_true, found, Option.map_some, Option.some.injEq, exists_eq_left', final,
        false_and, iff_false]
      by_cases mine : L₀.ticketId = t
      · simp [mine]
      · rw [if_neg mine]
        intro indexed
        obtain ⟨L, foundL, -, sameTicket⟩ := (inv.index t lid).mp indexed
        rw [found, Option.some.injEq] at foundL
        subst foundL
        exact mine sameTicket
    · rw [if_neg closed]
      by_cases mine : L₀.ticketId = t
      · simp only [if_pos mine, reduceCtorEq, false_iff, not_exists, not_and]
        intro L foundL activeL sameTicket
        exact closed (inv.eq_of_ticketId found active foundL activeL (mine.trans sameTicket.symm))
      · rw [if_neg mine]
        exact inv.index t l
  · intro l L foundL activeL
    rw [listing?_closeListing] at foundL
    by_cases closed : lid = l
    · rw [if_pos closed, ← closed, found] at foundL
      cases foundL
      exact absurd activeL final
    · rw [if_neg closed] at foundL
      exact inv.listed l L foundL activeL
  · exact inv.approved

/-- A purchase keeps the lock: its state is that of closing the listing and then moving
the ticket, which is no longer listed, with the balances changed on the side. -/
theorem purchase (inv : ListingLock s) {lid : ListingId} {L₀ : Listing}
    (found : s.listing? lid = some L₀) (active : L₀.status = .active) {buyer : Address}
    {payment : Wei} {logs : List LedgerLog} {moved : SettlementState}
    (move : Reduce.exec (Reducer.moveTicket L₀.ticketId buyer) (s.debit buyer payment) =
      (.ok logs, moved))
    (ps : List (Address × Wei × PaymentReason)) :
    ListingLock ((moved.creditAll ps).closeListing lid L₀.ticketId .sold) := by
  obtain ⟨T, ticket, -⟩ := inv.listed lid L₀ found active
  -- the listed ticket exists, so the move changes its owner and drops its approval
  have debited : (s.debit buyer payment).ticket? L₀.ticketId = some T := ticket
  rw [Reducer.moveTicket_exec, debited, Prod.mk.injEq] at move
  obtain ⟨-, rfl⟩ := move
  obtain ⟨balances, credited⟩ := SettlementState.creditAll_eq _ ps
  rw [credited]
  have closed := inv.closeListing found active (by decide : ListingStatus.sold ≠ .active)
  have unlisted : (s.closeListing lid L₀.ticketId .sold).activeListingFor? L₀.ticketId = none := by
    rw [activeListingFor?_closeListing, if_pos rfl]
  have movedLock := closed.updateUnlisted unlisted (fun t => { t with owner := buyer }) fun _ => rfl
  exact movedLock.of_frame rfl rfl rfl rfl rfl fun _ _ foundT => foundT

/-- Every accepted call keeps the lock. -/
theorem dispatch (inv : ListingLock s) {call : LedgerCall} {ctx : CallContext} {a : Applied}
    {s' : SettlementState} (success : Reduce.exec (Reducer.dispatch call ctx) s = (.ok a, s')) :
    ListingLock s' := by
  cases call with
  | createEvent d =>
      rw [Reducer.dispatch, Reducer.createEvent_exec, Prod.mk.injEq] at success
      obtain ⟨-, rfl⟩ := success
      exact inv.of_frame rfl rfl rfl rfl rfl fun _ _ found => found
  | setMinter scope minter enabled =>
      obtain ⟨-, ⟨-, -, rfl⟩ | ⟨-, -, rfl⟩⟩ := Reducer.setMinter_ok success
      · exact inv
      · exact inv.of_frame rfl rfl rfl rfl rfl fun _ _ found => found
  | mintTicket eventId recipient seat metadata =>
      obtain ⟨-, -, -, -, -, -, -, minted⟩ := Reducer.mintTicket_ok success
      have appended : s'.tickets = s.tickets ++
          [⟨⟨s.nextTicketId⟩, eventId, seat, recipient, metadata, .owned, ctx.time⟩] := by
        rw [minted]
      subst minted
      refine inv.of_frame rfl rfl rfl rfl rfl fun t T found => ?_
      -- a minted ticket is appended, so every ticket found before is still found first
      rw [s.ticket?_of_appended appended, found]
      rfl
  | approve id operator =>
      obtain ⟨T, found, -, owned, unlisted, -, rfl⟩ := Reducer.approve_ok success
      exact inv.setApproval found owned unlisted
  | transferTicket id recipient =>
      obtain ⟨T, -, -, -, -, unlisted, -, rfl⟩ := Reducer.transferTicket_ok success
      exact inv.updateUnlisted unlisted _ fun _ => rfl
  | createListing id price =>
      obtain ⟨T, e, -, found, owned, unlisted, owner, approvedHere, -, -, -, rfl⟩ :=
        Reducer.createListing_ok success
      exact inv.createListing _ rfl rfl found owned owner rfl unlisted approvedHere
  | purchaseListing lid payment =>
      obtain ⟨L, e, logs, moved, -, found, active, -, -, -, -, move, -, rfl⟩ :=
        Reducer.purchaseListing_ok success
      exact inv.purchase found active move _
  | cancelListing lid =>
      obtain ⟨L, found, -, active, -, rfl⟩ := Reducer.cancelListing_ok success
      exact inv.closeListing found active (by decide)
  | pauseEvent id | unpauseEvent id =>
      obtain ⟨e, -, -, -, rfl⟩ := Reducer.setEventPaused_ok success
      exact inv.of_frame rfl rfl rfl rfl rfl fun _ _ found => found
  | setTransfersPaused paused | setMarketplacePaused paused | setPlatformFee fee
  | setPlatformAddress address =>
      obtain ⟨-, -, rfl⟩ := Reducer.ownerOnly_ok success
      exact inv.of_frame rfl rfl rfl rfl rfl fun _ _ found => found
  | markUsed id | revokeTicket id =>
      obtain ⟨T, e, -, -, -, -, unlisted, -, rfl⟩ := Reducer.finaliseTicket_ok success
      exact inv.updateUnlisted unlisted _ fun _ => rfl

/-- The lock holds in every state a deployment can reach. -/
theorem of_reachable {g : Genesis} {s : SettlementState} (reach : Reachable g s) :
    ListingLock s :=
  Reachable.induction (genesis g) (fun _ _ _ _ _ _ inv _ success => inv.dispatch success)
    (fun _ account amount _ inv => inv.fund account amount) reach

/-! ## The lock read through the ledger's queries -/

/-- A listing in the list is found under its own id. -/
theorem listing?_of_mem (inv : ListingLock s) {L : Listing} (mem : L ∈ s.listings) :
    s.listing? L.id = some L :=
  s.listing?_of_mem inv.ids_nodup mem

/-- No ticket has two active listings. -/
theorem active_unique (inv : ListingLock s) {L₁ L₂ : Listing} (mem₁ : L₁ ∈ s.listings)
    (mem₂ : L₂ ∈ s.listings) (active₁ : L₁.status = .active) (active₂ : L₂.status = .active)
    (same : L₁.ticketId = L₂.ticketId) : L₁ = L₂ := by
  have found₁ := inv.listing?_of_mem mem₁
  have found₂ := inv.listing?_of_mem mem₂
  have sameId := inv.eq_of_ticketId found₁ active₁ found₂ active₂ same
  rw [sameId, found₂] at found₁
  exact (Option.some.inj found₁).symm

/-- The active listings, in ascending order of id, are exactly the listings the index
points to. -/
theorem activeListingIds_spec (inv : ListingLock s) :
    s.activeListingIds.Pairwise (fun a b => a.val < b.val) ∧
      ∀ l, l ∈ s.activeListingIds ↔ ∃ t, s.activeListingFor? t = some l := by
  refine ⟨inv.ascending.sublist (List.filter_sublist.map _), fun l => ?_⟩
  simp only [activeListingIds, List.mem_map, List.mem_filter, Reducer.listing_isActive_iff]
  constructor
  · rintro ⟨L, ⟨mem, active⟩, rfl⟩
    exact ⟨L.ticketId, (inv.index _ _).mpr ⟨L, inv.listing?_of_mem mem, active, rfl⟩⟩
  · rintro ⟨t, indexed⟩
    obtain ⟨L, found, active, -⟩ := (inv.index t l).mp indexed
    obtain ⟨mem, sameId⟩ := s.mem_of_listing? found
    exact ⟨L, ⟨mem, active⟩, sameId⟩

end ListingLock

/-- In every reachable state the index of active listings agrees with the listings, so no
ticket has two active listings and the active-listings query answers the index's values in
ascending order; every active listing holds an owned ticket of its seller and event that
is approved to the marketplace; and only owned tickets carry an approval. -/
theorem reachable_listing_lock {g : Genesis} {s : SettlementState} (reach : Reachable g s) :
    (∀ t l, s.activeListingFor? t = some l ↔
      ∃ L, s.listing? l = some L ∧ L.status = .active ∧ L.ticketId = t) ∧
    (∀ L₁ ∈ s.listings, ∀ L₂ ∈ s.listings, L₁.status = .active → L₂.status = .active →
      L₁.ticketId = L₂.ticketId → L₁ = L₂) ∧
    (∃ ids, s.query .activeListings = .listingIds ids ∧
      ids.Pairwise (fun a b => a.val < b.val) ∧
      ∀ l, l ∈ ids ↔ ∃ t, s.activeListingFor? t = some l) ∧
    (∀ l L, s.listing? l = some L → L.status = .active →
      ∃ T, s.ticket? L.ticketId = some T ∧ T.status = .owned ∧ T.owner = L.seller ∧
        T.eventId = L.eventId ∧ s.approval? L.ticketId = some s.marketplace) ∧
    (∀ t op, s.approval? t = some op → ∃ T, s.ticket? t = some T ∧ T.status = .owned) := by
  have inv := ListingLock.of_reachable reach
  obtain ⟨ascending, answered⟩ := inv.activeListingIds_spec
  refine ⟨inv.index, ?_, ⟨s.activeListingIds, rfl, ascending, answered⟩, inv.listed, inv.approved⟩
  intro L₁ mem₁ L₂ mem₂ active₁ active₂ same
  exact inv.active_unique mem₁ mem₂ active₁ active₂ same

/-- A deployment in which an event was created, a ticket minted, approved to the marketplace
and listed reaches a state where the lock holds with one active listing. -/
theorem listed_ticket_locked :
    let t : Instant := ⟨0, 0, 0⟩
    let g : Genesis := ⟨⟨1⟩, ⟨7⟩, ⟨Bps.lit 250, ⟨6⟩⟩⟩
    let draft : EventDraft := ⟨⟨1⟩, 10, Bps.lit 500, Bps.lit 1000, ⟨3⟩, ⟨100, by decide⟩⟩
    let s₁ := ((SettlementState.genesis g).run (.createEvent draft) ⟨⟨2⟩, t⟩).2
    let s₂ := (s₁.run (.mintTicket ⟨1⟩ ⟨4⟩ ⟨"A1"⟩ none) ⟨⟨2⟩, t⟩).2
    let s₃ := (s₂.run (.approve ⟨1⟩ (some ⟨7⟩)) ⟨⟨4⟩, t⟩).2
    let s := (s₃.run (.createListing ⟨1⟩ ⟨110, by decide⟩) ⟨⟨4⟩, t⟩).2
    Reachable g s ∧
    ((∀ t l, s.activeListingFor? t = some l ↔
      ∃ L, s.listing? l = some L ∧ L.status = .active ∧ L.ticketId = t) ∧
    (∀ L₁ ∈ s.listings, ∀ L₂ ∈ s.listings, L₁.status = .active → L₂.status = .active →
      L₁.ticketId = L₂.ticketId → L₁ = L₂) ∧
    (∃ ids, s.query .activeListings = .listingIds ids ∧
      ids.Pairwise (fun a b => a.val < b.val) ∧
      ∀ l, l ∈ ids ↔ ∃ t, s.activeListingFor? t = some l) ∧
    (∀ l L, s.listing? l = some L → L.status = .active →
      ∃ T, s.ticket? L.ticketId = some T ∧ T.status = .owned ∧ T.owner = L.seller ∧
        T.eventId = L.eventId ∧ s.approval? L.ticketId = some s.marketplace) ∧
    (∀ t op, s.approval? t = some op → ∃ T, s.ticket? t = some T ∧ T.status = .owned)) := by
  intro t g draft s₁ s₂ s₃ s
  have reach : Reachable g s := .call _ _ (.call _ _ (.call _ _ (.call _ _ .genesis)))
  exact ⟨reach, reachable_listing_lock reach⟩

end TicketMarket
