import Mathlib
import TicketMarket.Proofs.ListingLock
import TicketMarket.Proofs.Balances

/-! # A purchase settles exactly

In a state where the listing lock holds, an accepted purchase has one closed form
(`purchase_effect`): the payment is escrowed from the buyer, the listed ticket, which
exists and belongs to the seller, is given to the buyer with its approval dropped, the
four payouts are credited, and the listing is closed as sold.

The split is exact only while the event's royalty and the platform's fee together stay
within the whole price. Every royalty passes `validateDraft`, which caps it at
`maxRoyalty`, and every fee set after deployment passes `validateCall`, which caps it at
`maxPlatformFee`; so a deployment whose own fee is at most 9000 basis points keeps both
bounds in every reachable state (`RatesBounded.of_reachable`). Under those bounds, and
while the exact total of all balances fits in an amount, `purchase_settles_exactly` gives
the settlement, the change to every account's balance, the unchanged total, the ticket,
the listing and the logs. -/
set_option autoImplicit false
namespace TicketMarket

open SettlementState

/-! ## What a purchase does -/

section Effect

variable {s s' : SettlementState} {a : Applied} {buyer : Address} {lid : ListingId}
  {payment : Wei}

/-- In a locked state an accepted purchase escrows the payment, gives the listed ticket to
the buyer, credits every payout and closes the listing. -/
theorem purchase_effect (inv : ListingLock s)
    (success : Reduce.exec (Reducer.purchaseListing buyer lid payment) s = (.ok a, s')) :
    ∃ L e T, s.marketplacePaused = false ∧ s.listing? lid = some L ∧ L.status = .active ∧
      L.seller ≠ buyer ∧ L.price.val ≤ payment.val ∧ payment.val ≤ (s.balance buyer).val ∧
      s.event? L.eventId = some e ∧ s.ticket? L.ticketId = some T ∧ T.owner = L.seller ∧
      a = ⟨.purchased (Reducer.settlement buyer lid payment L e s.platform),
        .ticketTransferred L.ticketId L.eventId L.seller buyer ::
          paymentLogs (Reducer.payouts (Reducer.settlement buyer lid payment L e s.platform)) ++
          [.listingSold lid L.ticketId L.eventId buyer L.seller L.price]⟩ ∧
      s' = (({ (s.debit buyer payment).updateTicket L.ticketId (fun t => { t with owner := buyer })
          with approvals := Assoc.erase L.ticketId s.approvals } : SettlementState).creditAll
            (Reducer.payouts (Reducer.settlement buyer lid payment L e s.platform))).closeListing
          lid L.ticketId .sold := by
  obtain ⟨L, e, moveLogs, moved, paused, found, active, notOwn, paid, funded, event, move,
    rfl, rfl⟩ := Reducer.purchaseListing_ok success
  -- the lock says the listed ticket exists, so the move gives it to the buyer
  obtain ⟨T, ticket, -, owner, sameEvent, -⟩ := inv.listed lid L found active
  have debited : (s.debit buyer payment).ticket? L.ticketId = some T := ticket
  rw [Reducer.moveTicket_exec, debited, Prod.mk.injEq, Except.ok.injEq] at move
  obtain ⟨rfl, rfl⟩ := move
  refine ⟨L, e, T, paused, found, active, notOwn, paid, funded, event, ticket, owner, ?_, rfl⟩
  rw [owner, sameEvent]
  rfl

end Effect

/-! ## Rates stay within the whole price -/

theorem validateDraft_royalty {d : EventDraft} (valid : validateDraft d = .ok ()) :
    d.royalty.val ≤ maxRoyalty := by
  unfold validateDraft at valid
  -- every refusing branch contradicts `valid`; in the one left the royalty was not too high
  split_ifs at valid with fingerprint noSupply tooHigh
  omega

theorem validateCall_platformFee {fee : Bps}
    (valid : validateCall (.setPlatformFee fee) = .ok ()) : fee.val ≤ maxPlatformFee := by
  simp only [validateCall] at valid
  split_ifs at valid with tooHigh
  omega

/-- The rates a price is split by: the platform's fee is at most 9000 basis points and
every event's royalty at most `maxRoyalty`, so together they never take more than the
whole price. -/
structure RatesBounded (s : SettlementState) : Prop where
  fee : s.platform.fee.val ≤ 9000
  royalty : ∀ e ∈ s.events, e.royalty.val ≤ maxRoyalty

namespace RatesBounded

variable {s : SettlementState}

theorem within (rates : RatesBounded s) {id : EventId} {e : Event}
    (found : s.event? id = some e) : e.royalty.val + s.platform.fee.val ≤ 10000 := by
  have royalty := rates.royalty e (List.mem_of_find?_eq_some found)
  have fee := rates.fee
  simp only [maxRoyalty] at royalty
  omega

/-- Changing events without touching their royalties keeps every royalty bounded. -/
theorem updateEvent (rates : RatesBounded s) (id : EventId) (f : Event → Event)
    (keeps : ∀ e, (f e).royalty = e.royalty) :
    ∀ e ∈ (s.updateEvent id f).events, e.royalty.val ≤ maxRoyalty := by
  intro e mem
  simp only [SettlementState.updateEvent, List.mem_map] at mem
  obtain ⟨old, oldMem, rfl⟩ := mem
  split
  · rw [keeps]
    exact rates.royalty old oldMem
  · exact rates.royalty old oldMem

/-- Every accepted call keeps the rates bounded: only a new event brings a royalty, and it
passed validation; only the owner's fee change moves the fee, and it passed validation. -/
theorem dispatch (rates : RatesBounded s) (inv : ListingLock s) {call : LedgerCall}
    {ctx : CallContext} {a : Applied} {s' : SettlementState}
    (valid : validateCall call = .ok ())
    (success : Reduce.exec (Reducer.dispatch call ctx) s = (.ok a, s')) : RatesBounded s' := by
  cases call with
  | createEvent d =>
      rw [Reducer.dispatch, Reducer.createEvent_exec, Prod.mk.injEq] at success
      obtain ⟨-, rfl⟩ := success
      refine ⟨rates.fee, fun e mem => ?_⟩
      simp only [List.mem_append, List.mem_singleton] at mem
      rcases mem with old | rfl
      · exact rates.royalty e old
      · exact validateDraft_royalty valid
  | setMinter scope minter enabled =>
      obtain ⟨-, ⟨-, -, rfl⟩ | ⟨-, -, rfl⟩⟩ := Reducer.setMinter_ok success
      · exact rates
      · exact ⟨rates.fee, rates.royalty⟩
  | mintTicket eventId recipient seat metadata =>
      obtain ⟨-, -, -, -, -, -, -, rfl⟩ := Reducer.mintTicket_ok success
      exact ⟨rates.fee, rates.updateEvent _ _ fun _ => rfl⟩
  | approve id operator =>
      obtain ⟨-, -, -, -, -, -, rfl⟩ := Reducer.approve_ok success
      cases operator <;> exact ⟨rates.fee, rates.royalty⟩
  | transferTicket id recipient =>
      obtain ⟨-, -, -, -, -, -, -, rfl⟩ := Reducer.transferTicket_ok success
      exact ⟨rates.fee, rates.royalty⟩
  | createListing id price =>
      obtain ⟨-, -, -, -, -, -, -, -, -, -, -, rfl⟩ := Reducer.createListing_ok success
      exact ⟨rates.fee, rates.royalty⟩
  | purchaseListing lid payment =>
      obtain ⟨L, e, T, -, -, -, -, -, -, -, -, -, -, rfl⟩ := purchase_effect inv success
      obtain ⟨balances, credited⟩ := SettlementState.creditAll_eq _
        (Reducer.payouts (Reducer.settlement ctx.caller lid payment L e s.platform))
      rw [credited]
      exact ⟨rates.fee, rates.royalty⟩
  | cancelListing lid =>
      obtain ⟨-, -, -, -, -, rfl⟩ := Reducer.cancelListing_ok success
      exact ⟨rates.fee, rates.royalty⟩
  | pauseEvent id | unpauseEvent id =>
      obtain ⟨-, -, -, -, rfl⟩ := Reducer.setEventPaused_ok success
      exact ⟨rates.fee, rates.updateEvent _ _ fun _ => rfl⟩
  | setTransfersPaused paused | setMarketplacePaused paused | setPlatformAddress address =>
      obtain ⟨-, -, rfl⟩ := Reducer.ownerOnly_ok success
      exact ⟨rates.fee, rates.royalty⟩
  | setPlatformFee fee =>
      obtain ⟨-, -, rfl⟩ := Reducer.ownerOnly_ok success
      have capped := validateCall_platformFee valid
      simp only [maxPlatformFee] at capped
      exact ⟨by simp only; omega, rates.royalty⟩
  | markUsed id | revokeTicket id =>
      obtain ⟨-, -, -, -, -, -, -, -, rfl⟩ := Reducer.finaliseTicket_ok success
      exact ⟨rates.fee, rates.royalty⟩

/-- A deployment whose own fee is at most 9000 basis points keeps its rates bounded in
every reachable state. -/
theorem of_reachable {g : Genesis} (feeBound : g.platform.fee.val ≤ 9000) {s : SettlementState}
    (reach : Reachable g s) : RatesBounded s :=
  Reachable.induction (P := RatesBounded) ⟨feeBound, by simp [SettlementState.genesis]⟩
    (fun _ _ _ _ _ reach rates valid success =>
      rates.dispatch (ListingLock.of_reachable reach) valid success)
    (fun s account amount _ rates => by
      obtain ⟨balances, credited⟩ := s.credit_eq account amount
      rw [SettlementState.fund, credited]
      exact ⟨rates.fee, rates.royalty⟩)
    reach

end RatesBounded

/-! ## Balances after a purchase -/

/-- Escrowing a payment that the buyer holds and then crediting payouts that add up to it,
while the exact total fits in an amount, moves every account by exactly what it is paid
less what it paid, and keeps the total. -/
theorem creditAll_after_debit {x y : SettlementState} {buyer : Address} {payment : Wei}
    {ps : List (Address × Wei × PaymentReason)} (covered : payment.val ≤ (x.balance buyer).val)
    (pays : (ps.map (·.2.1.val)).sum = payment.val) (fits : x.heldTotal < weiLimit)
    (escrowed : y.balances = (x.debit buyer payment).balances) :
    (y.creditAll ps).heldTotal = x.heldTotal ∧
    ∀ acct, (((y.creditAll ps).balance acct).val : ℤ) =
      (x.balance acct).val - (if acct = buyer then (payment.val : ℤ) else 0) +
        (ps.map fun p => if acct = p.1 then (p.2.1.val : ℤ) else 0).sum := by
  have total : y.heldTotal + payment.val = x.heldTotal := by
    have debited := x.debit_heldTotal covered
    simp only [heldTotal, escrowed] at debited ⊢
    exact debited
  have room : y.heldTotal + (ps.map (·.2.1.val)).sum < weiLimit := by omega
  refine ⟨?_, fun acct => ?_⟩
  · rw [y.creditAll_heldTotal ps room]
    omega
  · have sameBalance : y.balance acct = (x.debit buyer payment).balance acct := by
      simp only [balance, escrowed]
    have paidTo : (((ps.map fun p => if acct = p.1 then p.2.1.val else 0).sum : ℕ) : ℤ) =
        (ps.map fun p => if acct = p.1 then (p.2.1.val : ℤ) else 0).sum := by
      rw [Nat.cast_list_sum, List.map_map]
      congr 1
      apply List.map_congr_left
      intro p _
      simp only [Function.comp_apply]
      split <;> simp
    rw [y.creditAll_balance ps room acct, sameBalance, x.debit_balance, Nat.cast_add, paidTo]
    by_cases isBuyer : acct = buyer
    · subst isBuyer
      rw [if_pos rfl, if_pos rfl, Nat.cast_sub covered]
    · rw [if_neg isBuyer, if_neg isBuyer, Nat.sub_zero, Int.sub_zero]

/-- A purchase accepted in a reachable state of a deployment whose fee is at most 9000
basis points, while the exact total of all balances fits in an amount, settles exactly:
each cut is the floor of its share of the price and the seller gets the rest, the buyer
gets back exactly the overpayment, every account moves by exactly what it is paid less what
it paid, the total is kept, the ticket goes to the buyer without its approval, the listing
is sold and leaves the index, and the logs record the transfer, each payout that is not
zero and the sale, in that order. -/
theorem purchase_settles_exactly {g : Genesis} {s s' : SettlementState} {buyer : Address}
    {time : Instant} {lid : ListingId} {payment : Wei} {a : Applied} (reach : Reachable g s)
    (feeBound : g.platform.fee.val ≤ 9000) (fits : s.heldTotal ≤ Wei.max.val)
    (success : s.run (.purchaseListing lid payment) ⟨buyer, time⟩ = (.ok a, s')) :
    ∃ L e T st, s.listing? lid = some L ∧ s.event? L.eventId = some e ∧
      s.ticket? L.ticketId = some T ∧ T.owner = L.seller ∧ buyer ≠ L.seller ∧
      a.output = .purchased st ∧
      st.listingId = lid ∧ st.ticketId = L.ticketId ∧ st.buyer = buyer ∧
      st.seller = L.seller ∧ st.price = L.price ∧ st.artist = e.artist ∧
      st.platform = s.platform.address ∧
      st.royalty.val = L.price.val * e.royalty.val / 10000 ∧
      st.platformCut.val = L.price.val * s.platform.fee.val / 10000 ∧
      st.sellerProceeds.val = L.price.val - st.royalty.val - st.platformCut.val ∧
      st.royalty.val + st.platformCut.val + st.sellerProceeds.val = L.price.val ∧
      L.price.val ≤ payment.val ∧ st.refund.val = payment.val - L.price.val ∧
      (∀ acct, ((s'.balance acct).val : ℤ) = (s.balance acct).val
        - (if acct = buyer then (payment.val : ℤ) else 0)
        + (if acct = st.artist then (st.royalty.val : ℤ) else 0)
        + (if acct = st.platform then (st.platformCut.val : ℤ) else 0)
        + (if acct = st.seller then (st.sellerProceeds.val : ℤ) else 0)
        + (if acct = buyer then (st.refund.val : ℤ) else 0)) ∧
      s'.heldTotal = s.heldTotal ∧
      s'.ticket? L.ticketId = some { T with owner := buyer } ∧
      s'.approval? L.ticketId = none ∧
      s'.listing? lid = some { L with status := .sold } ∧
      s'.activeListingFor? L.ticketId = none ∧
      a.logs = .ticketTransferred L.ticketId L.eventId L.seller buyer ::
        paymentLogs (Reducer.payouts st) ++
          [.listingSold lid L.ticketId L.eventId buyer L.seller L.price] := by
  have inv := ListingLock.of_reachable reach
  have rates := RatesBounded.of_reachable feeBound reach
  -- a purchase has nothing to validate on its own, so its handler ran
  have ran : Reduce.exec (Reducer.purchaseListing buyer lid payment) s = (.ok a, s') := by
    rw [SettlementState.run, Reducer.reduce_exec] at success
    exact success
  obtain ⟨L, e, T, -, found, -, notOwn, paid, funded, event, ticket, owner, rfl, rfl⟩ :=
    purchase_effect inv ran
  set st := Reducer.settlement buyer lid payment L e s.platform with settled
  obtain ⟨royalty, cut, proceeds, split⟩ :=
    splitPrice_exact L.price e.royalty s.platform.fee (rates.within event)
  have refund : st.refund.val = payment.val - L.price.val := rfl
  have pays : ((Reducer.payouts st).map (·.2.1.val)).sum = payment.val := by
    simp only [Reducer.payouts, List.map_cons, List.map_nil, List.sum_cons, List.sum_nil]
    change (splitPrice L.price e.royalty s.platform.fee).1.val +
      ((splitPrice L.price e.royalty s.platform.fee).2.1.val +
        ((splitPrice L.price e.royalty s.platform.fee).2.2.val + (st.refund.val + 0))) = _
    omega
  obtain ⟨total, moved⟩ := creditAll_after_debit funded pays
    (Nat.lt_of_le_of_lt fits Wei.max.lt) (y := { (s.debit buyer payment).updateTicket
      L.ticketId (fun t => { t with owner := buyer }) with
        approvals := Assoc.erase L.ticketId s.approvals }) rfl
  obtain ⟨held, credited⟩ := SettlementState.creditAll_eq
    { (s.debit buyer payment).updateTicket L.ticketId (fun t => { t with owner := buyer }) with
        approvals := Assoc.erase L.ticketId s.approvals } (Reducer.payouts st)
  refine ⟨L, e, T, st, found, event, ticket, owner, Ne.symm notOwn, rfl, rfl, rfl, rfl, rfl, rfl,
    rfl, rfl, royalty, cut, proceeds, split, paid, refund, fun acct => ?_, total, ?_, ?_, ?_, ?_,
    rfl⟩
  · -- each account moves by its share of the four payouts, less the escrowed payment
    have buyerField : st.buyer = buyer := rfl
    refine (moved acct).trans ?_
    simp only [Reducer.payouts, List.map_cons, List.map_nil, List.sum_cons, List.sum_nil,
      buyerField]
    ring
  · -- the ticket now belongs to the buyer
    rw [credited]
    show ((s.debit buyer payment).updateTicket L.ticketId _).ticket? L.ticketId = _
    rw [ticket?_updateTicket _ _ _ (fun t => { t with owner := buyer }) fun _ => rfl, if_pos rfl]
    show (s.ticket? L.ticketId).map _ = _
    rw [ticket]
    rfl
  · rw [credited]
    exact (Assoc.lookup_erase L.ticketId L.ticketId s.approvals).trans (if_pos rfl)
  · rw [listing?_closeListing, if_pos rfl, credited]
    show (s.listing? lid).map _ = _
    rw [found]
    rfl
  · rw [activeListingFor?_closeListing, if_pos rfl]

/-- An overpaid purchase of a listing whose cuts both round down: the buyer pays 120 for a
listing at 110 with a 5% royalty and a 2.5% fee, so the artist gets 5, the platform 2, the
seller 103 and the buyer 10 back. -/
theorem overpaid_purchase_settles :
    let t : Instant := ⟨0, 0, 0⟩
    let g : Genesis := ⟨⟨1⟩, ⟨7⟩, ⟨Bps.lit 250, ⟨6⟩⟩⟩
    let draft : EventDraft := ⟨⟨1⟩, 10, Bps.lit 500, Bps.lit 1000, ⟨3⟩, ⟨100, by decide⟩⟩
    let s₁ := ((SettlementState.genesis g).run (.createEvent draft) ⟨⟨2⟩, t⟩).2
    let s₂ := (s₁.run (.mintTicket ⟨1⟩ ⟨4⟩ ⟨"A1"⟩ none) ⟨⟨2⟩, t⟩).2
    let s₃ := (s₂.run (.approve ⟨1⟩ (some ⟨7⟩)) ⟨⟨4⟩, t⟩).2
    let s₄ := (s₃.run (.createListing ⟨1⟩ ⟨110, by decide⟩) ⟨⟨4⟩, t⟩).2
    let s := s₄.fund ⟨5⟩ ⟨200, by decide⟩
    let buyer : Address := ⟨5⟩
    let lid : ListingId := ⟨1⟩
    let payment : Wei := ⟨120, by decide⟩
    let a : Applied := ⟨.purchased ⟨lid, ⟨1⟩, buyer, ⟨4⟩, ⟨110, by decide⟩, ⟨5, by decide⟩,
        ⟨2, by decide⟩, ⟨103, by decide⟩, ⟨10, by decide⟩, ⟨3⟩, ⟨6⟩⟩,
      [.ticketTransferred ⟨1⟩ ⟨1⟩ ⟨4⟩ buyer, .payment ⟨3⟩ ⟨5, by decide⟩ .royalty,
        .payment ⟨6⟩ ⟨2, by decide⟩ .platformFee, .payment ⟨4⟩ ⟨103, by decide⟩ .sellerProceeds,
        .payment buyer ⟨10, by decide⟩ .refund,
        .listingSold lid ⟨1⟩ ⟨1⟩ buyer ⟨4⟩ ⟨110, by decide⟩]⟩
    let s' := (s.run (.purchaseListing lid payment) ⟨buyer, t⟩).2
    (Reachable g s ∧ g.platform.fee.val ≤ 9000 ∧ s.heldTotal ≤ Wei.max.val ∧
      s.run (.purchaseListing lid payment) ⟨buyer, t⟩ = (.ok a, s')) ∧
    ∃ L e T st, s.listing? lid = some L ∧ s.event? L.eventId = some e ∧
      s.ticket? L.ticketId = some T ∧ T.owner = L.seller ∧ buyer ≠ L.seller ∧
      a.output = .purchased st ∧
      st.listingId = lid ∧ st.ticketId = L.ticketId ∧ st.buyer = buyer ∧
      st.seller = L.seller ∧ st.price = L.price ∧ st.artist = e.artist ∧
      st.platform = s.platform.address ∧
      st.royalty.val = L.price.val * e.royalty.val / 10000 ∧
      st.platformCut.val = L.price.val * s.platform.fee.val / 10000 ∧
      st.sellerProceeds.val = L.price.val - st.royalty.val - st.platformCut.val ∧
      st.royalty.val + st.platformCut.val + st.sellerProceeds.val = L.price.val ∧
      L.price.val ≤ payment.val ∧ st.refund.val = payment.val - L.price.val ∧
      (∀ acct, ((s'.balance acct).val : ℤ) = (s.balance acct).val
        - (if acct = buyer then (payment.val : ℤ) else 0)
        + (if acct = st.artist then (st.royalty.val : ℤ) else 0)
        + (if acct = st.platform then (st.platformCut.val : ℤ) else 0)
        + (if acct = st.seller then (st.sellerProceeds.val : ℤ) else 0)
        + (if acct = buyer then (st.refund.val : ℤ) else 0)) ∧
      s'.heldTotal = s.heldTotal ∧
      s'.ticket? L.ticketId = some { T with owner := buyer } ∧
      s'.approval? L.ticketId = none ∧
      s'.listing? lid = some { L with status := .sold } ∧
      s'.activeListingFor? L.ticketId = none ∧
      a.logs = .ticketTransferred L.ticketId L.eventId L.seller buyer ::
        paymentLogs (Reducer.payouts st) ++
          [.listingSold lid L.ticketId L.eventId buyer L.seller L.price] := by
  intro t g draft s₁ s₂ s₃ s₄ s buyer lid payment a s'
  have reach : Reachable g s :=
    .fund _ _ (.call _ _ (.call _ _ (.call _ _ (.call _ _ .genesis))))
  have feeBound : g.platform.fee.val ≤ 9000 := by decide
  have fits : s.heldTotal ≤ Wei.max.val := by decide
  have success : s.run (.purchaseListing lid payment) ⟨buyer, t⟩ = (.ok a, s') :=
    Prod.ext (by decide) rfl
  exact ⟨⟨reach, feeBound, fits, success⟩,
    purchase_settles_exactly reach feeBound fits success⟩

end TicketMarket
