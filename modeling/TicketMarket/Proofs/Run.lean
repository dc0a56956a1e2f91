import Mathlib
import TicketMarket.Settlement.Transition

/-! # Running a step, and reading the state back after a write

A `Reduce` step is run from a state by `Reduce.exec`. The first lemmas evaluate each form a
handler is written in, so that a handler's run unfolds to the checks it makes and the
writes it does. `moveTicket_exec` and `payOut_exec` give the two shared write phases in
closed form. The rest say what `ticket?`, `listing?`, `approval?`, `activeListingFor?`
and `balance` read after each kind of write: an update in place changes only the entry it
names, an appended entry is found only under an id nothing else has, and a credit or a
debit touches one account. -/
set_option autoImplicit false
namespace TicketMarket

namespace Reduce

variable {α β : Type}

@[simp] theorem exec_pure (a : α) (s : SettlementState) :
    exec (pure a : Reduce α) s = (.ok a, s) := rfl

@[simp] theorem exec_throw (e : Rejection) (s : SettlementState) :
    exec (throw e : Reduce α) s = (.error e, s) := rfl

@[simp] theorem exec_get (s : SettlementState) :
    exec (get : Reduce SettlementState) s = (.ok s, s) := rfl

@[simp] theorem exec_modify (f : SettlementState → SettlementState) (s : SettlementState) :
    exec (modify f : Reduce PUnit) s = (.ok ⟨⟩, f s) := rfl

@[simp] theorem exec_liftExcept (x : Except Rejection α) (s : SettlementState) :
    exec (liftExcept x : Reduce α) s = (x, s) := by
  cases x <;> rfl

@[simp] theorem exec_bind (m : Reduce α) (f : α → Reduce β) (s : SettlementState) :
    exec (m >>= f) s = match exec m s with
      | (.ok a, s') => exec (f a) s'
      | (.error e, s') => (.error e, s') := by
  simp only [exec, ExceptT.run_bind, StateT.run_bind]
  rcases m.run.run s with ⟨_ | a, s'⟩ <;> rfl

@[simp] theorem exec_map (f : α → β) (m : Reduce α) (s : SettlementState) :
    exec (f <$> m) s = match exec m s with
      | (.ok a, s') => (.ok (f a), s')
      | (.error e, s') => (.error e, s') := by
  simp only [exec, ExceptT.run_map, StateT.run_map]
  rcases m.run.run s with ⟨_ | a, s'⟩ <;> rfl

@[simp] theorem exec_ite (c : Prop) [Decidable c] (m₁ m₂ : Reduce α) (s : SettlementState) :
    exec (if c then m₁ else m₂) s = if c then exec m₁ s else exec m₂ s := by
  split <;> rfl

end Reduce

/-- The state after crediting each payout in turn. -/
def SettlementState.creditAll (s : SettlementState) (ps : List (Address × Wei × PaymentReason)) :
    SettlementState :=
  ps.foldl (fun st p => st.credit p.1 p.2.1) s

/-- The logs of a list of payouts: one payment for each payout that is not zero, in order. -/
def paymentLogs (ps : List (Address × Wei × PaymentReason)) : List LedgerLog :=
  ps.filterMap fun p => if p.2.1.isZero then none else some (.payment p.1 p.2.1 p.2.2)

namespace Reducer

open SettlementState

/-- Moving a ticket that exists gives it to the recipient and drops its approval; moving
one that does not exist does nothing. -/
theorem moveTicket_exec (id : TicketId) (recipient : Address) (s : SettlementState) :
    Reduce.exec (moveTicket id recipient) s = match s.ticket? id with
      | none => (.ok [], s)
      | some t => (.ok [.ticketTransferred id t.eventId t.owner recipient],
          { s.updateTicket id (fun t => { t with owner := recipient }) with
            approvals := Assoc.erase id s.approvals }) := by
  simp only [moveTicket, Reduce.exec_bind, Reduce.exec_get]
  cases s.ticket? id <;> rfl

/-- Paying out credits every payout in turn and logs the ones that are not zero; a zero
payout would credit nothing anyway. -/
theorem payOut_exec (ps : List (Address × Wei × PaymentReason)) (s : SettlementState) :
    Reduce.exec (payOut ps) s = (.ok (paymentLogs ps), s.creditAll ps) := by
  induction ps generalizing s with
  | nil => rfl
  | cons p rest ih =>
      obtain ⟨recipient, amount, why⟩ := p
      by_cases zero : amount.isZero
      · have unchanged : s.credit recipient amount = s := by simp [credit, zero]
        simp only [payOut, zero, if_true, ih]
        simp [paymentLogs, creditAll, zero, unchanged]
      · simp only [payOut, zero, Bool.false_eq_true, if_false, Reduce.exec_bind,
          Reduce.exec_modify, Reduce.exec_pure, ih]
        simp [paymentLogs, creditAll, zero]

end Reducer

/-- Updating in place the entries with one key, by a change that keeps keys, changes only
what a lookup under that key finds. -/
theorem find?_update {α κ : Type} [DecidableEq κ] (key : α → κ) (xs : List α) (id k : κ)
    (f : α → α) (keeps : ∀ x, key (f x) = key x) :
    (xs.map fun x => if key x == id then f x else x).find? (fun x => key x == k) =
      if id = k then (xs.find? (fun x => key x == k)).map f
      else xs.find? (fun x => key x == k) := by
  have same : ((fun x => key x == k) ∘ fun x => if key x == id then f x else x) =
      fun x => key x == k := by
    funext x
    by_cases h : key x = id <;> simp [h, keeps]
  simp only [List.find?_map, same]
  cases found : xs.find? (fun x => key x == k) with
  | none => simp
  | some x =>
      have hx : key x = k := by simpa using List.find?_some found
      by_cases h : id = k
      · simp [hx, h]
      · simp [hx, h, Ne.symm h]

/-- Updating in place by a change that keeps what `read` reads keeps the list of what it
reads. -/
theorem map_update_read {α β κ : Type} [DecidableEq κ] (key : α → κ) (read : α → β)
    (xs : List α) (id : κ) (f : α → α) (keeps : ∀ x, read (f x) = read x) :
    (xs.map fun x => if key x == id then f x else x).map read = xs.map read := by
  rw [List.map_map]
  apply List.map_congr_left
  intro x _
  by_cases mine : key x = id <;> simp [mine, keeps]

/-- When no key is used twice, an entry is what a lookup under its own key finds. -/
theorem find?_key_of_mem {α κ : Type} [DecidableEq κ] (key : α → κ) {xs : List α}
    (distinct : (xs.map key).Nodup) {x : α} (mem : x ∈ xs) :
    xs.find? (fun y => key y == key x) = some x := by
  obtain ⟨y, found⟩ : ∃ y, xs.find? (fun y => key y == key x) = some y :=
    Option.isSome_iff_exists.mp (List.find?_isSome.mpr ⟨x, mem, by simp⟩)
  have sameKey : key y = key x := by simpa using List.find?_some found
  rw [found, List.inj_on_of_nodup_map distinct (List.mem_of_find?_eq_some found) mem sameKey]

namespace SettlementState

variable (s : SettlementState)

/-! ## Lookups after a write -/

theorem ticket?_updateTicket (id t : TicketId) (f : Ticket → Ticket)
    (keeps : ∀ x, (f x).id = x.id) :
    (s.updateTicket id f).ticket? t = if id = t then (s.ticket? t).map f else s.ticket? t :=
  find?_update Ticket.id s.tickets id t f keeps

theorem listing?_updateListing (id l : ListingId) (f : Listing → Listing)
    (keeps : ∀ x, (f x).id = x.id) :
    (s.updateListing id f).listing? l = if id = l then (s.listing? l).map f else s.listing? l :=
  find?_update Listing.id s.listings id l f keeps

theorem event?_updateEvent (id e : EventId) (f : Event → Event)
    (keeps : ∀ x, (f x).id = x.id) :
    (s.updateEvent id f).event? e = if id = e then (s.event? e).map f else s.event? e :=
  find?_update Event.id s.events id e f keeps

/-! ## A lookup reads one field -/

variable {s' : SettlementState}

theorem ticket?_congr (same : s'.tickets = s.tickets) (t : TicketId) :
    s'.ticket? t = s.ticket? t := by
  simp only [ticket?, same]

theorem listing?_congr (same : s'.listings = s.listings) (l : ListingId) :
    s'.listing? l = s.listing? l := by
  simp only [listing?, same]

theorem event?_congr (same : s'.events = s.events) (e : EventId) :
    s'.event? e = s.event? e := by
  simp only [event?, same]

theorem approval?_congr (same : s'.approvals = s.approvals) (t : TicketId) :
    s'.approval? t = s.approval? t := by
  simp only [approval?, same]

theorem balance_congr (same : s'.balances = s.balances) (a : Address) :
    s'.balance a = s.balance a := by
  simp only [balance, same]

/-! ## Lookups after an append: an entry appended at the end never hides one already there -/

theorem listing?_of_appended {x : Listing} (appended : s'.listings = s.listings ++ [x])
    (l : ListingId) : s'.listing? l = (s.listing? l).or (if x.id = l then some x else none) := by
  simp only [listing?, appended, List.find?_append, List.find?_singleton, beq_iff_eq]

theorem ticket?_of_appended {x : Ticket} (appended : s'.tickets = s.tickets ++ [x])
    (t : TicketId) : s'.ticket? t = (s.ticket? t).or (if x.id = t then some x else none) := by
  simp only [ticket?, appended, List.find?_append, List.find?_singleton, beq_iff_eq]

theorem event?_of_appended {x : Event} (appended : s'.events = s.events ++ [x])
    (e : EventId) : s'.event? e = (s.event? e).or (if x.id = e then some x else none) := by
  simp only [event?, appended, List.find?_append, List.find?_singleton, beq_iff_eq]

/-! ## Lookups after closing a listing or approving -/

theorem listing?_closeListing (lid l : ListingId) (ticket : TicketId) (status : ListingStatus) :
    (s.closeListing lid ticket status).listing? l =
      if lid = l then (s.listing? l).map (fun L => { L with status }) else s.listing? l :=
  s.listing?_updateListing lid l _ (fun _ => rfl)

theorem activeListingFor?_closeListing (lid : ListingId) (ticket t : TicketId)
    (status : ListingStatus) :
    (s.closeListing lid ticket status).activeListingFor? t =
      if ticket = t then none else s.activeListingFor? t :=
  Assoc.lookup_erase ticket t s.activeListingByTicket

theorem approval?_setApproval (id t : TicketId) (operator : Option Address) :
    (s.setApproval id operator).approval? t = if id = t then operator else s.approval? t := by
  cases operator with
  | some op => exact Assoc.lookup_insert id t op s.approvals
  | none => exact Assoc.lookup_erase id t s.approvals

/-- Approving changes the approvals and nothing else. -/
theorem setApproval_eq (id : TicketId) (operator : Option Address) :
    ∃ approvals, s.setApproval id operator = { s with approvals } := by
  cases operator with
  | some op => exact ⟨_, rfl⟩
  | none => exact ⟨_, rfl⟩

/-- An update in place that keeps ids keeps the list of listing ids. -/
theorem updateListing_ids (id : ListingId) (f : Listing → Listing)
    (keeps : ∀ x, (f x).id = x.id) :
    (s.updateListing id f).listings.map (·.id) = s.listings.map (·.id) :=
  map_update_read Listing.id (·.id) s.listings id f keeps

/-! ## Lookups and membership -/

theorem mem_of_listing? {l : ListingId} {L : Listing} (found : s.listing? l = some L) :
    L ∈ s.listings ∧ L.id = l :=
  ⟨List.mem_of_find?_eq_some found, by simpa using List.find?_some found⟩

/-- When no id is used twice, every listing is found under its own id. -/
theorem listing?_of_mem (distinct : (s.listings.map (·.id)).Nodup) {L : Listing}
    (mem : L ∈ s.listings) : s.listing? L.id = some L := by
  obtain ⟨L', found⟩ : ∃ L', s.listing? L.id = some L' :=
    Option.isSome_iff_exists.mp (List.find?_isSome.mpr ⟨L, mem, by simp⟩)
  obtain ⟨mem', sameId⟩ := s.mem_of_listing? found
  rw [found, List.inj_on_of_nodup_map distinct mem' mem sameId]

/-- When no event id is used twice, every event is found under its own id. -/
theorem event?_of_mem (distinct : (s.events.map (·.id)).Nodup) {e : Event}
    (mem : e ∈ s.events) : s.event? e.id = some e :=
  find?_key_of_mem Event.id distinct mem

/-! ## Writes to balances only -/

/-- A credit changes balances and nothing else. -/
theorem credit_eq (a : Address) (w : Wei) :
    ∃ balances, s.credit a w = { s with balances } := by
  unfold credit
  split
  · exact ⟨s.balances, rfl⟩
  · exact ⟨_, rfl⟩

/-- Crediting a list of payouts changes balances and nothing else. -/
theorem creditAll_eq (ps : List (Address × Wei × PaymentReason)) :
    ∃ balances, s.creditAll ps = { s with balances } := by
  induction ps generalizing s with
  | nil => exact ⟨s.balances, rfl⟩
  | cons p rest ih =>
      obtain ⟨credited, hcredit⟩ := s.credit_eq p.1 p.2.1
      obtain ⟨balances, hrest⟩ := ih (s.credit p.1 p.2.1)
      refine ⟨balances, ?_⟩
      simp only [creditAll, List.foldl_cons] at hrest ⊢
      rw [hrest, hcredit]

end SettlementState

end TicketMarket
