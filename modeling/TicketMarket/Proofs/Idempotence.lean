import Mathlib
import TicketMarket.Proofs.Reachable

/-! # A call made twice does what it did once

A call that reaches the ledger twice in a row, from the same caller at the same time,
leaves the state the first one left, unless it creates an event. The reason differs from
handler to handler. A second mint finds its seat taken, a second listing finds its ticket
listed, a second purchase or cancellation finds the listing closed, and a second use or
revocation finds the ticket no longer owned: the second call is refused, and a refused call
changes nothing. A grant, an approval, a pause or a setting is accepted again and writes
what is already there. A transfer has moved the ticket and dropped its approval, so only a
transfer to the caller itself is accepted a second time, and it writes the same again.

The writes that are accepted again are idempotent (`Assoc.insert_insert`,
`update_update`, `touchTicket_twice`); the refusals come from what the first call closed
(`closeListing_status`, `touchTicket_found`). `Reducer.dispatch_settles` puts them
together per handler, and `repeat_call_idempotent` is the main statement, with a second
event created from the same draft as the one duplicate that creates a second record. -/
set_option autoImplicit false
namespace TicketMarket

namespace Assoc

variable {κ ν : Type} [DecidableEq κ]

theorem insert_insert (k : κ) (v : ν) (m : List (κ × ν)) :
    insert k v (insert k v m) = insert k v m := by
  induction m with
  | nil => simp [insert]
  | cons p rest ih =>
    obtain ⟨j, w⟩ := p
    by_cases hj : j = k
    · simp [insert, hj]
    · simp [insert, hj, ih]

theorem erase_erase (k : κ) (m : List (κ × ν)) : erase k (erase k m) = erase k m := by
  simp [erase, List.filter_filter]

end Assoc

/-- Updating in place twice, by a change that keeps keys and settles at once, is updating
once. -/
theorem update_update {α κ : Type} [DecidableEq κ] (key : α → κ) (xs : List α) (id : κ)
    (f : α → α) (keeps : ∀ x, key (f x) = key x) (settles : ∀ x, f (f x) = f x) :
    ((xs.map fun x => if key x == id then f x else x).map
        fun x => if key x == id then f x else x) =
      xs.map fun x => if key x == id then f x else x := by
  rw [List.map_map]
  apply List.map_congr_left
  intro x _
  by_cases mine : key x = id <;> simp [mine, keeps, settles]

namespace SettlementState

variable (s : SettlementState)

theorem updateEvent_updateEvent (id : EventId) (f : Event → Event)
    (keeps : ∀ e, (f e).id = e.id) (settles : ∀ e, f (f e) = f e) :
    (s.updateEvent id f).updateEvent id f = s.updateEvent id f := by
  simp only [updateEvent, update_update Event.id s.events id f keeps settles]

theorem setApproval_setApproval (id : TicketId) (operator : Option Address) :
    (s.setApproval id operator).setApproval id operator = s.setApproval id operator := by
  cases operator with
  | some op => simp only [setApproval, Assoc.insert_insert]
  | none => simp only [setApproval, Assoc.erase_erase]

/-- Changing a ticket by a change that settles at once and dropping its approval, done a
second time, changes nothing more. Transfers, uses and revocations write this way. -/
theorem touchTicket_twice (id : TicketId) (f : Ticket → Ticket)
    (keeps : ∀ t, (f t).id = t.id) (settles : ∀ t, f (f t) = f t) :
    let once := { s.updateTicket id f with approvals := Assoc.erase id s.approvals }
    { once.updateTicket id f with approvals := Assoc.erase id once.approvals } = once := by
  simp only [updateTicket, update_update Ticket.id s.tickets id f keeps settles,
    Assoc.erase_erase]

/-- After a ticket is changed, the ticket found under its id is a changed one. -/
theorem touchTicket_found {id : TicketId} {f : Ticket → Ticket}
    {approvals : List (TicketId × Address)} {T : Ticket}
    (found : ({ s.updateTicket id f with approvals } : SettlementState).ticket? id = some T)
    (keeps : ∀ t, (f t).id = t.id) : ∃ T₀, T = f T₀ := by
  have changed : (s.updateTicket id f).ticket? id = some T := found
  rw [ticket?_updateTicket _ _ _ _ keeps, if_pos rfl] at changed
  obtain ⟨T₀, -, rfl⟩ := Option.map_eq_some_iff.mp changed
  exact ⟨T₀, rfl⟩

theorem closeListing_status {lid : ListingId} {ticket : TicketId} {status : ListingStatus}
    {L : Listing} (found : (s.closeListing lid ticket status).listing? lid = some L) :
    L.status = status := by
  rw [listing?_closeListing, if_pos rfl] at found
  obtain ⟨L₀, -, rfl⟩ := Option.map_eq_some_iff.mp found
  rfl

end SettlementState

namespace Reducer

open SettlementState

variable {s s₁ s₂ : SettlementState} {a a' : Applied}

/-- A call other than creating an event, accepted once, is accepted a second time only if
the second run changes nothing. -/
theorem dispatch_settles {call : LedgerCall} {ctx : CallContext}
    (creates : ∀ d, call ≠ .createEvent d)
    (first : Reduce.exec (dispatch call ctx) s = (.ok a, s₁))
    (second : Reduce.exec (dispatch call ctx) s₁ = (.ok a', s₂)) : s₂ = s₁ := by
  cases call with
  | createEvent d => exact absurd rfl (creates d)
  | setMinter scope minter enabled =>
      -- the first run leaves the right as asked, so the second takes its no-op branch
      have settled : s₁.minters.contains (scope, minter) = enabled := by
        obtain ⟨-, ⟨already, -, rfl⟩ | ⟨-, -, rfl⟩⟩ := setMinter_ok first
        · exact already
        · cases enabled <;> simp
      obtain ⟨-, ⟨-, -, rfl⟩ | ⟨changed, -, -⟩⟩ := setMinter_ok second
      · rfl
      · exact absurd settled changed
  | mintTicket eventId recipient seat metadata =>
      obtain ⟨e, -, -, -, -, -, -, rfl⟩ := mintTicket_ok first
      obtain ⟨e', -, -, -, free, -⟩ := mintTicket_ok second
      simp [isSeatMinted] at free
  | approve id operator =>
      obtain ⟨T, -, -, -, -, -, rfl⟩ := approve_ok first
      obtain ⟨T', -, -, -, -, -, rfl⟩ := approve_ok second
      exact s.setApproval_setApproval id operator
  | transferTicket id recipient =>
      obtain ⟨T, -, -, -, -, -, -, rfl⟩ := transferTicket_ok first
      obtain ⟨T', -, -, -, -, -, -, rfl⟩ := transferTicket_ok second
      exact s.touchTicket_twice id _ (fun _ => rfl) (fun _ => rfl)
  | createListing id price =>
      obtain ⟨T, e, -, -, -, -, -, -, -, -, -, rfl⟩ := createListing_ok first
      obtain ⟨T', e', -, -, -, unlisted, -⟩ := createListing_ok second
      simp [activeListingFor?, Assoc.lookup_insert] at unlisted
  | purchaseListing lid payment =>
      obtain ⟨L, e, logs, moved, -, -, -, -, -, -, -, -, -, rfl⟩ := purchaseListing_ok first
      obtain ⟨L', e', logs', moved', -, found, active, -⟩ := purchaseListing_ok second
      exact absurd ((closeListing_status _ found).symm.trans active) (by decide)
  | cancelListing lid =>
      obtain ⟨L, -, -, -, -, rfl⟩ := cancelListing_ok first
      obtain ⟨L', found, -, active, -⟩ := cancelListing_ok second
      exact absurd ((closeListing_status _ found).symm.trans active) (by decide)
  | pauseEvent id | unpauseEvent id =>
      obtain ⟨e, -, -, -, rfl⟩ := setEventPaused_ok first
      obtain ⟨e', -, -, -, rfl⟩ := setEventPaused_ok second
      exact s.updateEvent_updateEvent id _ (fun _ => rfl) (fun _ => rfl)
  | setTransfersPaused paused | setMarketplacePaused paused | setPlatformFee fee
  | setPlatformAddress address =>
      obtain ⟨-, -, rfl⟩ := ownerOnly_ok first
      obtain ⟨-, -, rfl⟩ := ownerOnly_ok second
      rfl
  | markUsed id | revokeTicket id =>
      obtain ⟨T, e, -, -, -, -, -, -, rfl⟩ := finaliseTicket_ok first
      obtain ⟨T', e', found, -, -, owned, -⟩ := finaliseTicket_ok second
      -- the first run left the ticket used or revoked, so the second finds it not owned
      obtain ⟨T₀, rfl⟩ := s.touchTicket_found found fun _ => rfl
      cases owned

/-- An event draft that passes validation is always accepted, and adds one event. -/
theorem run_createEvent_events {d : EventDraft} (valid : validateDraft d = .ok ())
    (x : SettlementState) (ctx : CallContext) :
    (x.run (.createEvent d) ctx).2.events.length = x.events.length + 1 := by
  have ran : (x.run (.createEvent d) ctx).2 =
      (Reduce.exec (createEvent ctx.caller d ctx.time) x).2 := by
    simp only [SettlementState.run, reduce_exec, validateCall, valid]
    rfl
  rw [ran, createEvent_exec]
  simp

end Reducer

/-- A state the accepted runs of a call cannot change is one the call leaves alone. -/
theorem SettlementState.run_fixed {s : SettlementState} {call : LedgerCall} {ctx : CallContext}
    (settled : ∀ a s', Reduce.exec (Reducer.dispatch call ctx) s = (.ok a, s') → s' = s) :
    (s.run call ctx).2 = s := by
  rcases Reachable.run_cases s call ctx with unchanged | ⟨a, -, ran⟩
  · exact unchanged
  · exact settled a _ ran

/-- Every call but the creation of an event is idempotent on the state: made twice in a row
under the same context, from any state, it leaves what it left once, the second run being
refused or writing what is already there. An event created twice from a valid draft is two
events. -/
theorem repeat_call_idempotent (s : SettlementState) (call : LedgerCall) (ctx : CallContext) :
    ((∀ d, call ≠ .createEvent d) →
      ((s.run call ctx).2.run call ctx).2 = (s.run call ctx).2) ∧
    ∀ d, call = .createEvent d → validateDraft d = .ok () →
      ((s.run call ctx).2.run call ctx).2.events.length =
        (s.run call ctx).2.events.length + 1 := by
  refine ⟨fun creates => ?_, fun d same valid => ?_⟩
  · rcases Reachable.run_cases s call ctx with unchanged | ⟨a, -, first⟩
    · rw [unchanged, unchanged]
    · exact SettlementState.run_fixed fun _ _ second =>
        Reducer.dispatch_settles creates first second
  · rw [same]
    exact Reducer.run_createEvent_events valid _ ctx

/-- Pausing transfers twice leaves what pausing them once leaves, while creating an event
twice from a valid draft creates two. -/
theorem pausing_twice_as_once :
    let g : Genesis := ⟨⟨1⟩, ⟨7⟩, ⟨Bps.lit 250, ⟨6⟩⟩⟩
    let draft : EventDraft := ⟨⟨1⟩, 10, Bps.lit 500, Bps.lit 1000, ⟨3⟩, ⟨100, by decide⟩⟩
    let ctx : CallContext := ⟨⟨1⟩, ⟨0, 0, 0⟩⟩
    let s := SettlementState.genesis g
    ((∀ d, LedgerCall.setTransfersPaused true ≠ .createEvent d) ∧
      ((s.run (.setTransfersPaused true) ctx).2.run (.setTransfersPaused true) ctx).2 =
        (s.run (.setTransfersPaused true) ctx).2) ∧
    (validateDraft draft = .ok () ∧
      ((s.run (.createEvent draft) ctx).2.run (.createEvent draft) ctx).2.events.length =
        (s.run (.createEvent draft) ctx).2.events.length + 1) := by
  intro g draft ctx s
  have other : ∀ d, LedgerCall.setTransfersPaused true ≠ .createEvent d := fun _ same => by
    cases same
  have valid : validateDraft draft = .ok () := by decide
  exact ⟨⟨other, (repeat_call_idempotent s _ ctx).1 other⟩,
    valid, (repeat_call_idempotent s _ ctx).2 draft rfl valid⟩

end TicketMarket
