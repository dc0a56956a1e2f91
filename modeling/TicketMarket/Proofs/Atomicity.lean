import Mathlib
import TicketMarket.Proofs.Run

/-! # A refused call changes nothing

A handler writes the ledger's state in place, so a check placed after its first write
would leave a half-applied call behind. Each handler is specified here by a triple
whose rejection postcondition is the state it started from: every check runs against
the state as it was found, and the writes that follow the last check cannot fail
(`moveTicket_never_refuses`, `payOut_never_refuses`). `reduce_refusal_keeps_state`
assembles the sixteen arms, and `run_refused_keeps_state` reads the triple back as a
statement about `SettlementState.run`. -/
set_option autoImplicit false
set_option mvcgen.warning false
namespace TicketMarket

open Std.Do

/-- A triple whose rejection postcondition is the starting state says that a refused run
from that state leaves it as it was. -/
theorem Reduce.exec_refused_of_triple {α : Type} {m : Reduce α} {s₀ s' : SettlementState}
    {e : Rejection}
    (spec : ⦃fun s => ⌜s = s₀⌝⦄ m ⦃post⟨fun _ _ => ⌜True⌝, fun _ s => ⌜s = s₀⌝⟩⦄)
    (refused : Reduce.exec m s₀ = (.error e, s')) : s' = s₀ := by
  have holds := spec s₀ rfl
  simp only [Reduce.exec] at refused
  simp [WP.wp, refused] at holds
  exact holds

namespace Reducer

@[spec] theorem moveTicket_never_refuses (id : TicketId) (recipient : Address) :
    ⦃⌜True⌝⦄ moveTicket id recipient ⦃post⟨fun _ _ => ⌜True⌝, fun _ _ => ⌜False⌝⟩⦄ := by
  mvcgen [moveTicket]

@[spec] theorem payOut_never_refuses (ps : List (Address × Wei × PaymentReason)) :
    ⦃⌜True⌝⦄ payOut ps ⦃post⟨fun _ _ => ⌜True⌝, fun _ _ => ⌜False⌝⟩⦄ := by
  induction ps with
  | nil => mvcgen [payOut]
  | cons p rest ih =>
      obtain ⟨recipient, amount, why⟩ := p
      mvcgen [payOut, ih]

variable (s₀ : SettlementState) (caller : Address)

@[spec] theorem createEvent_keeps (d : EventDraft) (time : Instant) :
    ⦃fun s => ⌜s = s₀⌝⦄ createEvent caller d time
    ⦃post⟨fun _ _ => ⌜True⌝, fun _ s => ⌜s = s₀⌝⟩⦄ := by
  mvcgen [createEvent]

@[spec] theorem setMinter_keeps (scope : MinterScope) (minter : Address) (enabled : Bool) :
    ⦃fun s => ⌜s = s₀⌝⦄ setMinter caller scope minter enabled
    ⦃post⟨fun _ _ => ⌜True⌝, fun _ s => ⌜s = s₀⌝⟩⦄ := by
  mvcgen [setMinter, liftExcept]

@[spec] theorem mintTicket_keeps (eventId : EventId) (recipient : Address) (seat : SeatId)
    (metadata : Option String) (time : Instant) :
    ⦃fun s => ⌜s = s₀⌝⦄ mintTicket caller eventId recipient seat metadata time
    ⦃post⟨fun _ _ => ⌜True⌝, fun _ s => ⌜s = s₀⌝⟩⦄ := by
  mvcgen [mintTicket, liftExcept]

@[spec] theorem approve_keeps (id : TicketId) (operator : Option Address) :
    ⦃fun s => ⌜s = s₀⌝⦄ approve caller id operator
    ⦃post⟨fun _ _ => ⌜True⌝, fun _ s => ⌜s = s₀⌝⟩⦄ := by
  mvcgen [approve, liftExcept]

@[spec] theorem transferTicket_keeps (id : TicketId) (recipient : Address) :
    ⦃fun s => ⌜s = s₀⌝⦄ transferTicket caller id recipient
    ⦃post⟨fun _ _ => ⌜True⌝, fun _ s => ⌜s = s₀⌝⟩⦄ := by
  mvcgen [transferTicket, liftExcept]

@[spec] theorem createListing_keeps (id : TicketId) (price : Wei) (time : Instant) :
    ⦃fun s => ⌜s = s₀⌝⦄ createListing caller id price time
    ⦃post⟨fun _ _ => ⌜True⌝, fun _ s => ⌜s = s₀⌝⟩⦄ := by
  mvcgen [createListing, liftExcept]

@[spec] theorem purchaseListing_keeps (lid : ListingId) (payment : Wei) :
    ⦃fun s => ⌜s = s₀⌝⦄ purchaseListing caller lid payment
    ⦃post⟨fun _ _ => ⌜True⌝, fun _ s => ⌜s = s₀⌝⟩⦄ := by
  mvcgen [purchaseListing, liftExcept]

@[spec] theorem cancelListing_keeps (lid : ListingId) :
    ⦃fun s => ⌜s = s₀⌝⦄ cancelListing caller lid
    ⦃post⟨fun _ _ => ⌜True⌝, fun _ s => ⌜s = s₀⌝⟩⦄ := by
  mvcgen [cancelListing]

@[spec] theorem setEventPaused_keeps (id : EventId) (paused : Bool) :
    ⦃fun s => ⌜s = s₀⌝⦄ setEventPaused caller id paused
    ⦃post⟨fun _ _ => ⌜True⌝, fun _ s => ⌜s = s₀⌝⟩⦄ := by
  mvcgen [setEventPaused, liftExcept]

@[spec] theorem finaliseTicket_keeps (id : TicketId) (status : TicketStatus) :
    ⦃fun s => ⌜s = s₀⌝⦄ finaliseTicket caller id status
    ⦃post⟨fun _ _ => ⌜True⌝, fun _ s => ⌜s = s₀⌝⟩⦄ := by
  mvcgen [finaliseTicket, liftExcept]

@[spec] theorem ownerOnly_keeps (change : SettlementState → SettlementState) (log : LedgerLog) :
    ⦃fun s => ⌜s = s₀⌝⦄ ownerOnly caller change log
    ⦃post⟨fun _ _ => ⌜True⌝, fun _ s => ⌜s = s₀⌝⟩⦄ := by
  mvcgen [ownerOnly, liftExcept]

/-- Every call, whatever its arguments and whoever makes it, is refused only before its
handler has written anything. -/
theorem reduce_refusal_keeps_state (call : LedgerCall) (ctx : CallContext) :
    ⦃fun s => ⌜s = s₀⌝⦄ reduce call ctx ⦃post⟨fun _ _ => ⌜True⌝, fun _ s => ⌜s = s₀⌝⟩⦄ := by
  mvcgen [reduce, dispatch, liftExcept]

end Reducer

/-- A run that answers with a success is that success with the state it leaves. -/
theorem run_eq_ok_of_isOk {s : SettlementState} {call : LedgerCall} {ctx : CallContext}
    (accepted : (s.run call ctx).1.isOk = true) :
    ∃ a, s.run call ctx = (.ok a, (s.run call ctx).2) := by
  rcases ran : s.run call ctx with ⟨e | a, s'⟩
  · rw [ran] at accepted
    cases accepted
  · exact ⟨a, rfl⟩

/-- A refused call leaves the ledger's state exactly as it found it, in every field. -/
theorem run_refused_keeps_state (s : SettlementState) (call : LedgerCall) (ctx : CallContext)
    (e : Rejection) (s' : SettlementState) (refused : s.run call ctx = (.error e, s')) :
    s' = s :=
  Reduce.exec_refused_of_triple (Reducer.reduce_refusal_keeps_state s call ctx) refused

/-- A purchase refused for want of funds, after the listing, seller and payment checks have
passed, leaves the ledger as it was. -/
theorem unfunded_purchase_keeps_state :
    let t : Instant := ⟨0, 0, 0⟩
    let draft : EventDraft := ⟨⟨1⟩, 10, Bps.lit 500, Bps.lit 1000, ⟨3⟩, ⟨100, by decide⟩⟩
    let s₀ := SettlementState.genesis ⟨⟨1⟩, ⟨7⟩, ⟨Bps.lit 250, ⟨6⟩⟩⟩
    let s₁ := (s₀.run (.createEvent draft) ⟨⟨2⟩, t⟩).2
    let s₂ := (s₁.run (.mintTicket ⟨1⟩ ⟨4⟩ ⟨"A1"⟩ none) ⟨⟨2⟩, t⟩).2
    let s₃ := (s₂.run (.approve ⟨1⟩ (some ⟨7⟩)) ⟨⟨4⟩, t⟩).2
    let listed := (s₃.run (.createListing ⟨1⟩ ⟨110, by decide⟩) ⟨⟨4⟩, t⟩).2
    let after := listed.run (.purchaseListing ⟨1⟩ ⟨110, by decide⟩) ⟨⟨5⟩, t⟩
    after.1 = .error (.insufficientFunds ⟨5⟩ Wei.zero ⟨110, by decide⟩) ∧ after.2 = listed := by
  intro t draft s₀ s₁ s₂ s₃ listed after
  have answer : after.1 = .error (.insufficientFunds ⟨5⟩ Wei.zero ⟨110, by decide⟩) := by decide
  -- only the answer is evaluated; the state it leaves comes from the theorem
  have refused : listed.run (.purchaseListing ⟨1⟩ ⟨110, by decide⟩) ⟨⟨5⟩, t⟩ =
      (.error (.insufficientFunds ⟨5⟩ Wei.zero ⟨110, by decide⟩), after.2) := by
    rw [← answer]
  exact ⟨answer, run_refused_keeps_state listed _ _ _ _ refused⟩

end TicketMarket
