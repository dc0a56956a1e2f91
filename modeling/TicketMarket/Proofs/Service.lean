import Mathlib
import TicketMarket.Proofs.Deduplication
import TicketMarket.Deployment

/-! # The service settles calls as the rules do

An offline deployment runs the marketplace service over an executor whose ledger is held in
memory, so no transport failure can strike. A write is checked on its own first; a call
that fails the check is refused there and nothing else happens. A call that passes gets a
fresh operation id, which the ledger has never mined, so its first attempt is settled by
the rules against the ledger's state and mined at once: the executor answers with the
rejection the receipt records, or with the receipt itself, and never retries or looks the
operation up.

`service_refines_rules` states the outcome for any replica that keeps to itself
(`Deployment.KeepsLedger`), whatever it answers: a refused call is answered with its
rejection and changes nothing, and the rules would refuse it in every state; an accepted
call leaves the ledger as the rules leave it, one block higher, and the service answers
with the rules' rejection or with their output, which is always of the kind the call makes
(`SettlementState.run_fitsOutput`), so an unexpected response never comes back. On
success the replica is handed the facts of the call's logs in order, stamped with the
ledger's clock, and nothing else. -/
set_option autoImplicit false
namespace TicketMarket

/-! ## Outputs of accepted calls -/

namespace Reducer

theorem dispatch_fitsOutput {call : LedgerCall} {ctx : CallContext} {s s' : SettlementState}
    {a : Applied} (accepted : Reduce.exec (dispatch call ctx) s = (.ok a, s')) :
    call.fitsOutput a.output = true := by
  cases call with
  | createEvent d =>
      rw [dispatch, createEvent_exec] at accepted
      cases accepted
      rfl
  | setMinter scope minter enabled =>
      obtain ⟨-, ⟨-, rfl, -⟩ | ⟨-, rfl, -⟩⟩ := setMinter_ok accepted <;> rfl
  | mintTicket e recipient seat metadata =>
      obtain ⟨_, -, -, -, -, -, rfl, -⟩ := mintTicket_ok accepted
      rfl
  | approve t operator =>
      obtain ⟨_, -, -, -, -, rfl, -⟩ := approve_ok accepted
      rfl
  | transferTicket t recipient =>
      obtain ⟨_, -, -, -, -, -, rfl, -⟩ := transferTicket_ok accepted
      rfl
  | createListing t price =>
      obtain ⟨_, _, -, -, -, -, -, -, -, -, rfl, -⟩ := createListing_ok accepted
      rfl
  | purchaseListing lid payment =>
      obtain ⟨_, _, _, _, -, -, -, -, -, -, -, -, rfl, -⟩ := purchaseListing_ok accepted
      rfl
  | cancelListing lid =>
      obtain ⟨_, -, -, -, rfl, -⟩ := cancelListing_ok accepted
      rfl
  | pauseEvent e =>
      obtain ⟨_, -, -, rfl, -⟩ := setEventPaused_ok accepted
      rfl
  | unpauseEvent e =>
      obtain ⟨_, -, -, rfl, -⟩ := setEventPaused_ok accepted
      rfl
  | setTransfersPaused paused =>
      obtain ⟨-, rfl, -⟩ := ownerOnly_ok accepted
      rfl
  | setMarketplacePaused paused =>
      obtain ⟨-, rfl, -⟩ := ownerOnly_ok accepted
      rfl
  | setPlatformFee fee =>
      obtain ⟨-, rfl, -⟩ := ownerOnly_ok accepted
      rfl
  | setPlatformAddress address =>
      obtain ⟨-, rfl, -⟩ := ownerOnly_ok accepted
      rfl
  | markUsed t =>
      obtain ⟨_, _, -, -, -, -, -, rfl, -⟩ := finaliseTicket_ok accepted
      rfl
  | revokeTicket t =>
      obtain ⟨_, _, -, -, -, -, -, rfl, -⟩ := finaliseTicket_ok accepted
      rfl

end Reducer

/-- Every call the rules accept answers with an output of the kind the call makes. -/
theorem SettlementState.run_fitsOutput {s : SettlementState} {call : LedgerCall}
    {ctx : CallContext} {a : Applied} (accepted : (s.run call ctx).1 = .ok a) :
    call.fitsOutput a.output = true := by
  have ran : s.run call ctx = (.ok a, (s.run call ctx).2) := by rw [← accepted]
  exact Reducer.dispatch_fitsOutput (SettlementState.dispatch_of_run ran)

/-! ## One request of an offline deployment -/

namespace Deployment

variable {d : Deployment} {l : MemoryLedger}

theorem run_bind {α β : Type} (x : App α) (f : α → App β) (d : Deployment) :
    (x >>= f).run d = (f (x.run d).1).run (x.run d).2 := by
  rw [StateT.run_bind]
  rfl

theorem run_bind_of {α β : Type} {x : App α} {f : α → App β} {d' : Deployment} {a : α}
    (first : x.run d = (a, d')) : (x >>= f).run d = (f a).run d' := by
  rw [run_bind, first]

theorem freshOperation_run :
    effects.freshOperation.run d = (.fresh d.serial, { d with serial := d.serial + 1 }) :=
  rfl

theorem record_run (m : Metric) :
    (effects.record m).run d = (⟨⟩, { d with metrics := m :: d.metrics }) :=
  rfl

theorem submit_offline (offline : d.ledger = .offline l) (sub : Submission) :
    (effects.ledger.submit sub).run d =
      ((l.submit sub).1, { d with ledger := .offline (l.submit sub).2 }) := by
  simp [effects, client, offline, onMemory]
  rfl

theorem waitFor_offline (offline : d.ledger = .offline l) (tx : TxHash) (c : Nat) :
    (effects.ledger.waitFor tx c).run d = (l.waitFor tx, d) := by
  simp [effects, client, offline]
  rfl

end Deployment

/-! ## The executor over a ledger in memory -/

/-- How an attempt reads a receipt: the rejection it records, or the receipt itself. -/
def Receipt.verdict (r : Receipt) : Except LedgerError Receipt :=
  match r.revertReason? with
  | some reason => .error (.reverted reason)
  | none => .ok r

/-- What the executor answers for a call whose first attempt got the receipt `r`: the
receipt, confirmed on that attempt and not looked up, or the rejection it records. -/
def Receipt.executed (r : Receipt) : Except ExecutionError Executed :=
  match r.revertReason? with
  | some reason => .error (.rejected reason)
  | none => .ok ⟨r, 1, false⟩

namespace Executor

open Deployment

section Attempts

variable {l : MemoryLedger} (ex : Executor) (d : Deployment)

/-- The first submission of an operation is mined at once, so one attempt reads its
receipt. -/
theorem attempt_run (offline : d.ledger = .offline l) (sub : Submission)
    (unseen : sub.operationId ∉ l.operations) :
    ∃ r : Receipt, r.timestamp = l.now ∧
      r.Records (l.state.run sub.call ⟨sub.sender, l.now⟩).1 ∧
      (attempt effects ex sub).run d = (r.verdict, { d with ledger := .offline (l.submit sub).2 }) := by
  obtain ⟨r, unmined, -, -, time, records, submitted⟩ := MemoryLedger.submit_of_not_mem unseen
  refine ⟨r, time, records, ?_⟩
  have answered : (l.submit sub).1 = r.answer := by rw [submitted]
  have found : (l.submit sub).2.waitFor r.tx = .ok r := by
    rw [submitted]
    simp [MemoryLedger.waitFor, MemoryLedger.receipt?,
      Assoc.lookup_append_of_lookup_eq_none unmined]
  unfold attempt
  rw [run_bind_of (submit_offline offline sub), answered]
  unfold Receipt.answer Receipt.verdict
  cases verdict : r.revertReason? with
  | some reason => rfl
  | none =>
      -- the call was accepted, so the wait finds the receipt just mined
      simp only
      rw [run_bind_of (waitFor_offline rfl _ _), found]
      simp only [verdict]
      rfl

variable {d} {α : Type} (operation : String) (action : App (Except LedgerError α)) (k : Nat)
  {d' : Deployment}

theorem tryOnce_run_ok (retry : LedgerError → App (Except ExecutionError (α × Nat))) {v : α}
    (ran : action.run { d with metrics := .attempt operation :: d.metrics } = (.ok v, d')) :
    (tryOnce effects ex operation action k retry).run d = (.ok (v, k), d') := by
  unfold tryOnce
  rw [run_bind_of (record_run _), run_bind_of ran]
  rfl

theorem tryOnce_run_reverted (retry : LedgerError → App (Except ExecutionError (α × Nat)))
    {e : Rejection}
    (ran : action.run { d with metrics := .attempt operation :: d.metrics } =
      (.error (.reverted e), d')) :
    (tryOnce effects ex operation action k retry).run d = (.error (.rejected e), d') := by
  unfold tryOnce
  rw [run_bind_of (record_run _), run_bind_of ran]
  rfl

/-- An answer of the ledger on the first attempt ends the loop, however many retries are
left. -/
theorem retryLoop_run_ok {v : α} (fuel : Nat)
    (ran : action.run { d with metrics := .attempt operation :: d.metrics } = (.ok v, d')) :
    (retryLoop effects ex operation action fuel k).run d = (.ok (v, k), d') := by
  cases fuel <;> exact tryOnce_run_ok ex operation action k _ ran

theorem retryLoop_run_reverted {e : Rejection} (fuel : Nat)
    (ran : action.run { d with metrics := .attempt operation :: d.metrics } =
      (.error (.reverted e), d')) :
    (retryLoop effects ex operation action fuel k).run d = (.error (.rejected e), d') := by
  cases fuel <;> exact tryOnce_run_reverted ex operation action k _ ran

end Attempts

variable {l : MemoryLedger} (ex : Executor) (d : Deployment)

/-- The first submission of an operation is answered from the receipt of its only attempt;
the executor changes nothing but the ledger and its metrics. -/
theorem submit_run (offline : d.ledger = .offline l) (sub : Submission)
    (unseen : sub.operationId ∉ l.operations) :
    ∃ r : Receipt, r.timestamp = l.now ∧
      r.Records (l.state.run sub.call ⟨sub.sender, l.now⟩).1 ∧
      ∃ metrics, (submit effects ex sub).run d =
        (r.executed, { d with ledger := .offline (l.submit sub).2, metrics }) := by
  obtain ⟨r, time, records, attempted⟩ :=
    attempt_run ex { d with metrics := .attempt sub.call.name :: d.metrics } offline sub
      unseen
  refine ⟨r, time, records, ?_⟩
  unfold submit withRetry
  cases verdict : r.revertReason? with
  | some reason =>
      have looped := retryLoop_run_reverted ex sub.call.name (attempt effects ex sub) 1
        ex.policy.maxAttempts (by rw [attempted, Receipt.verdict, verdict])
      refine ⟨.duration sub.call.name :: .rejection sub.call.name reason.code ::
        .attempt sub.call.name :: d.metrics, ?_⟩
      rw [run_bind_of looped]
      simp only [Receipt.executed, verdict]
      rfl
  | none =>
      have looped := retryLoop_run_ok ex sub.call.name (attempt effects ex sub) 1
        ex.policy.maxAttempts (by rw [attempted, Receipt.verdict, verdict])
      refine ⟨.duration sub.call.name :: .attempt sub.call.name :: d.metrics, ?_⟩
      rw [run_bind_of looped]
      simp only [Receipt.executed, verdict]
      rfl

theorem execute_run (offline : d.ledger = .offline l) (caller : Address) (call : LedgerCall)
    (unseen : OperationId.fresh d.serial ∉ l.operations) :
    ∃ r : Receipt, r.timestamp = l.now ∧ r.Records (l.state.run call ⟨caller, l.now⟩).1 ∧
      ∃ d₁ : Deployment, d₁.ledger = .offline (l.submit ⟨.fresh d.serial, caller, call⟩).2 ∧
        (execute effects ex caller call).run d = (r.executed, d₁) := by
  obtain ⟨r, time, records, metrics, submitted⟩ :=
    submit_run ex { d with serial := d.serial + 1 } offline ⟨.fresh d.serial, caller, call⟩
      unseen
  exact ⟨r, time, records, _, rfl, by rw [execute, run_bind_of freshOperation_run, submitted]⟩

end Executor

/-! ## The service -/

namespace Marketplace

variable {m : Type → Type} [Monad m] (svc : Marketplace m)

/-- Hand facts to the replica one at a time, in order, whatever it answers. -/
def offer (facts : List TransitionFact) : m Unit :=
  facts.forM fun fact => do
    let _ ← svc.publish fact
    pure ()

theorem publishReceipt_eq (receipt : Receipt) :
    svc.publishReceipt receipt =
      svc.offer (TransitionFact.ofLogs receipt.logs receipt.timestamp) :=
  rfl

end Marketplace

namespace Deployment

/-- A replica keeps to itself: publishing a fact never touches the deployment's ledger. -/
def KeepsLedger (pub : TransitionFact → App (Except ReplicaError Unit)) : Prop :=
  ∀ fact d, ((pub fact).run d).2.ledger = d.ledger

section Performing

variable {d : Deployment} {l : MemoryLedger} (ex : Executor)
  (pub : TransitionFact → App (Except ReplicaError Unit))

theorem offer_ledger (apart : KeepsLedger pub) (facts : List TransitionFact) (d : Deployment) :
    (((⟨effects, ex, pub⟩ : Marketplace App).offer facts).run d).2.ledger = d.ledger := by
  induction facts generalizing d with
  | nil => rfl
  | cons fact rest ih =>
      simp only [Marketplace.offer, List.forM] at ih ⊢
      rw [run_bind, run_bind, ih]
      exact apart fact d

/-- A valid call performed through the service: the answer and what the replica is handed,
from the rules' verdict on the ledger's state. -/
theorem perform_run (offline : d.ledger = .offline l) (caller : Address) (call : LedgerCall)
    (valid : validateCall call = .ok ()) (unseen : OperationId.fresh d.serial ∉ l.operations) :
    ∃ d₁ : Deployment, d₁.ledger = .offline (l.submit ⟨.fresh d.serial, caller, call⟩).2 ∧
      (∀ e, (l.state.run call ⟨caller, l.now⟩).1 = .error e →
        ((⟨effects, ex, pub⟩ : Marketplace App).perform caller call).run d =
          (.error (.execution (.rejected e)), d₁)) ∧
      (∀ a, (l.state.run call ⟨caller, l.now⟩).1 = .ok a →
        ((⟨effects, ex, pub⟩ : Marketplace App).perform caller call).run d =
          (.ok a.output, (((⟨effects, ex, pub⟩ : Marketplace App).offer
            (TransitionFact.ofLogs a.logs l.now)).run d₁).2)) := by
  obtain ⟨r, time, records, d₁, ledger, executed⟩ :=
    Executor.execute_run ex d offline caller call unseen
  refine ⟨d₁, ledger, fun e rejected => ?_, fun a accepted => ?_⟩
  · rw [rejected] at records
    have answer : r.executed = .error (.rejected e) := by
      simp [Receipt.executed, Receipt.revertReason?, records.1]
    unfold Marketplace.perform
    rw [valid]
    dsimp only
    rw [run_bind_of executed, answer]
    rfl
  · rw [accepted] at records
    obtain ⟨success, output, logs⟩ := records
    have answer : r.executed = .ok ⟨r, 1, false⟩ := by
      simp [Receipt.executed, Receipt.revertReason?, success]
    have fits := SettlementState.run_fitsOutput accepted
    unfold Marketplace.perform
    rw [valid]
    dsimp only
    rw [run_bind_of executed, answer]
    dsimp only
    -- the receipt's logs are the rules' and its time the ledger's clock
    rw [run_bind, Marketplace.publishReceipt_eq, output, logs, time, if_pos fits]
    rfl

end Performing

end Deployment

open Deployment in
/-- The service over a ledger in memory answers as the settlement rules do. Whatever the
ledger's state, the caller and the call, and whatever a replica that keeps to itself
answers: a call that fails its own check is refused with that rejection and changes
nothing, and the rules refuse it with the same rejection in every state. Any other call
leaves the ledger in the state the rules leave it, one block higher; the service is
rejected exactly when the rules reject the call, with their rejection, and otherwise
answers with their output, which is of the kind the call makes; then the replica is handed
the facts of the call's logs, in order and stamped with the time the ledger's clock reads
for the call's block, one by one, and nothing more. An unexpected response never comes back. -/
theorem service_refines_rules (ex : Executor) (pub : TransitionFact → App (Except ReplicaError Unit))
    (apart : KeepsLedger pub) (d : Deployment) (l : MemoryLedger) (offline : d.ledger = .offline l)
    (unseen : OperationId.fresh d.serial ∉ l.operations) (caller : Address) (call : LedgerCall) :
    let svc : Marketplace App := ⟨effects, ex, pub⟩
    let ctx : CallContext := ⟨caller, l.now⟩
    let out := (svc.perform caller call).run d
    (∀ e, validateCall call = .error e →
      out = (.error (.preflight e), d) ∧
        ∀ (s : SettlementState) (c : CallContext), s.run call c = (.error e, s)) ∧
    (validateCall call = .ok () →
      ∃ l' : MemoryLedger, out.2.ledger = .offline l' ∧ l'.state = (l.state.run call ctx).2 ∧
        l'.blockNumber = l.blockNumber + 1 ∧
        (∀ e, out.1 = .error (.execution (.rejected e)) ↔ (l.state.run call ctx).1 = .error e) ∧
        ∀ a, (l.state.run call ctx).1 = .ok a →
          out.1 = .ok a.output ∧ call.fitsOutput a.output = true ∧
          ∃ d₁ : Deployment, d₁.ledger = .offline l' ∧
            out.2 = ((svc.offer (TransitionFact.ofLogs a.logs l.now)).run d₁).2) ∧
    ∀ operation detail, out.1 ≠ .error (.unexpectedResponse operation detail) := by
  intro svc ctx out
  cases valid : validateCall call with
  | error e =>
      have refused : out = (.error (.preflight e), d) := by
        show (svc.perform caller call).run d = _
        unfold Marketplace.perform
        rw [valid]
        rfl
      refine ⟨fun e' invalid => ?_, ?_, ?_⟩
      · obtain rfl := Except.error.inj invalid
        refine ⟨refused, fun s c => ?_⟩
        -- the rules run the same check first, whatever the state
        have reduced := Reducer.reduce_exec call c s
        rw [valid] at reduced
        exact reduced
      · intro wrong
        cases wrong
      · intro operation detail
        rw [refused]
        simp
  | ok u =>
      obtain ⟨d₁, ledger, rejected, accepted⟩ :=
        perform_run ex pub offline caller call valid unseen
      obtain ⟨r, -, -, -, -, -, submitted⟩ :=
        @MemoryLedger.submit_of_not_mem l ⟨.fresh d.serial, caller, call⟩ unseen
      let l' := (l.submit ⟨.fresh d.serial, caller, call⟩).2
      have state : l'.state = (l.state.run call ctx).2 := by simp only [l', ctx, submitted]
      have block : l'.blockNumber = l.blockNumber + 1 := by simp only [l', submitted]
      cases verdict : (l.state.run call ctx).1 with
      | error e =>
          have answered : out = (.error (.execution (.rejected e)), d₁) := rejected e verdict
          refine ⟨fun e' invalid => ?_, fun _ => ⟨l', ?_, state, block, ?_, ?_⟩, ?_⟩
          · cases invalid
          · rw [answered, ledger]
          · intro e'
            rw [answered]
            simp
          · intro a refused
            cases refused
          · intro operation detail
            rw [answered]
            simp
      | ok a =>
          have answered : out =
              (.ok a.output, ((svc.offer (TransitionFact.ofLogs a.logs l.now)).run d₁).2) :=
            accepted a verdict
          refine ⟨fun e' invalid => ?_, fun _ => ⟨l', ?_, state, block, ?_, ?_⟩, ?_⟩
          · cases invalid
          · rw [answered, offer_ledger ex pub apart, ledger]
          · intro e'
            rw [answered]
            simp
          · intro a' same
            cases same
            exact ⟨by rw [answered], SettlementState.run_fitsOutput verdict, d₁, ledger,
              by rw [answered]⟩
          · intro operation detail
            rw [answered]
            simp

/-- An event created through the offline service of a fresh deployment whose replica
records what it is handed. -/
theorem offline_event_creation_refines :
    let g : Genesis := ⟨⟨1⟩, ⟨7⟩, ⟨Bps.lit 250, ⟨6⟩⟩⟩
    let draft : EventDraft := ⟨⟨1⟩, 10, Bps.lit 500, Bps.lit 1000, ⟨3⟩, ⟨100, by decide⟩⟩
    let l := MemoryLedger.create g (fixedClock Testbed.defaultClock)
    let d : Deployment :=
      { ledger := .offline l, executor := ⟨RetryPolicy.build {}, 1⟩, replica := .recording #[] }
    let ex := d.executor
    let caller : Address := ⟨2⟩
    let call := LedgerCall.createEvent draft
    Deployment.KeepsLedger Deployment.publish ∧ d.ledger = .offline l ∧
    OperationId.fresh d.serial ∉ l.operations ∧
    let svc : Marketplace App := ⟨Deployment.effects, ex, Deployment.publish⟩
    let ctx : CallContext := ⟨caller, l.now⟩
    let out := (svc.perform caller call).run d
    (∀ e, validateCall call = .error e →
      out = (.error (.preflight e), d) ∧
        ∀ (s : SettlementState) (c : CallContext), s.run call c = (.error e, s)) ∧
    (validateCall call = .ok () →
      ∃ l' : MemoryLedger, out.2.ledger = .offline l' ∧ l'.state = (l.state.run call ctx).2 ∧
        l'.blockNumber = l.blockNumber + 1 ∧
        (∀ e, out.1 = .error (.execution (.rejected e)) ↔ (l.state.run call ctx).1 = .error e) ∧
        ∀ a, (l.state.run call ctx).1 = .ok a →
          out.1 = .ok a.output ∧ call.fitsOutput a.output = true ∧
          ∃ d₁ : Deployment, d₁.ledger = .offline l' ∧
            out.2 = ((svc.offer (TransitionFact.ofLogs a.logs l.now)).run d₁).2) ∧
    ∀ operation detail, out.1 ≠ .error (.unexpectedResponse operation detail) := by
  intro g draft l d ex caller call
  have apart : Deployment.KeepsLedger Deployment.publish := fun _ _ => rfl
  have unseen : OperationId.fresh d.serial ∉ l.operations := by
    simp [l, MemoryLedger.create, MemoryLedger.operations]
  exact ⟨apart, rfl, unseen,
    service_refines_rules ex Deployment.publish apart d l rfl unseen caller call⟩

end TicketMarket
