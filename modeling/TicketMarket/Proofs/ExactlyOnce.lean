import Mathlib
import TicketMarket.Proofs.Deduplication
import TicketMarket.Testbed

/-! # An executed call lands at most once

`Executor.submit` sends one submission, under one operation id, through a ledger that fails
on script: it retries transient failures and looks the id up when it gives up. The script
may lose any answer of the ledger, before or after the ledger settled the call, and fail any
confirmation, but it only injects errors a network could cause (`FaultScript.Injectable`):
never a revert by the rules, nor a read-only client's.

The ledger behind the script settles an operation id once (`Consistent.submit_answer`), so
every submission the executor makes leaves it as it was or as after the one first submission
(`Attempting`), and every verdict that reaches the executor is the one the id's receipt
records. Computations of a closed run are reasoned about with triples over the scripted
ledger (`Bench.Triple`): `attempt_triple` for one attempt, `retryLoop_triple` by induction on
the retries left, and `submit_triple` with the lookup at the end. `submit_lands_once` states
the outcome: the ledger applied the call at most once and holds at most one receipt for the
id, and the executor succeeds exactly when that receipt records success, is rejected exactly
when it records a rejection, and gives up exactly when there is none. -/
set_option autoImplicit false
namespace TicketMarket

/-! ## Scripts that inject only transport failures -/

/-- An error a fault script may inject: anything but a revert by the settlement rules, which
only the ledger gives, or a read-only client's. -/
def LedgerError.Injectable : LedgerError → Prop
  | .reverted _ => False
  | .readOnly => False
  | _ => True

def SubmitFault.error : SubmitFault → LedgerError
  | .before e | .after e => e

/-- Every submit and confirmation failure a script injects is injectable. -/
structure FaultScript.Injectable (script : FaultScript) : Prop where
  submit : ∀ f ∈ script.submit, f.error.Injectable
  persistent : ∀ e ∈ script.persistentSubmit, e.Injectable
  confirm : ∀ e ∈ script.confirm, e.Injectable

theorem Receipt.revertReason?_eq_none_iff (r : Receipt) :
    r.revertReason? = none ↔ r.status = .success := by
  unfold Receipt.revertReason?
  cases r.status <;> simp

theorem Receipt.revertReason?_eq_some_iff (r : Receipt) (e : Rejection) :
    r.revertReason? = some e ↔ r.status = .reverted e := by
  unfold Receipt.revertReason?
  cases r.status <;> simp

theorem Receipt.answer_eq_error {r : Receipt} {e : LedgerError} (answered : r.answer = .error e) :
    ∃ reason, e = .reverted reason ∧ r.status = .reverted reason := by
  unfold Receipt.answer at answered
  cases revert : r.revertReason? with
  | none => simp [revert] at answered
  | some reason =>
      simp only [revert, Except.error.injEq] at answered
      exact ⟨reason, answered.symm, (r.revertReason?_eq_some_iff reason).mp revert⟩

theorem Receipt.answer_eq_ok {r : Receipt} {p : PendingTx} (answered : r.answer = .ok p) :
    p.tx = r.tx ∧ r.status = .success := by
  unfold Receipt.answer at answered
  cases revert : r.revertReason? with
  | some reason => simp [revert] at answered
  | none =>
      simp only [revert, Except.ok.injEq] at answered
      exact ⟨by rw [← answered], (r.revertReason?_eq_none_iff).mp revert⟩

/-! ## One request through the script -/

namespace FaultyLedger

theorem pop_eq {α : Type} (xs : List α) : pop xs = (xs.head?, xs.tail) := by
  cases xs <;> rfl

theorem submit_script (fl : FaultyLedger) (sub : Submission) :
    (fl.submit sub).2.script = { fl.script with submit := fl.script.submit.tail } := by
  simp only [submit, pop_eq]
  split <;> rfl

theorem submit_lookups (fl : FaultyLedger) (sub : Submission) :
    (fl.submit sub).2.calls.findReceipt = fl.calls.findReceipt := by
  simp only [submit, pop_eq]
  split <;> rfl

/-- A submit through the script fails with a scripted error, before or after the ledger
settled the call, or passes the ledger's own answer on. -/
theorem submit_outcome (fl : FaultyLedger) (sub : Submission) (honest : fl.script.Injectable) :
    (∃ e, (fl.submit sub).1 = .error e ∧ e.Injectable ∧
        ((fl.submit sub).2.inner = fl.inner ∨ (fl.submit sub).2.inner = (fl.inner.submit sub).2)) ∨
      ((fl.submit sub).1 = (fl.inner.submit sub).1 ∧
        (fl.submit sub).2.inner = (fl.inner.submit sub).2) := by
  simp only [submit, pop_eq]
  cases queue : fl.script.submit with
  | cons f rest =>
      have scripted := honest.submit f (by simp [queue])
      cases f with
      | before e => exact .inl ⟨e, rfl, scripted, .inl rfl⟩
      | after e => exact .inl ⟨e, rfl, scripted, .inr rfl⟩
  | nil =>
      cases persistent : fl.script.persistentSubmit with
      | some e => exact .inl ⟨e, rfl, honest.persistent e persistent, .inl rfl⟩
      | none => exact .inr ⟨rfl, rfl⟩

theorem waitFor_frame (fl : FaultyLedger) (tx : TxHash) :
    (fl.waitFor tx).2.inner = fl.inner ∧
      (fl.waitFor tx).2.script = { fl.script with confirm := fl.script.confirm.tail } ∧
      (fl.waitFor tx).2.calls.findReceipt = fl.calls.findReceipt := by
  simp only [waitFor, pop_eq]
  split <;> exact ⟨rfl, rfl, rfl⟩

/-- A wait through the script fails with a scripted error or passes the ledger's answer on. -/
theorem waitFor_outcome (fl : FaultyLedger) (tx : TxHash) (honest : fl.script.Injectable) :
    (∃ e, (fl.waitFor tx).1 = .error e ∧ e.Injectable) ∨ (fl.waitFor tx).1 = fl.inner.waitFor tx := by
  simp only [waitFor, pop_eq]
  cases queue : fl.script.confirm with
  | cons e rest => exact .inl ⟨e, rfl, honest.confirm e (by simp [queue])⟩
  | nil => exact .inr rfl

theorem chainId_frame (fl : FaultyLedger) :
    fl.chainId.2.inner = fl.inner ∧
      fl.chainId.2.script = { fl.script with chainId := fl.script.chainId.tail } ∧
      fl.chainId.2.calls.findReceipt = fl.calls.findReceipt := by
  simp only [chainId, pop_eq]
  split <;> exact ⟨rfl, rfl, rfl⟩

end FaultyLedger

/-! ## Triples over a closed run -/

namespace Bench

/-- Started from any run whose scripted ledger satisfies `P`, `x` ends with an outcome and a
scripted ledger that satisfy `Q`. -/
def Triple {α : Type} (P : FaultyLedger → Prop) (x : Bench α) (Q : α → FaultyLedger → Prop) :
    Prop :=
  ∀ t : Testbed, P t.ledger → Q (x.run t).1 (x.run t).2.ledger

variable {α β : Type} {P : FaultyLedger → Prop}

theorem Triple.pure {a : α} {Q : α → FaultyLedger → Prop} (post : ∀ fl, P fl → Q a fl) :
    Triple P (Pure.pure a) Q :=
  fun t pre => post t.ledger pre

theorem Triple.bind {x : Bench α} {f : α → Bench β} {R : α → FaultyLedger → Prop}
    {Q : β → FaultyLedger → Prop} (first : Triple P x R) (rest : ∀ a, Triple (R a) (f a) Q) :
    Triple P (x >>= f) Q :=
  fun t pre => rest _ _ (first t pre)

theorem Triple.onLedger {f : FaultyLedger → α × FaultyLedger} {Q : α → FaultyLedger → Prop}
    (post : ∀ fl, P fl → Q (f fl).1 (f fl).2) : Triple P (Testbed.onLedger f) Q :=
  fun t pre => post t.ledger pre

theorem Triple.record (m : Metric) : Triple P (Testbed.effects.record m) fun _ => P :=
  fun _ pre => pre

theorem Triple.sleep (ms : Nat) : Triple P (Testbed.effects.sleep ms) fun _ => P :=
  fun _ pre => pre

theorem Triple.weaken {P' : FaultyLedger → Prop} {x : Bench α} {Q : α → FaultyLedger → Prop}
    (stronger : ∀ fl, P fl → P' fl) (triple : Triple P' x Q) : Triple P x Q :=
  fun t pre => triple t (stronger _ pre)

theorem Triple.submit (sub : Submission) {Q : Except LedgerError PendingTx → FaultyLedger → Prop} :
    Triple (fun fl => Q (fl.submit sub).1 (fl.submit sub).2) (Testbed.effects.ledger.submit sub) Q :=
  fun _ pre => pre

theorem Triple.waitFor (tx : TxHash) (n : Nat) {Q : Except LedgerError Receipt → FaultyLedger → Prop} :
    Triple (fun fl => Q (fl.waitFor tx).1 (fl.waitFor tx).2) (Testbed.effects.ledger.waitFor tx n) Q :=
  fun _ pre => pre

theorem Triple.findReceipt (op : OperationId)
    {Q : Except LedgerError (Option Receipt) → FaultyLedger → Prop} :
    Triple (fun fl => Q (fl.findReceipt op).1 (fl.findReceipt op).2)
      (Testbed.effects.ledger.findReceipt op) Q :=
  fun _ pre => pre

theorem Triple.chainId {Q : Except LedgerError Nat → FaultyLedger → Prop} :
    Triple (fun fl => Q fl.chainId.1 fl.chainId.2) Testbed.effects.ledger.chainId Q :=
  fun _ pre => pre

end Bench

open Bench

/-! ## The executor against a ledger that settles each id once -/

section Executing

variable (l : MemoryLedger) (sub : Submission) (lookups : Nat)

/-- The scripted ledger while the executor works on `sub`: the ledger behind is `l` or `l`
after the first submission of `sub`, the script still injects only transport failures, and
`lookups` receipt lookups have been made. -/
structure Attempting (fl : FaultyLedger) : Prop where
  inner : fl.inner = l ∨ fl.inner = (l.submit sub).2
  script : fl.script.Injectable
  lookups : fl.calls.findReceipt = lookups

/-- What an attempt's answer tells of the ledger behind after it: a confirmed receipt is the
id's and records success, a rejection is what the id's receipt records, and any other
failure is one a network could cause. -/
def Answered (l : MemoryLedger) (op : OperationId) : Except LedgerError Receipt → Prop
  | .ok r => l.findReceipt op = some r ∧ r.status = .success
  | .error (.reverted e) => ∃ r, l.findReceipt op = some r ∧ r.status = .reverted e
  | .error e => e.Injectable

/-- What the retry loop's outcome tells of the ledger behind after it. -/
def Looped (l : MemoryLedger) (op : OperationId) : Except ExecutionError (Receipt × Nat) → Prop
  | .ok (r, _) => l.findReceipt op = some r ∧ r.status = .success
  | .error (.rejected e) => ∃ r, l.findReceipt op = some r ∧ r.status = .reverted e
  | .error (.exhausted _ e) => e.Injectable
  | .error (.fatal _ e) => e.Injectable

/-- What the executor's result tells of the ledger behind at the end; `lookedUp` says whether
the id was looked up. -/
def Settled (l : MemoryLedger) (op : OperationId) (lookedUp : Prop) :
    Except ExecutionError Executed → Prop
  | .ok x => l.findReceipt op = some x.receipt ∧ x.receipt.status = .success ∧
      (x.reconciled = true ↔ lookedUp)
  | .error (.rejected e) => ∃ r, l.findReceipt op = some r ∧ r.status = .reverted e
  | .error (.exhausted _ _) => l.findReceipt op = none
  | .error (.fatal _ _) => l.findReceipt op = none

variable {l sub lookups}

theorem Answered.of_injectable {l : MemoryLedger} {op : OperationId} {e : LedgerError}
    (injected : e.Injectable) : Answered l op (.error e) := by
  cases e
  case reverted reason => exact injected.elim
  all_goals exact injected

theorem Answered.injectable {l : MemoryLedger} {op : OperationId} {e : LedgerError}
    (answered : Answered l op (.error e)) (other : ∀ reason, e = .reverted reason → False) :
    e.Injectable := by
  cases e
  case reverted reason => exact (other reason rfl).elim
  all_goals exact answered

/-- Whichever of its two states the ledger behind is in, submitting `sub` takes it to the
state after the first submission. -/
theorem Attempting.submit_inner {fl : FaultyLedger} (attempting : Attempting l sub lookups fl) :
    (fl.inner.submit sub).2 = (l.submit sub).2 := by
  rcases attempting.inner with same | same <;> rw [same]
  exact MemoryLedger.submit_of_mem (MemoryLedger.mem_operations_submit l sub)

theorem Attempting.consistent (cons : l.Consistent) {fl : FaultyLedger}
    (attempting : Attempting l sub lookups fl) : fl.inner.Consistent := by
  rcases attempting.inner with same | same <;> rw [same]
  · exact cons
  · exact (cons.serve (.submit sub)).1

/-- The first half of an attempt: the submit, failed by the script or answered from the
receipt of the id. -/
theorem submit_step (cons : l.Consistent) :
    Triple (Attempting l sub lookups) (Testbed.effects.ledger.submit sub) fun res fl =>
      Attempting l sub lookups fl ∧ ((∃ e, res = .error e ∧ e.Injectable) ∨
        ∃ r, res = r.answer ∧ fl.inner.findReceipt sub.operationId = some r ∧
          fl.inner.receipt? r.tx = some r) := by
  refine Triple.weaken (fun fl attempting => ?_) (Triple.submit sub)
  have settled := attempting.submit_inner
  have script : (fl.submit sub).2.script.Injectable := by
    rw [FaultyLedger.submit_script]
    exact ⟨fun f mem => attempting.script.submit f (List.mem_of_mem_tail mem),
      attempting.script.persistent, attempting.script.confirm⟩
  have lookups : (fl.submit sub).2.calls.findReceipt = lookups :=
    (FaultyLedger.submit_lookups fl sub).trans attempting.lookups
  rcases FaultyLedger.submit_outcome fl sub attempting.script with
    ⟨e, failed, injected, inner⟩ | ⟨passed, inner⟩
  · refine ⟨⟨?_, script, lookups⟩, .inl ⟨e, failed, injected⟩⟩
    rcases inner with same | same
    · rw [same]
      exact attempting.inner
    · exact .inr (same.trans settled)
  · -- the answer that got through is the ledger's, read off the id's receipt
    obtain ⟨r, answer, found, receipt⟩ := (attempting.consistent cons).submit_answer sub
    have submitted := inner.trans settled
    rw [passed, inner]
    exact ⟨⟨.inr submitted, script, lookups⟩, .inr ⟨r, answer, found, receipt⟩⟩

/-- The second half of an attempt: the wait for the transaction of the id's receipt, failed
by the script or answered with that receipt. -/
theorem waitFor_step {r : Receipt} (n : Nat) :
    Triple (fun fl => Attempting l sub lookups fl ∧
        fl.inner.findReceipt sub.operationId = some r ∧ fl.inner.receipt? r.tx = some r)
      (Testbed.effects.ledger.waitFor r.tx n) fun res fl =>
        Attempting l sub lookups fl ∧ fl.inner.findReceipt sub.operationId = some r ∧
          ((∃ e, res = .error e ∧ e.Injectable) ∨ res = .ok r) := by
  refine Triple.weaken (fun fl ⟨attempting, found, receipt⟩ => ?_) (Triple.waitFor r.tx n)
  obtain ⟨inner, script, looked⟩ := FaultyLedger.waitFor_frame fl r.tx
  refine ⟨⟨inner ▸ attempting.inner, ?_, looked.trans attempting.lookups⟩, inner ▸ found, ?_⟩
  · rw [script]
    exact ⟨attempting.script.submit, attempting.script.persistent,
      fun e mem => attempting.script.confirm e (List.mem_of_mem_tail mem)⟩
  · rcases FaultyLedger.waitFor_outcome fl r.tx attempting.script with
      ⟨e, failed, injected⟩ | passed
    · exact .inl ⟨e, failed, injected⟩
    · rw [passed]
      simp [MemoryLedger.waitFor, receipt]

/-- One attempt leaves the ledger behind in one of its two states, and its answer is the
id's receipt, the rejection that receipt records, or a transport failure. -/
theorem attempt_triple (cons : l.Consistent) (ex : Executor) :
    Triple (Attempting l sub lookups) (Executor.attempt Testbed.effects ex sub) fun res fl =>
      Attempting l sub lookups fl ∧ Answered fl.inner sub.operationId res := by
  unfold Executor.attempt
  refine Triple.bind (submit_step cons) fun res => ?_
  split
  · -- the submit failed: by script, or as the rejection the id's receipt records
    refine Triple.pure fun fl ⟨attempting, outcome⟩ => ⟨attempting, ?_⟩
    rcases outcome with ⟨e', failed, injected⟩ | ⟨r, answer, found, -⟩
    · cases failed
      exact .of_injectable injected
    · obtain ⟨reason, rfl, status⟩ := Receipt.answer_eq_error answer.symm
      exact ⟨r, found, status⟩
  · -- only the id's receipt, recording success, answers with a pending transaction
    rename_i pending
    intro t ⟨attempting, outcome⟩
    rcases outcome with ⟨e', failed, -⟩ | ⟨r, answer, found, receipt⟩
    · cases failed
    obtain ⟨tx, success⟩ := Receipt.answer_eq_ok answer.symm
    rw [tx]
    refine Triple.bind (Q := fun res fl => Attempting l sub lookups fl ∧
      Answered fl.inner sub.operationId res) (waitFor_step _) (fun res => ?_) t
      ⟨attempting, found, receipt⟩
    split
    · refine Triple.pure fun fl ⟨attempting, _, outcome⟩ => ⟨attempting, ?_⟩
      rcases outcome with ⟨e', failed, injected⟩ | failed
      · cases failed
        exact .of_injectable injected
      · cases failed
    · split
      · rename_i reason revert
        refine Triple.pure fun fl ⟨_, _, outcome⟩ => ?_
        rcases outcome with ⟨e', failed, -⟩ | same
        · cases failed
        · cases same
          rw [Receipt.revertReason?_eq_some_iff, success] at revert
          cases revert
      · refine Triple.pure fun fl ⟨attempting, found, outcome⟩ => ⟨attempting, ?_⟩
        rcases outcome with ⟨e', failed, -⟩ | same
        · cases failed
        · cases same
          exact ⟨found, success⟩

/-- Asking for the chain id touches neither the ledger behind nor the submit and confirmation
failures. -/
theorem resetSession_triple :
    Triple (Attempting l sub lookups) (Executor.resetSession Testbed.effects) fun _ =>
      Attempting l sub lookups := by
  unfold Executor.resetSession
  refine Triple.bind (R := fun _ => Attempting l sub lookups)
    (Triple.weaken (fun fl attempting => ?_) Triple.chainId) fun res => ?_
  · obtain ⟨inner, script, lookups⟩ := FaultyLedger.chainId_frame fl
    refine ⟨inner ▸ attempting.inner, ?_, lookups.trans attempting.lookups⟩
    rw [script]
    exact ⟨attempting.script.submit, attempting.script.persistent, attempting.script.confirm⟩
  · split <;> exact Triple.record _

/-- One pass of the retry loop keeps the ledger in its two states; an answer of the ledger
ends it with the id's receipt or its rejection, and a transport failure ends it, or is
handed to `retry`, which must do as much. -/
theorem tryOnce_triple (cons : l.Consistent) (ex : Executor) (name : String) (k : Nat)
    (retry : LedgerError → Bench (Except ExecutionError (Receipt × Nat)))
    (retrying : ∀ e, e.Injectable → Triple (Attempting l sub lookups) (retry e) fun res fl =>
      Attempting l sub lookups fl ∧ Looped fl.inner sub.operationId res) :
    Triple (Attempting l sub lookups)
      (Executor.tryOnce Testbed.effects ex name (Executor.attempt Testbed.effects ex sub) k retry)
      fun res fl => Attempting l sub lookups fl ∧ Looped fl.inner sub.operationId res := by
  unfold Executor.tryOnce
  refine Triple.bind (Triple.record _) fun _ => Triple.bind (attempt_triple cons ex) fun res => ?_
  split
  · exact Triple.pure fun fl ⟨attempting, answered⟩ => ⟨attempting, answered⟩
  · exact Triple.pure fun fl ⟨attempting, answered⟩ => ⟨attempting, answered⟩
  · rename_i e other
    -- a failure that is not the ledger's verdict came from the script
    intro t ⟨attempting, answered⟩
    have injected := Answered.injectable answered other
    split
    · exact ⟨attempting, injected⟩
    · split
      · exact ⟨attempting, injected⟩
      · exact retrying e injected t attempting

theorem retryLoop_triple (cons : l.Consistent) (ex : Executor) (name : String) (fuel k : Nat) :
    Triple (Attempting l sub lookups)
      (Executor.retryLoop Testbed.effects ex name (Executor.attempt Testbed.effects ex sub) fuel k)
      fun res fl => Attempting l sub lookups fl ∧ Looped fl.inner sub.operationId res := by
  -- on the retries left: each pass keeps `Attempting`, so the next pass starts from it too
  induction fuel generalizing k with
  | zero =>
      rw [Executor.retryLoop]
      exact tryOnce_triple cons ex name k _ fun e injected =>
        Triple.pure fun fl attempting => ⟨attempting, injected⟩
  | succ fuel ih =>
      rw [Executor.retryLoop]
      refine tryOnce_triple cons ex name k _ fun e _ =>
        Triple.bind (Triple.record _) fun _ => Triple.bind (Triple.sleep _) fun _ => ?_
      split
      · exact Triple.bind resetSession_triple fun _ => ih (k + 1)
      · exact ih (k + 1)

/-- Looking the id up after the attempts gave up answers from the id's receipt, if any. -/
theorem reconcile_triple {failure : ExecutionError}
    (gaveUp : ∃ n e, failure = .exhausted n e ∨ failure = .fatal n e) :
    Triple (Attempting l sub lookups)
      (Executor.reconcile Testbed.effects sub.operationId failure) fun result fl =>
        (fl.inner = l ∨ fl.inner = (l.submit sub).2) ∧
          Settled fl.inner sub.operationId (fl.calls.findReceipt ≠ lookups) result := by
  unfold Executor.reconcile
  refine Triple.bind (R := fun res fl => res = .ok (fl.inner.findReceipt sub.operationId) ∧
    (fl.inner = l ∨ fl.inner = (l.submit sub).2) ∧ fl.calls.findReceipt = lookups + 1)
    (Triple.weaken (fun fl attempting => ⟨rfl, attempting.inner, by
      simp [FaultyLedger.findReceipt, attempting.lookups]⟩) (Triple.findReceipt _)) fun res => ?_
  split
  · rename_i receipt
    split
    · rename_i reason revert
      refine Triple.bind (Triple.record _) fun _ => Triple.pure fun fl ⟨found, inner, _⟩ =>
        ⟨inner, receipt, (Except.ok.inj found).symm, ?_⟩
      exact (receipt.revertReason?_eq_some_iff reason).mp revert
    · rename_i revert
      refine Triple.bind (Triple.record _) fun _ => Triple.pure fun fl ⟨found, inner, looked⟩ =>
        ⟨inner, (Except.ok.inj found).symm, (receipt.revertReason?_eq_none_iff).mp revert, ?_⟩
      simp [looked]
  · obtain ⟨n, e, rfl | rfl⟩ := gaveUp <;>
      exact Triple.bind (Triple.record _) fun _ => Triple.pure fun fl ⟨found, inner, _⟩ =>
        ⟨inner, (Except.ok.inj found).symm⟩
  · exact fun t ⟨found, _⟩ => by cases found

/-- The result of a call from its attempts' outcome: a receipt the loop got stays one that
was not looked up, a rejection stays, and giving up leads to a lookup of the id. -/
theorem resolve_triple {outcome : Except ExecutionError (Receipt × Nat)} :
    Triple (fun fl => Attempting l sub lookups fl ∧ Looped fl.inner sub.operationId outcome)
      (Executor.resolve Testbed.effects sub.operationId outcome) fun result fl =>
        (fl.inner = l ∨ fl.inner = (l.submit sub).2) ∧
          Settled fl.inner sub.operationId (fl.calls.findReceipt ≠ lookups) result := by
  rcases outcome with failure | ⟨receipt, n⟩
  · rw [Executor.resolve]
    intro t ⟨attempting, looped⟩
    cases failure with
    | rejected e => exact ⟨attempting.inner, looped⟩
    | exhausted n e =>
        -- a failure of the script is never a read-only client's, so the id is looked up
        have lookup : (ExecutionError.exhausted n e).needsLookup = true := rfl
        rw [if_pos lookup]
        exact reconcile_triple ⟨n, e, .inl rfl⟩ t attempting
    | fatal n e =>
        have lookup : (ExecutionError.fatal n e).needsLookup = true := by
          cases e
          case readOnly => exact looped.elim
          all_goals rfl
        rw [if_pos lookup]
        exact reconcile_triple ⟨n, e, .inr rfl⟩ t attempting
  · rw [Executor.resolve]
    refine Triple.pure fun fl ⟨attempting, found, success⟩ => ⟨attempting.inner, found, success, ?_⟩
    simp [attempting.lookups]

/-- Recording how a call ended touches nothing a result depends on. -/
theorem report_triple {P : FaultyLedger → Prop} (name : String)
    (result : Except ExecutionError Executed) :
    Triple P (Executor.report Testbed.effects name result) fun _ => P := by
  unfold Executor.report
  split
  · exact Triple.record _
  · exact Triple.record _
  · exact Triple.pure fun _ pre => pre

/-- What a whole execution leaves: the ledger behind in one of its two states, and a result
that the id's receipt, or its absence, decides. -/
theorem submit_triple (cons : l.Consistent) (ex : Executor) :
    Triple (Attempting l sub lookups) (Executor.submit Testbed.effects ex sub) fun result fl =>
      (fl.inner = l ∨ fl.inner = (l.submit sub).2) ∧
        Settled fl.inner sub.operationId (fl.calls.findReceipt ≠ lookups) result := by
  unfold Executor.submit Executor.withRetry
  refine Triple.bind (retryLoop_triple cons ex _ _ 1) fun outcome => ?_
  refine Triple.bind resolve_triple fun result => ?_
  exact Triple.bind (report_triple _ result) fun _ =>
    Triple.bind (Triple.record _) fun _ => Triple.pure fun _ done => done

/-- A result that the id's receipt decides, read as four equivalences. -/
theorem Settled.outcomes {l : MemoryLedger} {op : OperationId} {lookedUp : Prop}
    {result : Except ExecutionError Executed} (settled : Settled l op lookedUp result) :
    ((∃ x, result = .ok x) ↔ ∃ r, l.findReceipt op = some r ∧ r.status = .success) ∧
    (∀ x, result = .ok x → l.findReceipt op = some x.receipt ∧ (x.reconciled = true ↔ lookedUp)) ∧
    (∀ e, result = .error (.rejected e) ↔
      ∃ r, l.findReceipt op = some r ∧ r.status = .reverted e) ∧
    ((∃ n e, result = .error (.exhausted n e) ∨ result = .error (.fatal n e)) ↔
      l.findReceipt op = none) := by
  rcases result with failure | x
  · cases failure with
    | rejected e =>
        obtain ⟨r, found, status⟩ := settled
        simp [found, status]
    | exhausted n e =>
        have absent : l.findReceipt op = none := settled
        simp [absent]
    | fatal n e =>
        have absent : l.findReceipt op = none := settled
        simp [absent]
  · obtain ⟨found, success, reconciled⟩ := settled
    simp [found, success, reconciled]

end Executing

/-- An execution through a script that injects only transport failures lands its call at
most once. Whatever the retry policy, and whichever answers and confirmations the script
loses, when `Executor.submit` returns the ledger behind is as it was or as after one
submission of the call, so it mined one block at most, and it holds at most one receipt for
the operation id. The executor succeeds exactly when that receipt exists and records
success, and then answers with it, marked as reconciled exactly when the id was looked up;
it is rejected exactly when the receipt records a rejection, with that rejection; and it
gives up, exhausted or on a fatal error, exactly when there is no receipt. -/
theorem submit_lands_once (t : Testbed) (cons : t.ledger.inner.Consistent)
    (honest : t.ledger.script.Injectable) (ex : Executor) (sub : Submission) :
    let l := t.ledger.inner
    let result := ((Executor.submit Testbed.effects ex sub).run t).1
    let after := ((Executor.submit Testbed.effects ex sub).run t).2.ledger
    let op := sub.operationId
    (after.inner = l ∨ after.inner = (l.submit sub).2) ∧
    (after.inner.blockNumber = l.blockNumber ∨ after.inner.blockNumber = l.blockNumber + 1) ∧
    (∀ tx₁ tx₂ r₁ r₂, after.inner.receipt? tx₁ = some r₁ → after.inner.receipt? tx₂ = some r₂ →
      r₁.operationId = op → r₂.operationId = op → tx₁ = tx₂) ∧
    ((∃ x, result = .ok x) ↔ ∃ r, after.inner.findReceipt op = some r ∧ r.status = .success) ∧
    (∀ x, result = .ok x → after.inner.findReceipt op = some x.receipt ∧
      (x.reconciled = true ↔ after.calls.findReceipt ≠ t.ledger.calls.findReceipt)) ∧
    (∀ e, result = .error (.rejected e) ↔
      ∃ r, after.inner.findReceipt op = some r ∧ r.status = .reverted e) ∧
    ((∃ n e, result = .error (.exhausted n e) ∨ result = .error (.fatal n e)) ↔
      after.inner.findReceipt op = none) := by
  intro l result after op
  have start : Attempting l sub t.ledger.calls.findReceipt t.ledger := ⟨.inl rfl, honest, rfl⟩
  obtain ⟨inner, settled⟩ : (after.inner = l ∨ after.inner = (l.submit sub).2) ∧
      Settled after.inner op (after.calls.findReceipt ≠ t.ledger.calls.findReceipt) result :=
    submit_triple cons ex t start
  -- the ledger behind is in one of its two states, both consistent
  have consistent : after.inner.Consistent := by
    rcases inner with same | same <;> rw [same]
    · exact cons
    · exact (cons.serve (.submit sub)).1
  have blocks : after.inner.blockNumber = l.blockNumber ∨
      after.inner.blockNumber = l.blockNumber + 1 := by
    rcases inner with same | same <;> rw [same]
    · exact .inl rfl
    · exact MemoryLedger.blockNumber_submit l sub
  exact ⟨inner, blocks, fun tx₁ tx₂ r₁ r₂ receipt₁ receipt₂ own₁ own₂ =>
    consistent.tx_eq_of_operationId receipt₁ receipt₂ (own₁.trans own₂.symm), settled.outcomes⟩

/-- An event created through a fresh ledger whose script loses the first answer after the
ledger settled the call and fails the first confirmation. -/
theorem lost_answer_lands_once :
    let g : Genesis := ⟨⟨1⟩, ⟨7⟩, ⟨Bps.lit 250, ⟨6⟩⟩⟩
    let draft : EventDraft := ⟨⟨1⟩, 10, Bps.lit 500, Bps.lit 1000, ⟨3⟩, ⟨100, by decide⟩⟩
    let script : FaultScript :=
      { submit := [.after (.timeout "lost")], confirm := [.network "down"] }
    let t := Testbed.start (MemoryLedger.create g (fixedClock Testbed.defaultClock)) script
    let ex : Executor := ⟨RetryPolicy.build {}, 1⟩
    let sub : Submission := ⟨.fresh 0, ⟨2⟩, .createEvent draft⟩
    let l := t.ledger.inner
    let result := ((Executor.submit Testbed.effects ex sub).run t).1
    let after := ((Executor.submit Testbed.effects ex sub).run t).2.ledger
    let op := sub.operationId
    t.ledger.inner.Consistent ∧ t.ledger.script.Injectable ∧
    (after.inner = l ∨ after.inner = (l.submit sub).2) ∧
    (after.inner.blockNumber = l.blockNumber ∨ after.inner.blockNumber = l.blockNumber + 1) ∧
    (∀ tx₁ tx₂ r₁ r₂, after.inner.receipt? tx₁ = some r₁ → after.inner.receipt? tx₂ = some r₂ →
      r₁.operationId = op → r₂.operationId = op → tx₁ = tx₂) ∧
    ((∃ x, result = .ok x) ↔ ∃ r, after.inner.findReceipt op = some r ∧ r.status = .success) ∧
    (∀ x, result = .ok x → after.inner.findReceipt op = some x.receipt ∧
      (x.reconciled = true ↔ after.calls.findReceipt ≠ t.ledger.calls.findReceipt)) ∧
    (∀ e, result = .error (.rejected e) ↔
      ∃ r, after.inner.findReceipt op = some r ∧ r.status = .reverted e) ∧
    ((∃ n e, result = .error (.exhausted n e) ∨ result = .error (.fatal n e)) ↔
      after.inner.findReceipt op = none) := by
  intro g draft script t ex sub
  have cons : t.ledger.inner.Consistent := MemoryLedger.Consistent.fresh _ _ _ _
  have honest : t.ledger.script.Injectable :=
    ⟨by simp [script, t, Testbed.start, FaultyLedger.scripted, SubmitFault.error,
        LedgerError.Injectable],
      by simp [script, t, Testbed.start, FaultyLedger.scripted],
      by simp [script, t, Testbed.start, FaultyLedger.scripted, LedgerError.Injectable]⟩
  exact ⟨cons, honest, submit_lands_once t cons honest ex sub⟩

end TicketMarket
