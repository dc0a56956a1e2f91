import Mathlib
import TicketMarket.Execution.Executor

/-! # The retry schedule

What the executor's retry loop does, attempt by attempt, against a ledger that answers on
script and is watched: every attempt, pause and request is written down in order
(`Watch`), and the answers are chosen by the number of attempts started so far (`Tape`).
Metrics are not watched.

For any outcomes of the attempts, the loop stops on the first attempt that succeeds, is
reverted or fails in a way no retry mends, or on the last attempt the policy allows,
whichever comes first, counting a policy of no attempts as one (`Retry.StopsAt`). It
answers with that attempt's outcome (`Retry.verdict`). Between two attempts it pauses for
the policy's backoff after the earlier one and then, if that attempt lost the account's
slot to contention, resets the session by asking for the chain id, whatever the answer;
after the last attempt it does nothing more (`Retry.schedule`). `retryLoop_run` proves
this by induction on the retries left, from one lemma per kind of attempt
(`tryOnce_ends`, `tryOnce_retries`).

On the submit path an attempt is a submit and, if that went through, a wait; the call is
looked up once at the end exactly when the loop gave up on attempts or failed for a reason
other than a read-only client (`submit_seen`). `retry_schedule_exact` states both. -/
set_option autoImplicit false
namespace TicketMarket

/-- What a run of the executor can be seen to do. -/
inductive Sighting where
  | attempt
  | sleep (ms : Nat)
  | chainId
  | submit
  | waitFor
  | findReceipt
  | query
  deriving DecidableEq, Repr

/-- How long a pause lasted, if the entry is a pause. -/
def Sighting.pause? : Sighting → Option Nat
  | .sleep ms => some ms
  | _ => none

/-- What has been seen so far: the attempts started, and every attempt, request and pause
in order. -/
structure Watch where
  made : Nat
  seen : List Sighting

namespace Watch

/-- Write a request or a pause down. -/
def note (w : Watch) (x : Sighting) : Watch := { w with seen := w.seen ++ [x] }

/-- Write down a request that starts the next attempt. -/
def begin (w : Watch) (x : Sighting) : Watch := ⟨w.made + 1, w.seen ++ [x]⟩

variable {β γ : Type}

theorem run_bind (x : StateM Watch β) (f : β → StateM Watch γ) (w : Watch) :
    (x >>= f).run w = (f (x.run w).1).run (x.run w).2 := by
  rw [StateT.run_bind]
  rfl

theorem run_bind_of {x : StateM Watch β} {f : β → StateM Watch γ} {w w' : Watch} {b : β}
    (first : x.run w = (b, w')) : (x >>= f).run w = (f b).run w' := by
  rw [run_bind, first]

end Watch

/-- A ledger's answers on script. A submit or a query starts an attempt and is answered by
the entry of that attempt; a wait or a chain-id request is answered by the entry of the
attempts started before it; every lookup gets the same answer. -/
structure Tape where
  chainId : Nat → Except LedgerError Nat
  submit : Nat → Except LedgerError PendingTx
  waitFor : Nat → Except LedgerError Receipt
  findReceipt : Except LedgerError (Option Receipt)
  query : Nat → Except LedgerError QueryResponse

namespace Tape

variable (tape : Tape)

/-- The ledger on script and a clock, both watched. Metrics are not watched, and fresh
operation ids are not asked for on the paths studied here. -/
def effects : Effects (StateM Watch) where
  ledger :=
    { chainId := modifyGet fun w => (tape.chainId w.made, w.note .chainId)
      submit := fun _ => modifyGet fun w => (tape.submit (w.made + 1), w.begin .submit)
      waitFor := fun _ _ => modifyGet fun w => (tape.waitFor w.made, w.note .waitFor)
      findReceipt := fun _ => modifyGet fun w => (tape.findReceipt, w.note .findReceipt)
      query := fun _ => modifyGet fun w => (tape.query (w.made + 1), w.begin .query) }
  sleep ms := modify fun w => w.note (.sleep ms)
  record _ := pure ()
  freshOperation := pure (.fresh 0)

/-- The outcome of attempt `i` on the submit path: a failed submit or wait fails the
attempt, and a receipt that records a revert is a rejection. -/
def submitted (i : Nat) : Except LedgerError Receipt :=
  match tape.submit i with
  | .error e => .error e
  | .ok _ =>
    match tape.waitFor i with
    | .error e => .error e
    | .ok receipt =>
      match receipt.revertReason? with
      | some reason => .error (.reverted reason)
      | none => .ok receipt

/-- What attempt `i` on the submit path is seen as: its submit, then its wait if the submit
went through. -/
def submitSeen (i : Nat) : List Sighting :=
  match tape.submit i with
  | .error _ => [.submit]
  | .ok _ => [.submit, .waitFor]

theorem submitSeen_count_submit (i : Nat) : (tape.submitSeen i).count .submit = 1 := by
  unfold submitSeen
  split <;> rfl

theorem submitSeen_count_findReceipt (i : Nat) : (tape.submitSeen i).count .findReceipt = 0 := by
  unfold submitSeen
  split <;> rfl

variable {tape} {w : Watch}

theorem record_run (m : Metric) : (tape.effects.record m).run w = ((), w) := rfl

theorem sleep_run (ms : Nat) : (tape.effects.sleep ms).run w = ((), w.note (.sleep ms)) := rfl

/-- A session reset asks for the chain id and goes on whatever the answer. -/
theorem resetSession_run : (Executor.resetSession tape.effects).run w = ((), w.note .chainId) := by
  unfold Executor.resetSession
  rw [Watch.run_bind_of (rfl : tape.effects.ledger.chainId.run w = (tape.chainId w.made, _))]
  cases tape.chainId w.made <;> rfl

end Tape

namespace Retry

variable {α : Type}

/-- Whether an attempt's outcome stops the loop on any attempt: a value, a revert by the
rules, or an error no retry mends. -/
def stops : Except LedgerError α → Bool
  | .ok _ => true
  | .error e => !e.isRetryable

/-- Whether a failed attempt lost the account's slot to contention. -/
def contends : Except LedgerError α → Bool
  | .ok _ => false
  | .error e => e.isPriceContention

/-- What the loop answers when it stops on attempt `n` with outcome `o`: the value with the
attempts made, the rejection of a revert, a failure no retry mends, or the last transient
failure once the attempts ran out. -/
def verdict (n : Nat) : Except LedgerError α → Except ExecutionError (α × Nat)
  | .ok v => .ok (v, n)
  | .error (.reverted reason) => .error (.rejected reason)
  | .error e => if e.isRetryable then .error (.exhausted n e) else .error (.fatal n e)

theorem verdict_error {n : Nat} {e : LedgerError} (other : ∀ reason, e ≠ .reverted reason) :
    verdict n (.error e : Except LedgerError α) =
      if e.isRetryable then .error (.exhausted n e) else .error (.fatal n e) := by
  cases e
  case reverted reason => exact absurd rfl (other reason)
  all_goals rfl

/-- Whether the executor looks the call up after the loop: after every failure but a
rejection and a read-only client's. -/
def looksUp : Except ExecutionError (α × Nat) → Bool
  | .ok _ => false
  | .error failure => failure.needsLookup

theorem looksUp_iff (r : Except ExecutionError (α × Nat)) :
    looksUp r = true ↔ (∃ k e, r = .error (.exhausted k e)) ∨
      ∃ k e, e ≠ .readOnly ∧ r = .error (.fatal k e) := by
  rcases r with failure | done
  · cases failure with
    | rejected reason => simp [looksUp, ExecutionError.needsLookup, ExecutionError.attempts?]
    | exhausted k e =>
        simp [looksUp, ExecutionError.needsLookup, ExecutionError.attempts?,
          ExecutionError.isReadOnly]
    | fatal k e =>
        cases e <;> simp [looksUp, ExecutionError.needsLookup, ExecutionError.attempts?,
          ExecutionError.isReadOnly]
  · simp [looksUp]

/-- An action that takes its outcomes from a script: it starts the next attempt and
answers with that attempt's outcome. -/
def scripted (o : Nat → Except LedgerError α) : StateM Watch (Except LedgerError α) :=
  modifyGet fun w => (o (w.made + 1), w.begin .attempt)

/-- An action that, from any watch, makes the next attempt: it answers with that attempt's
outcome in `o` and is seen as that attempt's entry in `shows`. -/
def Attempts (act : StateM Watch (Except LedgerError α)) (o : Nat → Except LedgerError α)
    (shows : Nat → List Sighting) : Prop :=
  ∀ w : Watch, act.run w = (o (w.made + 1), ⟨w.made + 1, w.seen ++ shows (w.made + 1)⟩)

theorem scripted_attempts (o : Nat → Except LedgerError α) :
    Attempts (scripted o) o fun _ => [.attempt] :=
  fun _ => rfl

/-- A loop that started at attempt `k` under a policy of `m` attempts stops on attempt `n`:
every attempt before `n` failed in a way a retry may mend, and attempt `n` stops the loop
or is the last one allowed, at least `k`. -/
structure StopsAt (m : Nat) (o : Nat → Except LedgerError α) (k n : Nat) : Prop where
  started : k ≤ n
  allowed : n ≤ max m k
  retried : ∀ i, k ≤ i → i < n → stops (o i) = false
  stopped : stops (o n) = true ∨ n = max m k

/-- What is seen after attempt `i` of a loop that stops on attempt `n`: nothing after the
last; after every other, the policy's pause, then a session reset if the attempt lost the
account's slot to contention. -/
def pauseAfter (p : RetryPolicy) (o : Nat → Except LedgerError α) (n i : Nat) :
    List Sighting :=
  if i < n then .sleep (p.backoffAfter i) :: (if contends (o i) then [.chainId] else []) else []

/-- What a loop that makes attempts `k` to `n` is seen to do: each attempt as `shows` has
it, followed by what comes after it. -/
def schedule (p : RetryPolicy) (o : Nat → Except LedgerError α) (shows : Nat → List Sighting)
    (k n : Nat) : List Sighting :=
  (List.range' k (n + 1 - k)).flatMap fun i => shows i ++ pauseAfter p o n i

variable {p : RetryPolicy} {o : Nat → Except LedgerError α} {shows : Nat → List Sighting}

theorem schedule_self (k : Nat) : schedule p o shows k k = shows k := by
  simp [schedule, pauseAfter]

theorem schedule_step {k n : Nat} (before : k < n) :
    schedule p o shows k n = shows k ++ pauseAfter p o n k ++ schedule p o shows (k + 1) n := by
  have length : n + 1 - k = (n + 1 - (k + 1)) + 1 := by omega
  rw [schedule, length, List.range'_succ, List.flatMap_cons, schedule]

variable (x : Sighting)

theorem count_pauseAfter (notPause : ∀ ms, Sighting.sleep ms ≠ x)
    (notReset : Sighting.chainId ≠ x) (n i : Nat) : (pauseAfter p o n i).count x = 0 := by
  unfold pauseAfter
  split_ifs <;> simp [notPause, notReset]

/-- A schedule shows an entry that is no pause and no reset as often per attempt as each
attempt shows it. The induction is on the attempts after the first. -/
theorem count_schedule {c : Nat} (each : ∀ i, (shows i).count x = c)
    (notPause : ∀ ms, Sighting.sleep ms ≠ x) (notReset : Sighting.chainId ≠ x) :
    ∀ d k, (schedule p o shows k (d + k)).count x = (d + 1) * c := by
  intro d
  induction d with
  | zero =>
      intro k
      rw [Nat.zero_add, schedule_self, each, Nat.zero_add, Nat.one_mul]
  | succ d ih =>
      intro k
      rw [schedule_step (by omega : k < d + 1 + k), List.count_append, List.count_append, each,
        count_pauseAfter x notPause notReset, show d + 1 + k = d + (k + 1) by omega, ih]
      ring

/-- The pauses of a schedule whose attempts show none are the policy's backoffs after every
attempt but the last, in order. -/
theorem pauses_schedule (quiet : ∀ i, (shows i).filterMap Sighting.pause? = []) :
    ∀ d k, (schedule p o shows k (d + k)).filterMap Sighting.pause? =
      (List.range' k d).map p.backoffAfter := by
  intro d
  induction d with
  | zero =>
      intro k
      rw [Nat.zero_add, schedule_self, quiet]
      rfl
  | succ d ih =>
      intro k
      have pause : (pauseAfter p o (d + 1 + k) k).filterMap Sighting.pause? =
          [p.backoffAfter k] := by
        unfold pauseAfter
        rw [if_pos (by omega)]
        split <;> rfl
      rw [schedule_step (by omega : k < d + 1 + k), List.filterMap_append,
        List.filterMap_append, quiet, pause, show d + 1 + k = d + (k + 1) by omega, ih,
        List.range'_succ]
      rfl

end Retry

open Retry

namespace Executor

variable {α : Type} (tape : Tape) (ex : Executor) (operation : String)
  {act : StateM Watch (Except LedgerError α)} {o : Nat → Except LedgerError α}
  {shows : Nat → List Sighting}

/-- An attempt whose outcome stops the loop, or the last one the policy allows, ends the
loop with the verdict of its outcome. -/
theorem tryOnce_ends (attempts : Attempts act o shows) {k : Nat}
    (retry : LedgerError → StateM Watch (Except ExecutionError (α × Nat))) {w : Watch}
    (start : w.made + 1 = k) (ends : stops (o k) = true ∨ ex.policy.isFinal k = true) :
    (tryOnce tape.effects ex operation act k retry).run w =
      (verdict k (o k), ⟨k, w.seen ++ shows k⟩) := by
  subst start
  unfold tryOnce
  rw [Watch.run_bind_of (Tape.record_run _), Watch.run_bind_of (attempts w)]
  split
  · next v outcome => rw [outcome]; rfl
  · next reason outcome => rw [outcome]; rfl
  · next e other outcome =>
      rw [outcome] at ends ⊢
      rw [verdict_error other]
      by_cases retryable : e.isRetryable = true
      · -- a transient failure ends the loop only as the last attempt allowed
        have final : ex.policy.isFinal (w.made + 1) = true := by
          simpa [stops, retryable] using ends
        simp [retryable, final]
        rfl
      · simp [retryable]
        rfl

/-- An attempt that failed in a way a retry may mend, before the last one allowed, hands its
error to the retry. -/
theorem tryOnce_retries (attempts : Attempts act o shows) {k : Nat}
    (retry : LedgerError → StateM Watch (Except ExecutionError (α × Nat))) {w : Watch}
    (start : w.made + 1 = k) (mendable : stops (o k) = false)
    (more : ex.policy.isFinal k = false) :
    ∃ e, o k = .error e ∧ (tryOnce tape.effects ex operation act k retry).run w =
      (retry e).run ⟨k, w.seen ++ shows k⟩ := by
  subst start
  unfold tryOnce
  rw [Watch.run_bind_of (Tape.record_run _), Watch.run_bind_of (attempts w)]
  split
  · next v outcome => simp [outcome, stops] at mendable
  · next reason outcome => simp [outcome, stops, LedgerError.isRetryable] at mendable
  · next e other outcome =>
      have retryable : e.isRetryable = true := by simpa [outcome, stops] using mendable
      refine ⟨e, outcome, ?_⟩
      simp [retryable, more]

/-- The pause and the reset between two attempts, then the rest of the loop. -/
theorem retry_run (fuel k : Nat) (e : LedgerError) (w : Watch) :
    (do
        tape.effects.record (.retry operation e.code)
        tape.effects.sleep (ex.policy.backoffAfter k)
        if e.isPriceContention then resetSession tape.effects
        retryLoop tape.effects ex operation act fuel (k + 1)).run w =
      (retryLoop tape.effects ex operation act fuel (k + 1)).run
        ⟨w.made, w.seen ++ .sleep (ex.policy.backoffAfter k) ::
          (if e.isPriceContention then [.chainId] else [])⟩ := by
  rw [Watch.run_bind_of (Tape.record_run _), Watch.run_bind_of (Tape.sleep_run _)]
  by_cases contended : e.isPriceContention = true
  · rw [if_pos contended, Watch.run_bind_of Tape.resetSession_run]
    simp [Watch.note, contended]
  · rw [if_neg contended]
    simp [Watch.note, contended]

/-- The retry loop from attempt `k`, with enough retries left, makes attempts `k` to the
attempt it stops on, pausing and resetting between them as the schedule says, and answers
with the verdict of the last one. The induction is on the retries left. -/
theorem retryLoop_run (attempts : Attempts act o shows) :
    ∀ (fuel k : Nat) (w : Watch), w.made + 1 = k → ex.policy.maxAttempts < k + fuel →
      ∃ n, StopsAt ex.policy.maxAttempts o k n ∧
        (retryLoop tape.effects ex operation act fuel k).run w =
          (verdict n (o n), ⟨n, w.seen ++ schedule ex.policy o shows k n⟩) := by
  intro fuel
  induction fuel with
  | zero =>
      intro k w start enough
      -- with no retries left the policy allows no attempt after this one
      have final : ex.policy.isFinal k = true := by
        simp only [RetryPolicy.isFinal, decide_eq_true_eq]
        omega
      refine ⟨k, ⟨le_refl k, le_max_right _ _, fun i low high => absurd high (by omega),
        .inr (by simp [RetryPolicy.isFinal] at final; omega)⟩, ?_⟩
      rw [retryLoop, tryOnce_ends tape ex operation attempts _ start (.inr final), schedule_self]
  | succ fuel ih =>
      intro k w start enough
      by_cases ends : stops (o k) = true ∨ ex.policy.isFinal k = true
      · -- the loop stops on this attempt
        refine ⟨k, ⟨le_refl k, le_max_right _ _, fun i low high => absurd high (by omega), ?_⟩, ?_⟩
        · rcases ends with stopped | final
          · exact .inl stopped
          · simp only [RetryPolicy.isFinal, decide_eq_true_eq] at final
            exact .inr (by omega)
        · rw [retryLoop, tryOnce_ends tape ex operation attempts _ start ends, schedule_self]
      · -- the attempt failed transiently before the last one allowed: pause and go on
        simp only [not_or, Bool.not_eq_true] at ends
        obtain ⟨mendable, more⟩ := ends
        have below : k < ex.policy.maxAttempts := by
          simp only [RetryPolicy.isFinal, decide_eq_false_iff_not] at more
          omega
        obtain ⟨e, failed, ran⟩ := tryOnce_retries tape ex operation attempts
          (fun e => do
            tape.effects.record (.retry operation e.code)
            tape.effects.sleep (ex.policy.backoffAfter k)
            if e.isPriceContention then resetSession tape.effects
            retryLoop tape.effects ex operation act fuel (k + 1)) start mendable more
        obtain ⟨n, stopsAt, rest⟩ := ih (k + 1) ⟨k, w.seen ++ shows k ++
          .sleep (ex.policy.backoffAfter k) :: (if e.isPriceContention then [.chainId] else [])⟩
          rfl (by omega)
        have later : k < n := Nat.lt_of_lt_of_le (Nat.lt_succ_self k) stopsAt.started
        have limit : max ex.policy.maxAttempts (k + 1) = max ex.policy.maxAttempts k := by
          omega
        refine ⟨n, ⟨Nat.le_of_lt later, limit ▸ stopsAt.allowed, fun i low high => ?_,
          limit ▸ stopsAt.stopped⟩, ?_⟩
        · rcases Nat.eq_or_lt_of_le low with rfl | after
          · exact mendable
          · exact stopsAt.retried i after high
        · rw [retryLoop, ran, retry_run, rest, schedule_step later]
          simp [pauseAfter, later, contends, failed]

/-- The whole retry loop, from a watch on which no attempt was made. -/
theorem withRetry_run (attempts : Attempts act o shows) (w : Watch) (fresh : w.made = 0) :
    ∃ n, StopsAt ex.policy.maxAttempts o 1 n ∧
      (withRetry tape.effects ex operation act).run w =
        (verdict n (o n), ⟨n, w.seen ++ schedule ex.policy o shows 1 n⟩) :=
  retryLoop_run tape ex operation attempts _ 1 w (by omega) (by omega)

/-- On the submit path an attempt is a submit and, if it went through, a wait. -/
theorem attempt_attempts (sub : Submission) :
    Attempts (attempt tape.effects ex sub) tape.submitted tape.submitSeen := by
  intro w
  unfold attempt
  rw [Watch.run_bind_of (rfl : (tape.effects.ledger.submit sub).run w =
    (tape.submit (w.made + 1), w.begin .submit))]
  cases submitted : tape.submit (w.made + 1) with
  | error e =>
      simp [Tape.submitted, Tape.submitSeen, submitted, Watch.begin]
      rfl
  | ok pending =>
      rw [Watch.run_bind_of (rfl : (tape.effects.ledger.waitFor pending.tx ex.confirmations).run
        (w.begin .submit) = (tape.waitFor (w.made + 1), (w.begin .submit).note .waitFor))]
      cases waited : tape.waitFor (w.made + 1) with
      | error e =>
          simp [Tape.submitted, Tape.submitSeen, submitted, waited, Watch.begin, Watch.note]
          rfl
      | ok receipt =>
          cases reverted : receipt.revertReason? <;>
            simp [Tape.submitted, Tape.submitSeen, submitted, waited, reverted, Watch.begin,
              Watch.note] <;> rfl

/-- Resolving the loop's outcome looks the call up once when the loop gave up on a failure
that needs it, and not otherwise. -/
theorem resolve_seen (op : OperationId) (outcome : Except ExecutionError (Receipt × Nat))
    (w : Watch) :
    ((resolve tape.effects op outcome).run w).2 =
      if looksUp outcome then w.note .findReceipt else w := by
  cases outcome with
  | ok done => rfl
  | error failure =>
      by_cases needed : failure.needsLookup = true
      · simp only [resolve, looksUp, needed, if_true]
        unfold reconcile
        rw [Watch.run_bind_of (rfl : (tape.effects.ledger.findReceipt op).run w =
          (tape.findReceipt, w.note .findReceipt))]
        cases tape.findReceipt with
        | error e => rfl
        | ok found =>
            cases found with
            | none => rfl
            | some receipt =>
                dsimp only
                split <;> rfl
      · simp only [resolve, looksUp, needed, Bool.false_eq_true, if_false]
        rfl

theorem report_run (op : String) (result : Except ExecutionError Executed) (w : Watch) :
    (report tape.effects op result).run w = ((), w) := by
  unfold report
  split <;> rfl

/-- The submit path: the attempts of the retry loop, each a submit and maybe a wait, with
their pauses and resets, then one lookup exactly when the loop's verdict calls for it. -/
theorem submit_seen (sub : Submission) (w : Watch) (fresh : w.made = 0) :
    ∃ n, StopsAt ex.policy.maxAttempts tape.submitted 1 n ∧
      ((submit tape.effects ex sub).run w).2.seen = w.seen ++
        schedule ex.policy tape.submitted tape.submitSeen 1 n ++
          if looksUp (verdict n (tape.submitted n)) then [.findReceipt] else [] := by
  obtain ⟨n, stopsAt, ran⟩ := withRetry_run tape ex sub.call.name (attempt_attempts tape ex sub)
    w fresh
  refine ⟨n, stopsAt, ?_⟩
  unfold submit
  rw [Watch.run_bind_of ran, Watch.run_bind, Watch.run_bind_of (report_run tape _ _ _),
    Watch.run_bind_of (Tape.record_run _)]
  show ((resolve tape.effects sub.operationId _).run _).2.seen = _
  rw [resolve_seen]
  split <;> simp [Watch.note]

end Executor


/-- The retry loop, for every policy (one of no attempts making one), every outcome of its
attempts and every answer to a session reset, stops on attempt `n`: the first that
succeeds, is reverted or fails in a way no retry mends, or else the last the policy allows.
It answers with the value and `n`, the rejection, or the failure of attempt `n` as final or
as exhausted. It makes `n` attempts; it pauses after attempts `1` to `n - 1`, each for the
policy's backoff after it, and never after the last; and right after the pause that follows
an attempt that lost the account's slot to contention it resets the session, once. On the
submit path the call is submitted once per attempt and looked up at most once: exactly when
the attempts ran out, or a failure no retry mends came from other than a read-only client. -/
theorem retry_schedule_exact (ex : Executor) (tape : Tape) (operation : String) {α : Type}
    (o : Nat → Except LedgerError α) (sub : Submission) :
    (∃ n, StopsAt ex.policy.maxAttempts o 1 n ∧
      (Executor.withRetry tape.effects ex operation (scripted o)).run ⟨0, []⟩ =
        (verdict n (o n), ⟨n, schedule ex.policy o (fun _ => [.attempt]) 1 n⟩) ∧
      (schedule ex.policy o (fun _ => [.attempt]) 1 n).count .attempt = n ∧
      (schedule ex.policy o (fun _ => [.attempt]) 1 n).filterMap Sighting.pause? =
        (List.range' 1 (n - 1)).map ex.policy.backoffAfter) ∧
    (∃ n, StopsAt ex.policy.maxAttempts tape.submitted 1 n ∧
      let seen := ((Executor.submit tape.effects ex sub).run ⟨0, []⟩).2.seen
      seen.count .submit = n ∧ seen.count .findReceipt ≤ 1 ∧
      (seen.count .findReceipt = 1 ↔
        (∃ k e, verdict n (tape.submitted n) = .error (.exhausted k e)) ∨
          ∃ k e, e ≠ .readOnly ∧ verdict n (tape.submitted n) = .error (.fatal k e))) := by
  refine ⟨?_, ?_⟩
  · obtain ⟨n, stopsAt, ran⟩ :=
      Executor.withRetry_run tape ex operation (scripted_attempts o) ⟨0, []⟩ rfl
    -- the loop makes at least one attempt, so `n` is one more than the attempts retried
    obtain ⟨d, rfl⟩ : ∃ d, n = d + 1 := ⟨n - 1, by have := stopsAt.started; omega⟩
    have once : ∀ _ : Nat, [Sighting.attempt].count .attempt = 1 := fun _ => rfl
    refine ⟨d + 1, stopsAt, ran, ?_, ?_⟩
    · rw [count_schedule .attempt once (fun _ => by simp) (by simp) d 1, Nat.mul_one]
    · rw [pauses_schedule (fun _ => rfl) d 1, Nat.add_sub_cancel]
  · obtain ⟨n, stopsAt, trace⟩ := Executor.submit_seen tape ex sub ⟨0, []⟩ rfl
    obtain ⟨d, rfl⟩ : ∃ d, n = d + 1 := ⟨n - 1, by have := stopsAt.started; omega⟩
    have submits : (schedule ex.policy tape.submitted tape.submitSeen 1 (d + 1)).count .submit =
        (d + 1) * 1 :=
      count_schedule .submit tape.submitSeen_count_submit (fun _ => by simp) (by simp) d 1
    have lookups :
        (schedule ex.policy tape.submitted tape.submitSeen 1 (d + 1)).count .findReceipt =
          (d + 1) * 0 :=
      count_schedule .findReceipt tape.submitSeen_count_findReceipt (fun _ => by simp)
        (by simp) d 1
    refine ⟨d + 1, stopsAt, ?_⟩
    rw [← looksUp_iff]
    simp only [trace, List.nil_append, List.count_append, submits, lookups, Nat.mul_one,
      Nat.mul_zero, Nat.zero_add]
    -- the lookup, if any, is the one entry after the schedule
    split
    · next looked => simp [looked]
    · next unlooked => simp [unlooked]

end TicketMarket
