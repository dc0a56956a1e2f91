import Mathlib
import TicketMarket.Proofs.Reachable

/-! # Runs of a deployed ledger

A run is a list of `LedgerStep`s: calls, each made by someone at some time, and credits
from outside. `SettlementState.replay` takes a state through a run, and
`SettlementState.acceptedCalls` lists the calls the run accepted, in order. A view of the
state that every accepted call extends by what the call adds, and that credits leave
alone, ends a run extended by what the accepted calls add (`view_replay`). A relation
that every step from a reachable state satisfies, and that composes, holds between a
reachable state and every later one (`Reachable.replay_rel`). -/
set_option autoImplicit false
namespace TicketMarket

/-- One thing that happens to a deployed ledger: a call, or a credit from outside. -/
inductive LedgerStep where
  | call (call : LedgerCall) (ctx : CallContext)
  | fund (account : Address) (amount : Wei)

namespace SettlementState

/-- The state after one step. -/
def advance (s : SettlementState) : LedgerStep → SettlementState
  | .call call ctx => (s.run call ctx).2
  | .fund account amount => s.fund account amount

/-- The state after a run. -/
def replay (s : SettlementState) (steps : List LedgerStep) : SettlementState :=
  steps.foldl advance s

/-- The calls a run accepted, in the order they were made. -/
def acceptedCalls : SettlementState → List LedgerStep → List LedgerCall
  | _, [] => []
  | s, .call call ctx :: rest =>
    match s.run call ctx with
    | (.ok _, s') => call :: s'.acceptedCalls rest
    | (.error _, s') => s'.acceptedCalls rest
  | s, .fund account amount :: rest => (s.fund account amount).acceptedCalls rest

@[simp] theorem replay_nil (s : SettlementState) : s.replay [] = s := rfl

@[simp] theorem replay_cons (s : SettlementState) (step : LedgerStep) (rest : List LedgerStep) :
    s.replay (step :: rest) = (s.advance step).replay rest := rfl

/-- A call is refused and leaves the state, or it passed validation and its handler ran to
completion. -/
theorem run_verdict (s : SettlementState) (call : LedgerCall) (ctx : CallContext) :
    (∃ e, s.run call ctx = (.error e, s)) ∨
      ∃ a s', s.run call ctx = (.ok a, s') ∧ validateCall call = .ok () ∧
        Reduce.exec (Reducer.dispatch call ctx) s = (.ok a, s') := by
  rcases verdict : s.run call ctx with ⟨_ | a, s'⟩
  · left
    have kept := Reduce.exec_refused_of_triple (Reducer.reduce_refusal_keeps_state s call ctx)
      verdict
    subst kept
    exact ⟨_, rfl⟩
  · right
    have accepted : Reduce.exec (Reducer.reduce call ctx) s = (.ok a, s') := verdict
    rw [Reducer.reduce_exec] at accepted
    cases valid : validateCall call with
    | error e => simp [valid] at accepted
    | ok u => exact ⟨a, s', rfl, rfl, by simpa [valid] using accepted⟩

/-- An accepted call ran its handler to completion. -/
theorem dispatch_of_run {s s' : SettlementState} {call : LedgerCall} {ctx : CallContext}
    {a : Applied} (accepted : s.run call ctx = (.ok a, s')) :
    Reduce.exec (Reducer.dispatch call ctx) s = (.ok a, s') := by
  rcases s.run_verdict call ctx with ⟨e, refused⟩ | ⟨a', s₁, accepted', -, ran⟩
  · rw [refused] at accepted
    cases accepted
  · rw [accepted', Prod.mk.injEq, Except.ok.injEq] at accepted
    obtain ⟨rfl, rfl⟩ := accepted
    exact ran

/-- A view of the state that each accepted call extends by what the call adds, and that
refused calls and credits leave alone, ends a run extended by what its accepted calls add,
in order. -/
theorem view_replay {X : Type} (view : SettlementState → List X) (add : LedgerCall → Option X)
    (dispatched : ∀ (s s' : SettlementState) (call : LedgerCall) (ctx : CallContext)
      (a : Applied), Reduce.exec (Reducer.dispatch call ctx) s = (.ok a, s') →
      view s' = view s ++ (add call).toList)
    (funded : ∀ (s : SettlementState) (account : Address) (amount : Wei),
      view (s.fund account amount) = view s)
    (s : SettlementState) (steps : List LedgerStep) :
    view (s.replay steps) = view s ++ (s.acceptedCalls steps).filterMap add := by
  induction steps generalizing s with
  | nil => simp [acceptedCalls]
  | cons step rest ih =>
      cases step with
      | call call ctx =>
          rcases s.run_verdict call ctx with ⟨e, refused⟩ | ⟨a, s', accepted, -, ran⟩
          · simp only [replay_cons, advance, acceptedCalls, refused]
            exact ih s
          · simp only [replay_cons, advance, acceptedCalls, accepted, ih s',
              dispatched s s' call ctx a ran, List.filterMap_cons]
            cases add call <;> simp
      | fund account amount =>
          simp only [replay_cons, advance, acceptedCalls, ih, funded]

end SettlementState

namespace Reachable

variable {g : Genesis} {s : SettlementState}

theorem advance (reach : Reachable g s) (step : LedgerStep) : Reachable g (s.advance step) := by
  cases step with
  | call call ctx => exact .call call ctx reach
  | fund account amount => exact .fund account amount reach

theorem of_run (reach : Reachable g s) {call : LedgerCall} {ctx : CallContext}
    {r : Except Rejection Applied} {s' : SettlementState} (ran : s.run call ctx = (r, s')) :
    Reachable g s' := by
  have stepped := Reachable.call call ctx reach
  rwa [ran] at stepped

theorem replay (reach : Reachable g s) (steps : List LedgerStep) : Reachable g (s.replay steps) := by
  induction steps generalizing s with
  | nil => exact reach
  | cons step rest ih => exact ih (reach.advance step)

/-- A relation that every step from a reachable state satisfies, and that composes, holds
between a reachable state and every state a run takes it to. -/
theorem replay_rel {R : SettlementState → SettlementState → Prop} (refl : ∀ s, R s s)
    (trans : ∀ {a b c : SettlementState}, R a b → R b c → R a c)
    (step : ∀ (s : SettlementState) (st : LedgerStep), Reachable g s → R s (s.advance st))
    (reach : Reachable g s) (more : List LedgerStep) : R s (s.replay more) := by
  induction more generalizing s with
  | nil => exact refl s
  | cons st rest ih => exact trans (step s st reach) (ih (reach.advance st))

end Reachable

end TicketMarket
