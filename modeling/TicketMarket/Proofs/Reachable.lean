import Mathlib
import TicketMarket.Proofs.Steps
import TicketMarket.Proofs.Atomicity

/-! # The states a deployment can reach

A ledger deployed with genesis parameters `g` starts at `SettlementState.genesis g` and then
takes calls from anyone, at any time, each accepted or refused, and credits from outside
(`SettlementState.fund`). `Reachable g` is that set of states. Since a refused call leaves
the state as it was, a property that holds at deployment and survives every accepted call
and every credit holds everywhere (`Reachable.induction`). -/
set_option autoImplicit false
namespace TicketMarket

/-- The states a ledger deployed with `g` can be in after any run of calls, accepted or
refused, and of credits from outside. -/
inductive Reachable (g : Genesis) : SettlementState → Prop where
  | genesis : Reachable g (SettlementState.genesis g)
  | call {s : SettlementState} (call : LedgerCall) (ctx : CallContext) :
      Reachable g s → Reachable g (s.run call ctx).2
  | fund {s : SettlementState} (account : Address) (amount : Wei) :
      Reachable g s → Reachable g (s.fund account amount)

namespace Reachable

variable {g : Genesis}

/-- A call either is refused and leaves the state, or passed validation and its handler
ran to completion. -/
theorem run_cases (s : SettlementState) (call : LedgerCall) (ctx : CallContext) :
    (s.run call ctx).2 = s ∨ ∃ a, validateCall call = .ok () ∧
      Reduce.exec (Reducer.dispatch call ctx) s = (.ok a, (s.run call ctx).2) := by
  rcases verdict : s.run call ctx with ⟨_ | a, s'⟩
  · exact .inl (Reduce.exec_refused_of_triple (Reducer.reduce_refusal_keeps_state s call ctx)
      verdict)
  · right
    refine ⟨a, ?_⟩
    have accepted : Reduce.exec (Reducer.reduce call ctx) s = (.ok a, s') := verdict
    rw [Reducer.reduce_exec] at accepted
    cases valid : validateCall call with
    | error e => simp [valid] at accepted
    | ok u => simpa [valid] using accepted

/-- What holds at deployment and is kept by every accepted call and every credit holds in
every reachable state. -/
theorem induction {P : SettlementState → Prop} (start : P (SettlementState.genesis g))
    (accepted : ∀ (s s' : SettlementState) (call : LedgerCall) (ctx : CallContext)
      (a : Applied), Reachable g s → P s → validateCall call = .ok () →
      Reduce.exec (Reducer.dispatch call ctx) s = (.ok a, s') → P s')
    (funded : ∀ (s : SettlementState) (account : Address) (amount : Wei),
      Reachable g s → P s → P (s.fund account amount))
    {s : SettlementState} (reach : Reachable g s) : P s := by
  induction reach with
  | genesis => exact start
  | @call s call ctx reach holds =>
      rcases run_cases s call ctx with unchanged | ⟨a, valid, ran⟩
      · rw [unchanged]
        exact holds
      · exact accepted s _ call ctx a reach holds valid ran
  | @fund s account amount reach holds => exact funded s account amount reach holds

end Reachable

end TicketMarket
