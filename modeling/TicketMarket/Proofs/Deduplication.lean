import Mathlib
import TicketMarket.Proofs.History
import TicketMarket.Ledger.Memory

/-! # A ledger in memory settles each operation once

A ledger in memory is sent `LedgerRequest`s: submissions, each under an operation id, and
credits from outside. Only the first submission of an operation id is settled; the ledger
remembers the transaction it mined for it, and every later submission of that id, whatever
its caller or call, is answered from that transaction's receipt (`Receipt.answer`) and
changes nothing.

A ledger is `Consistent` when every operation id it has mined points at a receipt of that
transaction for that operation, the ids are distinct, and there is one block for each. Each
request keeps a ledger consistent, and leaves every operation it had mined pointing at the
same receipt (`Extends`), because a first submission is mined under a hash no receipt has.
`operations_settled_once` puts it together for every sequence of requests to a fresh
ledger: the state is the one the rules reach from the first submissions alone
(`LedgerRequest.firstSteps`), there is one block for each distinct operation id, a receipt
is found exactly for the ids submitted, and it records the first submission's verdict. -/
set_option autoImplicit false
namespace TicketMarket

/-- One request to a ledger in memory: a submission, or a credit from outside. -/
inductive LedgerRequest where
  | submit (sub : Submission)
  | fund (account : Address) (amount : Wei)

namespace LedgerRequest

/-- The operation id a request carries, if it is a submission. -/
def operation? : LedgerRequest → Option OperationId
  | .submit sub => some sub.operationId
  | .fund _ _ => none

/-- The operation ids of a sequence of requests, in order, repeats included. -/
def operations (reqs : List LedgerRequest) : List OperationId := reqs.filterMap operation?

/-- The run of the settlement rules a sequence of requests stands for when only the first
submission of each operation id counts: a first submission is its call, made by its
sender at the time `clock` reads for its block, a credit stays a credit, and `seen` holds
the ids already submitted, one block each. -/
def firstSteps (clock : Nat → Instant) : List OperationId → List LedgerRequest → List LedgerStep
  | _, [] => []
  | seen, .submit sub :: rest =>
    if sub.operationId ∈ seen then firstSteps clock seen rest
    else .call sub.call ⟨sub.sender, clock seen.length⟩ ::
      firstSteps clock (seen ++ [sub.operationId]) rest
  | seen, .fund account amount :: rest => .fund account amount :: firstSteps clock seen rest

@[simp] theorem operations_nil : operations [] = [] := rfl

@[simp] theorem operations_submit (sub : Submission) (rest : List LedgerRequest) :
    operations (.submit sub :: rest) = sub.operationId :: operations rest := rfl

@[simp] theorem operations_fund (account : Address) (amount : Wei) (rest : List LedgerRequest) :
    operations (.fund account amount :: rest) = operations rest := rfl

end LedgerRequest

/-- What a submission is answered from a mined receipt: the rejection, if the call was
reverted, else the pending transaction. -/
def Receipt.answer (r : Receipt) : Except LedgerError PendingTx :=
  match r.revertReason? with
  | some reason => .error (.reverted reason)
  | none => .ok ⟨r.tx, r.operationId⟩

/-- A receipt records a verdict of the rules: success with the call's output and logs, or
the rejection with an empty output and no logs. -/
def Receipt.Records (r : Receipt) : Except Rejection Applied → Prop
  | .ok a => r.status = .success ∧ r.output = a.output ∧ r.logs = a.logs
  | .error e => r.status = .reverted e ∧ r.output = .empty ∧ r.logs = []

namespace MemoryLedger

/-- The ledger after one request. -/
def serve (l : MemoryLedger) : LedgerRequest → MemoryLedger
  | .submit sub => (l.submit sub).2
  | .fund account amount => l.fund account amount

/-- The ledger after a sequence of requests. -/
def serveAll (l : MemoryLedger) (reqs : List LedgerRequest) : MemoryLedger := reqs.foldl serve l

/-- The operation ids a ledger has mined, in the order it first saw them. -/
def operations (l : MemoryLedger) : List OperationId := l.byOperation.map (·.1)

@[simp] theorem serveAll_nil (l : MemoryLedger) : l.serveAll [] = l := rfl

@[simp] theorem serveAll_cons (l : MemoryLedger) (req : LedgerRequest)
    (rest : List LedgerRequest) : l.serveAll (req :: rest) = (l.serve req).serveAll rest := rfl

theorem serveAll_append (l : MemoryLedger) (reqs more : List LedgerRequest) :
    l.serveAll (reqs ++ more) = (l.serveAll reqs).serveAll more :=
  List.foldl_append

variable {l : MemoryLedger} {sub : Submission}

/-! ## One submission -/

theorem lookup_of_mem {op : OperationId} (seen : op ∈ l.operations) :
    ∃ tx, Assoc.lookup op l.byOperation = some tx :=
  Option.ne_none_iff_exists'.mp (mt (Assoc.lookup_eq_none_iff _ _).mp (not_not.mpr seen))

/-- A submission under an id already mined changes nothing. -/
theorem submit_of_mem (seen : sub.operationId ∈ l.operations) : (l.submit sub).2 = l := by
  obtain ⟨tx, found⟩ := lookup_of_mem seen
  simp only [submit, found]
  cases (l.receipt? tx).bind Receipt.revertReason? <;> rfl

/-- A submission under an id already mined is answered from its receipt. -/
theorem submit_of_receipt {tx : TxHash} {r : Receipt}
    (found : Assoc.lookup sub.operationId l.byOperation = some tx)
    (receipt : l.receipt? tx = some r) (mined : r.tx = tx) (own : r.operationId = sub.operationId) :
    l.submit sub = (r.answer, l) := by
  simp only [submit, found, receipt, Option.bind_some, Receipt.answer]
  cases r.revertReason? with
  | some reason => rfl
  | none => rw [mined, own]

/-- A first submission is settled by the rules and mined, one block higher, under a hash no
receipt has; its receipt records the verdict and it is answered from that receipt. -/
theorem submit_of_not_mem (unseen : sub.operationId ∉ l.operations) :
    ∃ r : Receipt, l.receipt? r.tx = none ∧ r.operationId = sub.operationId ∧
      r.blockNumber = l.blockNumber + 1 ∧ r.timestamp = l.now ∧
      r.Records (l.state.run sub.call ⟨sub.sender, l.now⟩).1 ∧
      l.submit sub = (r.answer, { l with
        state := (l.state.run sub.call ⟨sub.sender, l.now⟩).2,
        hashes := (HashSource.nextFresh (l.receipts.map (·.1)) (l.receipts.length + 2) l.hashes).2,
        blockNumber := l.blockNumber + 1,
        byOperation := l.byOperation ++ [(sub.operationId, r.tx)],
        receipts := l.receipts ++ [(r.tx, r)] }) := by
  have absent := (Assoc.lookup_eq_none_iff _ _).mpr unseen
  obtain ⟨fresh, -⟩ :=
    HashSource.nextFresh_fresh (l.receipts.map (·.1)) (l.receipts.length + 2) l.hashes
  have unmined : l.receipt? (HashSource.nextFresh (l.receipts.map (·.1))
      (l.receipts.length + 2) l.hashes).1 = none := (Assoc.lookup_eq_none_iff _ _).mpr fresh
  -- the two writes are appends: neither key is present yet
  simp only [submit, absent]
  rcases verdict : l.state.run sub.call ⟨sub.sender, l.now⟩ with ⟨e | a, st⟩
  · refine ⟨⟨_, sub.operationId, l.blockNumber + 1, .reverted e, .empty, [], l.now⟩, unmined,
      rfl, rfl, rfl, ⟨rfl, rfl, rfl⟩, ?_⟩
    rw [Assoc.insert_of_lookup_eq_none absent, Assoc.insert_of_lookup_eq_none unmined]
    rfl
  · refine ⟨⟨_, sub.operationId, l.blockNumber + 1, .success, a.output, a.logs, l.now⟩, unmined,
      rfl, rfl, rfl, ⟨rfl, rfl, rfl⟩, ?_⟩
    rw [Assoc.insert_of_lookup_eq_none absent, Assoc.insert_of_lookup_eq_none unmined]
    rfl

theorem clock_serve (l : MemoryLedger) (req : LedgerRequest) : (l.serve req).clock = l.clock := by
  cases req with
  | fund account amount => rfl
  | submit sub =>
      by_cases seen : sub.operationId ∈ l.operations
      · rw [serve, submit_of_mem seen]
      · obtain ⟨r, -, -, -, -, -, submitted⟩ := submit_of_not_mem seen
        rw [serve, submitted]

theorem clock_serveAll (l : MemoryLedger) (reqs : List LedgerRequest) :
    (l.serveAll reqs).clock = l.clock := by
  induction reqs generalizing l with
  | nil => rfl
  | cons req rest ih => rw [serveAll_cons, ih, clock_serve]

theorem mem_operations_serve (l : MemoryLedger) (req : LedgerRequest) (op : OperationId) :
    op ∈ (l.serve req).operations ↔ op ∈ l.operations ∨ op ∈ LedgerRequest.operations [req] := by
  cases req with
  | fund account amount => simp [serve, fund, operations]
  | submit sub =>
      by_cases seen : sub.operationId ∈ l.operations
      · rw [serve, submit_of_mem seen]
        simp only [LedgerRequest.operations_submit, LedgerRequest.operations_nil,
          List.mem_singleton]
        constructor
        · exact .inl
        · rintro (mem | rfl)
          · exact mem
          · exact seen
      · obtain ⟨r, -, -, -, -, -, submitted⟩ := submit_of_not_mem seen
        rw [serve, submitted]
        simp [operations]

theorem mem_operations_serveAll (l : MemoryLedger) (reqs : List LedgerRequest) (op : OperationId) :
    op ∈ (l.serveAll reqs).operations ↔ op ∈ l.operations ∨ op ∈ LedgerRequest.operations reqs := by
  induction reqs generalizing l with
  | nil => simp
  | cons req rest ih =>
      have split : LedgerRequest.operations (req :: rest) =
          LedgerRequest.operations [req] ++ LedgerRequest.operations rest := by
        show LedgerRequest.operations ([req] ++ rest) = _
        exact List.filterMap_append
      rw [serveAll_cons, ih, mem_operations_serve, split, List.mem_append, or_assoc]

/-! ## Consistent ledgers -/

/-- Every operation id a ledger has mined points at a receipt of that transaction for that
operation, and every receipt is the one its operation id points at; the ids are distinct,
and there is one block for each. -/
structure Consistent (l : MemoryLedger) : Prop where
  linked : ∀ op tx, Assoc.lookup op l.byOperation = some tx →
    ∃ r, l.receipt? tx = some r ∧ r.tx = tx ∧ r.operationId = op
  owned : ∀ tx r, l.receipt? tx = some r → Assoc.lookup r.operationId l.byOperation = some tx
  distinct : l.operations.Nodup
  blocks : l.blockNumber = l.operations.length

/-- A later ledger maps every operation id an earlier one mined to the same transaction, and
keeps that transaction's receipt. -/
def Extends (l l' : MemoryLedger) : Prop :=
  ∀ op tx, Assoc.lookup op l.byOperation = some tx →
    Assoc.lookup op l'.byOperation = some tx ∧ l'.receipt? tx = l.receipt? tx

theorem Extends.refl (l : MemoryLedger) : Extends l l := fun _ _ found => ⟨found, rfl⟩

theorem Extends.trans {l l' l'' : MemoryLedger} (first : Extends l l') (second : Extends l' l'') :
    Extends l l'' := by
  intro op tx found
  obtain ⟨found', receipt'⟩ := first op tx found
  obtain ⟨found'', receipt''⟩ := second op tx found'
  exact ⟨found'', receipt''.trans receipt'⟩

namespace Consistent

theorem fresh (st : SettlementState) (chainId : Nat) (clock : Nat → Instant) (hashes : HashSource) :
    Consistent ⟨st, chainId, clock, hashes, 0, [], []⟩ where
  linked := by simp
  owned := by simp [receipt?]
  distinct := List.nodup_nil
  blocks := rfl

/-- A first submission keeps a ledger consistent and everything it had mined: its hash is
one no receipt has, and its id one no entry has. -/
theorem submit_of_not_mem (cons : Consistent l) (unseen : sub.operationId ∉ l.operations) :
    Consistent (l.submit sub).2 ∧ Extends l (l.submit sub).2 := by
  obtain ⟨r, unmined, own, -, -, -, submitted⟩ := MemoryLedger.submit_of_not_mem unseen
  have absent := (Assoc.lookup_eq_none_iff _ _).mpr unseen
  have newOp := Assoc.lookup_append_of_lookup_eq_none absent r.tx
  have newTx := Assoc.lookup_append_of_lookup_eq_none unmined r
  -- a transaction that had a receipt is not the new one
  have old : ∀ tx r', l.receipt? tx = some r' → r.tx ≠ tx := by
    rintro tx r' found rfl
    rw [unmined] at found
    cases found
  rw [submitted]
  refine ⟨⟨fun op tx found => ?_, fun tx r' receipt => ?_, ?_, ?_⟩, fun op tx found => ?_⟩
  · simp only [newOp] at found
    by_cases mine : sub.operationId = op
    · rw [if_pos mine, Option.some.injEq] at found
      subst found
      exact ⟨r, by simp [receipt?, newTx], rfl, own.trans mine⟩
    · rw [if_neg mine] at found
      obtain ⟨r', receipt, mined, own'⟩ := cons.linked op tx found
      refine ⟨r', ?_, mined, own'⟩
      simp only [receipt?, newTx, if_neg (old tx r' receipt)]
      exact receipt
  · simp only [receipt?, newTx] at receipt
    by_cases mine : r.tx = tx
    · rw [if_pos mine, Option.some.injEq] at receipt
      subst receipt
      rw [newOp, if_pos own.symm, mine]
    · -- an old receipt's id was mined before, so it is not the new id
      rw [if_neg mine] at receipt
      have found := cons.owned tx r' receipt
      have other : sub.operationId ≠ r'.operationId := by
        intro same
        rw [← same, absent] at found
        cases found
      simp only [newOp, if_neg other]
      exact found
  · simp only [operations, List.map_append, List.map_cons, List.map_nil]
    exact List.nodup_append.mpr ⟨cons.distinct, List.nodup_singleton _,
      fun a mem b same => by rw [List.mem_singleton.mp same]; exact fun eq => unseen (eq ▸ mem)⟩
  · simp [operations, cons.blocks]
  · -- an id already mined is not the new one, and neither is its transaction
    have other : sub.operationId ≠ op := by
      rintro rfl
      rw [absent] at found
      cases found
    obtain ⟨r', receipt, -, -⟩ := cons.linked op tx found
    refine ⟨by simp only [newOp, if_neg other]; exact found, ?_⟩
    simp only [receipt?, newTx, if_neg (old tx r' receipt)]

theorem serve (cons : Consistent l) (req : LedgerRequest) :
    Consistent (l.serve req) ∧ Extends l (l.serve req) := by
  cases req with
  | fund account amount => exact ⟨⟨cons.linked, cons.owned, cons.distinct, cons.blocks⟩, .refl l⟩
  | submit sub =>
      by_cases seen : sub.operationId ∈ l.operations
      · rw [MemoryLedger.serve, submit_of_mem seen]
        exact ⟨cons, .refl l⟩
      · exact cons.submit_of_not_mem seen

/-- Every run of requests keeps a ledger consistent and everything it had mined. -/
theorem serveAll (cons : Consistent l) (reqs : List LedgerRequest) :
    Consistent (l.serveAll reqs) ∧ Extends l (l.serveAll reqs) := by
  induction reqs generalizing l with
  | nil => exact ⟨cons, .refl l⟩
  | cons req rest ih =>
      obtain ⟨cons₁, extends₁⟩ := cons.serve req
      obtain ⟨cons₂, extends₂⟩ := ih cons₁
      exact ⟨cons₂, extends₁.trans extends₂⟩

/-- The state after a run of requests is the one the settlement rules reach from the first
submission of each operation id the ledger has not yet mined, with the credits in between;
each is settled at the time the clock reads for its block, which is one past the ids
mined before it. -/
theorem state_serveAll (cons : Consistent l) (reqs : List LedgerRequest) :
    (l.serveAll reqs).state =
      l.state.replay (LedgerRequest.firstSteps l.clock l.operations reqs) := by
  induction reqs generalizing l with
  | nil => rfl
  | cons req rest ih =>
      have later := ih (cons.serve req).1
      cases req with
      | fund account amount =>
          rw [serveAll_cons, later]
          rfl
      | submit sub =>
          by_cases seen : sub.operationId ∈ l.operations
          · rw [serveAll_cons, later, MemoryLedger.serve, submit_of_mem seen,
              LedgerRequest.firstSteps, if_pos seen]
          · obtain ⟨r, -, -, -, -, -, submitted⟩ := MemoryLedger.submit_of_not_mem seen
            -- the block the call is mined in is one past the ids mined before
            have time : l.now = l.clock l.operations.length := by rw [now, cons.blocks]
            rw [serveAll_cons, later, MemoryLedger.serve, submitted, LedgerRequest.firstSteps,
              if_neg seen, time]
            simp only [operations, List.map_append, List.map_cons, List.map_nil]
            rfl

/-- A receipt is found for exactly the operation ids a consistent ledger has mined. -/
theorem findReceipt_eq_none_iff (cons : Consistent l) (op : OperationId) :
    l.findReceipt op = none ↔ op ∉ l.operations := by
  rw [operations, ← Assoc.lookup_eq_none_iff]
  cases found : Assoc.lookup op l.byOperation with
  | none => simp [findReceipt, found]
  | some tx =>
      obtain ⟨r, receipt, -, -⟩ := cons.linked op tx found
      simp [findReceipt, found, receipt]

/-- Every submission, first or not, is answered from the receipt then found for its id. -/
theorem submit_answer (cons : Consistent l) (sub : Submission) :
    ∃ r, (l.submit sub).1 = r.answer ∧ (l.submit sub).2.findReceipt sub.operationId = some r ∧
      (l.submit sub).2.receipt? r.tx = some r := by
  by_cases seen : sub.operationId ∈ l.operations
  · obtain ⟨tx, found⟩ := lookup_of_mem seen
    obtain ⟨r, receipt, mined, own⟩ := cons.linked _ tx found
    rw [submit_of_receipt found receipt mined own]
    exact ⟨r, rfl, by simp [findReceipt, found, receipt], mined ▸ receipt⟩
  · obtain ⟨r, unmined, -, -, -, -, submitted⟩ := MemoryLedger.submit_of_not_mem seen
    have absent := (Assoc.lookup_eq_none_iff _ _).mpr seen
    rw [submitted]
    refine ⟨r, rfl, ?_, ?_⟩
    · simp [findReceipt, receipt?, Assoc.lookup_append_of_lookup_eq_none absent,
        Assoc.lookup_append_of_lookup_eq_none unmined]
    · simp [receipt?, Assoc.lookup_append_of_lookup_eq_none unmined]

/-- Two receipts of one operation id are one transaction's. -/
theorem tx_eq_of_operationId (cons : Consistent l) {tx₁ tx₂ : TxHash} {r₁ r₂ : Receipt}
    (receipt₁ : l.receipt? tx₁ = some r₁) (receipt₂ : l.receipt? tx₂ = some r₂)
    (same : r₁.operationId = r₂.operationId) : tx₁ = tx₂ := by
  have found₁ := cons.owned tx₁ r₁ receipt₁
  have found₂ := cons.owned tx₂ r₂ receipt₂
  rw [same, found₂, Option.some.injEq] at found₁
  exact found₁.symm

/-- Once a consistent ledger finds a receipt for an operation id, it still finds it after
any further requests, and answers every submission of the id from it, changing nothing. -/
theorem answered_after (cons : Consistent l) {op : OperationId} {r : Receipt}
    (found : l.findReceipt op = some r) (reqs : List LedgerRequest) :
    (l.serveAll reqs).findReceipt op = some r ∧
      ∀ sub : Submission, sub.operationId = op →
        (l.serveAll reqs).submit sub = (r.answer, l.serveAll reqs) := by
  obtain ⟨tx, mapped, receipt⟩ := Option.bind_eq_some_iff.mp found
  obtain ⟨r', receipt', mined, own⟩ := cons.linked op tx mapped
  rw [receipt, Option.some.injEq] at receipt'
  subst receipt'
  -- the id keeps its transaction, and the transaction its receipt
  obtain ⟨mappedLater, receiptLater⟩ := (cons.serveAll reqs).2 op tx mapped
  refine ⟨by rw [findReceipt, mappedLater, Option.bind_some, receiptLater, receipt], ?_⟩
  intro sub same
  exact submit_of_receipt (same ▸ mappedLater) (receiptLater.trans receipt) mined
    (own.trans same.symm)

end Consistent

/-- A submission mines one block or none. -/
theorem blockNumber_submit (l : MemoryLedger) (sub : Submission) :
    (l.submit sub).2.blockNumber = l.blockNumber ∨
      (l.submit sub).2.blockNumber = l.blockNumber + 1 := by
  by_cases seen : sub.operationId ∈ l.operations
  · exact .inl (by rw [submit_of_mem seen])
  · obtain ⟨r, -, -, -, -, -, submitted⟩ := submit_of_not_mem seen
    exact .inr (by rw [submitted])

theorem mem_operations_submit (l : MemoryLedger) (sub : Submission) :
    sub.operationId ∈ (l.submit sub).2.operations :=
  (mem_operations_serve l (.submit sub) sub.operationId).mpr (.inr (List.mem_singleton_self _))

/-- What a run of requests makes of a fresh ledger: it stays consistent, keeps its clock,
settles the first submissions alone, and mines one block for each distinct operation id. -/
theorem fresh_serveAll (st : SettlementState) (chainId : Nat) (clock : Nat → Instant)
    (hashes : HashSource) (reqs : List LedgerRequest) :
    let l := (⟨st, chainId, clock, hashes, 0, [], []⟩ : MemoryLedger).serveAll reqs
    Consistent l ∧ l.clock = clock ∧
      l.state = st.replay (LedgerRequest.firstSteps clock [] reqs) ∧
      (∀ op, op ∈ l.operations ↔ op ∈ LedgerRequest.operations reqs) ∧
      l.blockNumber = (LedgerRequest.operations reqs).dedup.length := by
  intro l
  have fresh := Consistent.fresh st chainId clock hashes
  have cons := (fresh.serveAll reqs).1
  have mem : ∀ op, op ∈ l.operations ↔ op ∈ LedgerRequest.operations reqs := fun op =>
    (mem_operations_serveAll ⟨st, chainId, clock, hashes, 0, [], []⟩ reqs op).trans
      (by simp [operations])
  -- the mined ids are distinct and are the ids submitted, so they are as many as those
  have same : l.operations.Perm (LedgerRequest.operations reqs).dedup :=
    (List.perm_ext_iff_of_nodup cons.distinct (List.nodup_dedup _)).mpr
      fun op => by rw [List.mem_dedup, mem]
  exact ⟨cons, clock_serveAll _ reqs, fresh.state_serveAll reqs, mem,
    cons.blocks.trans same.length_eq⟩

end MemoryLedger

/-- A ledger in memory settles each operation id once. Sent any requests from fresh, it
reaches the state the settlement rules reach from the first submission of each id alone,
with the credits in between; it has mined one block for each distinct id; and a receipt is
found exactly for the ids submitted. The first submission of an id is mined one block past
the distinct ids before it, settled and stamped at the time the clock reads for that block,
and its receipt records the verdict of the rules; it is answered from that receipt, and so
is every later submission of the id, whatever its caller or call and whatever happened in
between, which changes nothing. -/
theorem operations_settled_once (st : SettlementState) (chainId : Nat) (clock : Nat → Instant)
    (hashes : HashSource) (reqs : List LedgerRequest) :
    let l₀ : MemoryLedger := ⟨st, chainId, clock, hashes, 0, [], []⟩
    (l₀.serveAll reqs).state = st.replay (LedgerRequest.firstSteps clock [] reqs) ∧
    (l₀.serveAll reqs).blockNumber = (LedgerRequest.operations reqs).dedup.length ∧
    (∀ op, (l₀.serveAll reqs).findReceipt op = none ↔ op ∉ LedgerRequest.operations reqs) ∧
    ∀ (before : List LedgerRequest) (first : Submission) (after : List LedgerRequest),
      first.operationId ∉ LedgerRequest.operations before →
      ∃ r : Receipt, ((l₀.serveAll before).submit first).1 = r.answer ∧
        r.operationId = first.operationId ∧
        r.blockNumber = (LedgerRequest.operations before).dedup.length + 1 ∧
        r.timestamp = clock (LedgerRequest.operations before).dedup.length ∧
        r.Records ((st.replay (LedgerRequest.firstSteps clock [] before)).run first.call
          ⟨first.sender, clock (LedgerRequest.operations before).dedup.length⟩).1 ∧
        let l := l₀.serveAll (before ++ .submit first :: after)
        l.findReceipt first.operationId = some r ∧
        ∀ sub : Submission, sub.operationId = first.operationId → l.submit sub = (r.answer, l) := by
  intro l₀
  obtain ⟨cons, -, state, mem, blocks⟩ := MemoryLedger.fresh_serveAll st chainId clock hashes reqs
  refine ⟨state, blocks, fun op => by rw [cons.findReceipt_eq_none_iff, mem], ?_⟩
  intro before first after unseen
  obtain ⟨cons₁, clock₁, state₁, mem₁, blocks₁⟩ :=
    MemoryLedger.fresh_serveAll st chainId clock hashes before
  have unseen₁ := mt (mem₁ _).mp unseen
  obtain ⟨r, unmined, own, block, time, records, submitted⟩ :=
    MemoryLedger.submit_of_not_mem unseen₁
  -- the receipt just mined is the one found under the id
  have found : ((l₀.serveAll before).submit first).2.findReceipt first.operationId = some r := by
    rw [submitted]
    simp [MemoryLedger.findReceipt, MemoryLedger.receipt?,
      Assoc.lookup_append_of_lookup_eq_none ((Assoc.lookup_eq_none_iff _ _).mpr unseen₁),
      Assoc.lookup_append_of_lookup_eq_none unmined]
  have later : l₀.serveAll (before ++ .submit first :: after) =
      ((l₀.serveAll before).submit first).2.serveAll after := by
    rw [MemoryLedger.serveAll_append, MemoryLedger.serveAll_cons]
    rfl
  -- the clock is read once for each distinct id before this one
  have now₁ : (l₀.serveAll before).now = clock (LedgerRequest.operations before).dedup.length := by
    rw [MemoryLedger.now, clock₁, blocks₁]
  rw [now₁, state₁] at records
  refine ⟨r, by rw [submitted], own, by rw [block, blocks₁], time.trans now₁, records, ?_⟩
  intro l
  have settled : l = ((l₀.serveAll before).submit first).2.serveAll after := later
  rw [settled]
  exact (cons₁.submit_of_not_mem unseen₁).1.answered_after found after

/-- On a clock that moves one second a block, the second operation submitted to a fresh
ledger is mined as block 2 at the clock's second reading, and is found under its id after
it is sent again. -/
theorem second_operation_mined_at_second_reading :
    let g : Genesis := ⟨⟨1⟩, ⟨7⟩, ⟨Bps.lit 250, ⟨6⟩⟩⟩
    let draft : EventDraft := ⟨⟨1⟩, 10, Bps.lit 500, Bps.lit 1000, ⟨3⟩, ⟨100, by decide⟩⟩
    let clock : Nat → Instant := fun n => ⟨20089, n, 0⟩
    let l₀ := MemoryLedger.create g clock
    let created : Submission := ⟨.fresh 0, ⟨2⟩, .createEvent draft⟩
    let minted : Submission := ⟨.fresh 1, ⟨2⟩, .mintTicket ⟨1⟩ ⟨4⟩ ⟨"A1"⟩ none⟩
    minted.operationId ∉ LedgerRequest.operations [.submit created] ∧
      ∃ r : Receipt, ((l₀.serveAll [.submit created]).submit minted).1 = r.answer ∧
        r.blockNumber = 2 ∧ r.timestamp = ⟨20089, 1, 0⟩ ∧
        (l₀.serveAll [.submit created, .submit minted, .submit minted]).findReceipt
          minted.operationId = some r := by
  intro g draft clock l₀ created minted
  have unseen : minted.operationId ∉ LedgerRequest.operations [.submit created] := by decide
  obtain ⟨-, -, -, once⟩ := operations_settled_once (SettlementState.genesis g) defaultChainId
    clock (HashSource.seeded defaultHashSeed) []
  obtain ⟨r, answer, -, block, time, -, found, -⟩ := once [.submit created] minted [.submit minted]
    unseen
  exact ⟨unseen, r, answer, by rw [block]; decide, by rw [time]; decide, found⟩

end TicketMarket
