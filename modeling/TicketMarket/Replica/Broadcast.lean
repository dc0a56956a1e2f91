import TicketMarket.Fact

/-! # Broadcast of transition facts

A broadcast channel hands every fact to every subscriber. It keeps only the newest facts,
as many as its buffer holds: the capacity asked for, rounded up to a power of two (and at
least one). A subscriber that falls further behind than that does not block the sender;
its next receive reports how many facts it missed and moves it to the oldest fact still
kept. Sending with no subscriber at all fails, as nobody would ever see the fact. -/
set_option autoImplicit false
namespace TicketMarket

/-- What one receive of a subscriber gives. -/
inductive Received where
  | fact (f : TransitionFact)
  | lagged (missed : Nat)
  deriving DecidableEq, Repr

/-- A broadcast channel: its buffer length, everything sent, and each subscriber's next
position. -/
structure Broadcast where
  slots : Nat
  sent : Array TransitionFact
  cursors : List Nat
  deriving Repr

namespace Broadcast

/-- The least power of two that is at least `n`. -/
def nextPowerOfTwo (n : Nat) : Nat := go n 1 n
where
  /-- Double `p` until it reaches `n`, at most `fuel` times. -/
  go (n p : Nat) : Nat → Nat
    | 0 => p
    | fuel + 1 => if p ≥ n then p else go n (2 * p) fuel

/-- A channel with room for `capacity` facts (at least one) and `subscribers` subscribers,
all starting at the beginning. -/
def create (capacity subscribers : Nat) : Broadcast :=
  ⟨nextPowerOfTwo (Nat.max 1 capacity), #[], List.replicate subscribers 0⟩

/-- Send a fact to every subscriber. -/
def publish (b : Broadcast) (f : TransitionFact) : Except ReplicaError Unit × Broadcast :=
  if b.cursors.isEmpty then (.error (.unavailable "no mirror subscribers"), b)
  else (.ok (), { b with sent := b.sent.push f })

/-- One receive at position `pos`: the result, if any, and the next position. -/
def receiveAt (b : Broadcast) (pos : Nat) : Option Received × Nat :=
  let tail := b.sent.size
  if pos ≥ tail then (none, pos)
  else if tail - pos > b.slots then
    let oldest := tail - b.slots
    (some (.lagged (oldest - pos)), oldest)
  else
    match b.sent[pos]? with
    | some f => (some (.fact f), pos + 1)
    | none => (none, pos)

/-- Everything a subscriber at `pos` can receive now, and where it ends up. -/
def drainFrom (b : Broadcast) : Nat → Nat → List Received × Nat
  | 0, pos => ([], pos)
  | fuel + 1, pos =>
    match b.receiveAt pos with
    | (none, pos') => ([], pos')
    | (some r, pos') =>
      let (rest, final) := b.drainFrom fuel pos'
      (r :: rest, final)

/-- Let every subscriber receive everything it can: what each received, in subscriber
order. -/
def drainAll (b : Broadcast) : List (List Received) × Broadcast :=
  let results := b.cursors.map fun pos => b.drainFrom (b.sent.size + 2) pos
  (results.map (·.1), { b with cursors := results.map (·.2) })

end Broadcast

end TicketMarket
