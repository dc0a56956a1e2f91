import TicketMarket.Random.ChaCha
import TicketMarket.Value.Address
import TicketMarket.Text.Hex

/-! # Where a ledger's transaction hashes come from

A ledger in memory names its transactions by hashes drawn from a ChaCha12 keystream whose
key is seeded from one number: each hash is the next 32 bytes of the keystream, read as a
big-endian number, so the first two hashes are the two halves of block 0, the next two
of block 1, and so on. The same seed always gives the same hashes. -/
set_option autoImplicit false
namespace TicketMarket

/-- The seed a ledger starts with unless it is given another: the bytes of "ticket". -/
def defaultHashSeed : Nat := 0x7469636b6574

/-- A keystream of hashes: its key and how many hashes have been drawn from it. -/
structure HashSource where
  key : List UInt32
  drawn : Nat

namespace HashSource

/-- The hashes seeded by `seed`, none drawn yet. -/
def seeded (seed : Nat) : HashSource := ⟨ChaCha.seedKey seed.toUInt64, 0⟩

/-- The next hash and the source after it. -/
def next (h : HashSource) : TxHash × HashSource :=
  let words := ChaCha.block 6 h.key (h.drawn / 2)
  let half := (words.drop (8 * (h.drawn % 2))).take 8
  (⟨Hex.valueOf (half.flatMap ChaCha.wordBytes)⟩, { h with drawn := h.drawn + 1 })

/-- The hash one past the largest of `taken`: none of them, and never zero. -/
def pastAll (taken : List TxHash) : TxHash := ⟨(taken.map (·.val)).foldr max 0 + 1⟩

/-- The next hash that is neither zero nor in `taken`, drawing at most `tries` times.
Should every draw be refused, which a keystream of 256-bit hashes does not do, the answer
is `pastAll taken`, so it is fresh all the same. -/
def nextFresh (taken : List TxHash) : Nat → HashSource → TxHash × HashSource
  | 0, h => (pastAll taken, h)
  | tries + 1, h =>
    let (hash, h') := h.next
    if hash.val == 0 || taken.contains hash then nextFresh taken tries h' else (hash, h')

theorem lt_pastAll (taken : List TxHash) : ∀ x ∈ taken, x.val < (pastAll taken).val := by
  induction taken with
  | nil => simp
  | cons y ys ih =>
      intro x mem
      have below : ∀ x ∈ ys, x.val < (ys.map (·.val)).foldr max 0 + 1 := ih
      simp only [pastAll, List.map_cons, List.foldr_cons]
      rcases List.mem_cons.mp mem with rfl | later
      · omega
      · have := below x later
        omega

/-- A drawn hash is never zero and never one already taken. -/
theorem nextFresh_fresh (taken : List TxHash) (tries : Nat) (h : HashSource) :
    (nextFresh taken tries h).1 ∉ taken ∧ (nextFresh taken tries h).1.val ≠ 0 := by
  induction tries generalizing h with
  | zero =>
      refine ⟨fun mem => ?_, by simp [nextFresh, pastAll]⟩
      have := lt_pastAll taken _ mem
      simp [nextFresh] at this
  | succ tries ih =>
      simp only [nextFresh]
      by_cases refused : ((h.next.1.val == 0 || taken.contains h.next.1) = true)
      · rw [if_pos refused]
        exact ih _
      · rw [if_neg refused]
        simp only [Bool.or_eq_true, beq_iff_eq, List.contains_iff_mem, not_or] at refused
        exact ⟨refused.2, refused.1⟩

end HashSource

end TicketMarket
