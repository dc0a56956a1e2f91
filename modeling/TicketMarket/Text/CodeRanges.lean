/-! # Sets of code points as ranges

A class of characters written as a list of closed ranges of code points, as the Unicode
Character Database lists its properties. `contains_iff` says what membership means. -/
set_option autoImplicit false
namespace TicketMarket
namespace CodeRanges

/-- Whether `n` lies in one of the closed ranges. -/
def contains : List (Nat × Nat) → Nat → Bool
  | [], _ => false
  | (lo, hi) :: rest, n => (lo ≤ n && n ≤ hi) || contains rest n

theorem contains_iff (rs : List (Nat × Nat)) (n : Nat) :
    contains rs n = true ↔ ∃ r ∈ rs, r.1 ≤ n ∧ n ≤ r.2 := by
  induction rs with
  | nil => simp [contains]
  | cons r rest ih =>
    obtain ⟨lo, hi⟩ := r
    simp [contains, ih]

end CodeRanges
end TicketMarket
