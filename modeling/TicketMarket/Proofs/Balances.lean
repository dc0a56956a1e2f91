import Mathlib
import TicketMarket.Proofs.Run

/-! # Exact balances and exact shares

A credit saturates at the largest amount and a debit at zero. `heldTotal` is the exact sum
of every balance, with no saturation. While that sum leaves room below `2 ^ 128` a credit
is exact: it adds its amount to its account and to the total (`credit_balance`,
`credit_heldTotal`, and `creditAll_balance`, `creditAll_heldTotal` for a list of
payouts). A debit is exact when the account holds at least the amount (`debit_balance`,
`debit_heldTotal`).

A rate's share of an amount is the floor of `amount * rate / 10000`, saturated at the
largest amount, for every rate (`Bps.shareOf_val_eq_min`), and exactly that floor whenever
the rate is at most the whole (`Bps.shareOf_val`). A resale cap is the saturated floor of
the issue price scaled by the whole plus the markup (`Event.resaleCap_val`), and a price
split by a royalty and a fee that together stay within the whole leaves the seller exactly
the rest (`splitPrice_exact`); `settlement_arithmetic_exact` gathers the three. -/
set_option autoImplicit false
namespace TicketMarket

/-- The exact sum of every balance held on the ledger. -/
def SettlementState.heldTotal (s : SettlementState) : Nat := (s.balances.map (·.2.val)).sum

namespace Assoc

variable {κ : Type} [DecidableEq κ]

/-- Storing an amount under a key replaces the amount found under it, so the sum moves by
the difference; both sides are written as sums to avoid a truncated subtraction. -/
theorem sum_insert (k : κ) (v : Wei) (m : List (κ × Wei)) :
    ((insert k v m).map (·.2.val)).sum + ((lookup k m).getD Wei.zero).val =
      (m.map (·.2.val)).sum + v.val := by
  induction m with
  | nil => simp [insert, lookup, Wei.zero]
  | cons p rest ih =>
      obtain ⟨j, w⟩ := p
      by_cases same : j = k
      · simp only [insert, lookup, same, if_true, List.map_cons, List.sum_cons,
          Option.getD_some]
        omega
      · simp only [insert, lookup, same, if_false, List.map_cons, List.sum_cons]
        omega

theorem lookup_le_sum (k : κ) (m : List (κ × Wei)) :
    ((lookup k m).getD Wei.zero).val ≤ (m.map (·.2.val)).sum := by
  induction m with
  | nil => simp [lookup, Wei.zero]
  | cons p rest ih =>
      obtain ⟨j, w⟩ := p
      by_cases same : j = k
      · simp [lookup, same]
      · simp only [lookup, same, if_false, List.map_cons, List.sum_cons]
        omega

end Assoc

namespace SettlementState

variable (s : SettlementState)

theorem balance_le_heldTotal (a : Address) : (s.balance a).val ≤ s.heldTotal :=
  Assoc.lookup_le_sum a s.balances

theorem balance_insert (a : Address) (v : Wei) (b : Address) :
    ({ s with balances := Assoc.insert a v s.balances } : SettlementState).balance b =
      if a = b then v else s.balance b := by
  simp only [balance, Assoc.lookup_insert]
  split <;> rfl

theorem heldTotal_insert (a : Address) (v : Wei) :
    ({ s with balances := Assoc.insert a v s.balances } : SettlementState).heldTotal +
      (s.balance a).val = s.heldTotal + v.val :=
  Assoc.sum_insert a v s.balances

/-- While the total leaves room for it, adding to an account does not saturate. -/
theorem satAdd_balance {a : Address} {w : Wei} (room : s.heldTotal + w.val < weiLimit) :
    ((s.balance a).satAdd w).val = (s.balance a).val + w.val := by
  have held := s.balance_le_heldTotal a
  rw [Wei.satAdd_val]
  simp only [weiLimit] at room ⊢
  omega

theorem credit_balance {a : Address} {w : Wei} (room : s.heldTotal + w.val < weiLimit)
    (b : Address) :
    ((s.credit a w).balance b).val = (s.balance b).val + if b = a then w.val else 0 := by
  unfold credit
  by_cases zero : w.isZero
  · have nothing : w.val = 0 := by simpa [Wei.isZero] using zero
    simp [zero, nothing]
  · rw [if_neg zero, balance_insert]
    by_cases same : b = a
    · subst same
      rw [if_pos rfl, if_pos rfl, s.satAdd_balance room]
    · simp [same, Ne.symm same]

theorem credit_heldTotal {a : Address} {w : Wei} (room : s.heldTotal + w.val < weiLimit) :
    (s.credit a w).heldTotal = s.heldTotal + w.val := by
  unfold credit
  by_cases zero : w.isZero
  · have nothing : w.val = 0 := by simpa [Wei.isZero] using zero
    simp [zero, nothing]
  · rw [if_neg zero]
    have moved := s.heldTotal_insert a ((s.balance a).satAdd w)
    rw [s.satAdd_balance room] at moved
    omega

theorem debit_balance (a : Address) (w : Wei) (b : Address) :
    ((s.debit a w).balance b).val = (s.balance b).val - if b = a then w.val else 0 := by
  rw [debit, balance_insert]
  by_cases same : b = a
  · subst same
    simp
  · simp [same, Ne.symm same]

theorem debit_heldTotal {a : Address} {w : Wei} (covered : w.val ≤ (s.balance a).val) :
    (s.debit a w).heldTotal + w.val = s.heldTotal := by
  have moved := s.heldTotal_insert a ((s.balance a).satSub w)
  rw [Wei.satSub_val] at moved
  rw [debit]
  omega

/-- A credit, saturating or not, never lowers a balance. -/
theorem credit_balance_ge (a : Address) (w : Wei) (b : Address) :
    (s.balance b).val ≤ ((s.credit a w).balance b).val := by
  unfold credit
  split
  · exact le_rfl
  · rw [balance_insert]
    split
    · next same =>
        subst same
        have below := (s.balance a).lt
        rw [Wei.satAdd_val]
        simp only [weiLimit] at below ⊢
        omega
    · exact le_rfl

theorem creditAll_balance_ge (ps : List (Address × Wei × PaymentReason)) (b : Address) :
    (s.balance b).val ≤ ((s.creditAll ps).balance b).val := by
  induction ps generalizing s with
  | nil => exact le_rfl
  | cons p rest ih =>
      exact le_trans (s.credit_balance_ge p.1 p.2.1 b) (ih (s.credit p.1 p.2.1))

/-- Crediting a list of payouts while the total stays below `2 ^ 128` adds to each account
exactly what the list pays it. -/
theorem creditAll_balance (ps : List (Address × Wei × PaymentReason))
    (room : s.heldTotal + (ps.map (·.2.1.val)).sum < weiLimit) (b : Address) :
    ((s.creditAll ps).balance b).val =
      (s.balance b).val + (ps.map fun p => if b = p.1 then p.2.1.val else 0).sum := by
  induction ps generalizing s with
  | nil => simp [creditAll]
  | cons p rest ih =>
      simp only [List.map_cons, List.sum_cons] at room ⊢
      have first : s.heldTotal + p.2.1.val < weiLimit := by omega
      have later := ih (s.credit p.1 p.2.1)
        (by rw [s.credit_heldTotal first]; omega)
      simp only [creditAll, List.foldl_cons] at later ⊢
      rw [later, s.credit_balance first]
      omega

theorem creditAll_heldTotal (ps : List (Address × Wei × PaymentReason))
    (room : s.heldTotal + (ps.map (·.2.1.val)).sum < weiLimit) :
    (s.creditAll ps).heldTotal = s.heldTotal + (ps.map (·.2.1.val)).sum := by
  induction ps generalizing s with
  | nil => simp [creditAll]
  | cons p rest ih =>
      simp only [List.map_cons, List.sum_cons] at room ⊢
      have first : s.heldTotal + p.2.1.val < weiLimit := by omega
      have later := ih (s.credit p.1 p.2.1)
        (by rw [s.credit_heldTotal first]; omega)
      simp only [creditAll, List.foldl_cons] at later ⊢
      rw [later, s.credit_heldTotal first]
      omega

end SettlementState

theorem Wei.clamp_val (n : Nat) : (clamp n).val = min n (weiLimit - 1) := by
  unfold clamp
  split
  · next fits => simp only [weiLimit] at fits ⊢; omega
  · next large => simp only [max, weiLimit] at large ⊢; omega

/-- Scaling the whole ten-thousands and the rest of an amount apart loses nothing: the two
parts add up to the floor of the whole product. -/
theorem Bps.scaled_parts (a b : Nat) :
    a / 10000 * b + a % 10000 * b / 10000 = a * b / 10000 :=
  calc a / 10000 * b + a % 10000 * b / 10000
      = (a % 10000 * b + a / 10000 * b * 10000) / 10000 := by
        rw [Nat.add_mul_div_right _ _ (by decide : 0 < 10000), Nat.add_comm]
    _ = a * b / 10000 := by
        congr 1
        conv_rhs => rw [← Nat.div_add_mod a 10000]
        ring

/-- Every rate, up to the largest a `Bps` holds, takes the floor of its share, saturated at
the largest amount. -/
theorem Bps.shareOf_val_eq_min (b : Bps) (a : Wei) :
    (b.shareOf a).val = min (a.val * b.val / 10000) (weiLimit - 1) := by
  rw [Bps.shareOf, scaled_parts, Wei.clamp_val]

/-- A rate of at most the whole takes exactly the floor of its share, and the share never
exceeds the amount. -/
theorem Bps.shareOf_val (b : Bps) (a : Wei) (whole : b.val ≤ 10000) :
    (b.shareOf a).val = a.val * b.val / 10000 := by
  have within : a.val * b.val / 10000 ≤ a.val :=
    Nat.div_le_of_le_mul (by rw [Nat.mul_comm 10000]; exact Nat.mul_le_mul_left _ whole)
  have fits := a.lt
  rw [b.shareOf_val_eq_min a]
  omega

/-- Split by a royalty and a fee that together stay within the whole, a price gives each
cut its exact floor and the seller exactly the rest. -/
theorem splitPrice_exact (price : Wei) (royalty fee : Bps)
    (within : royalty.val + fee.val ≤ 10000) :
    (splitPrice price royalty fee).1.val = price.val * royalty.val / 10000 ∧
    (splitPrice price royalty fee).2.1.val = price.val * fee.val / 10000 ∧
    (splitPrice price royalty fee).2.2.val =
      price.val - (splitPrice price royalty fee).1.val - (splitPrice price royalty fee).2.1.val ∧
    (splitPrice price royalty fee).1.val + (splitPrice price royalty fee).2.1.val +
      (splitPrice price royalty fee).2.2.val = price.val := by
  have cut := royalty.shareOf_val price (by omega)
  have platformCut := fee.shareOf_val price (by omega)
  -- the two floors together are at most the floor of the sum, which is at most the price
  have fits : price.val * royalty.val / 10000 + price.val * fee.val / 10000 ≤ price.val :=
    calc price.val * royalty.val / 10000 + price.val * fee.val / 10000
        ≤ (price.val * royalty.val + price.val * fee.val) / 10000 :=
          Nat.div_add_div_le_add_div
      _ = price.val * (royalty.val + fee.val) / 10000 := by rw [Nat.mul_add]
      _ ≤ price.val :=
          Nat.div_le_of_le_mul (by rw [Nat.mul_comm 10000]; exact Nat.mul_le_mul_left _ within)
  refine ⟨cut, platformCut, rfl, ?_⟩
  simp only [splitPrice, Wei.satSub_val, cut, platformCut]
  omega

/-- The resale cap is the floor of the issue price scaled by the whole plus the markup,
saturated at the largest amount. -/
theorem Event.resaleCap_val (e : Event) :
    e.resaleCap.val =
      min (e.issuePrice.val * (10000 + e.markup.val) / 10000) (weiLimit - 1) := by
  have expand : e.issuePrice.val * (10000 + e.markup.val) / 10000 =
      e.issuePrice.val + e.issuePrice.val * e.markup.val / 10000 := by
    rw [Nat.mul_add, Nat.add_comm, Nat.add_mul_div_right _ _ (by decide : 0 < 10000),
      Nat.add_comm]
  rw [Event.resaleCap, Wei.satAdd_val, Bps.shareOf_val_eq_min, expand]
  omega

theorem Event.issuePrice_le_resaleCap (e : Event) : e.issuePrice.val ≤ e.resaleCap.val := by
  have fits := e.issuePrice.lt
  rw [e.resaleCap_val]
  have grows : e.issuePrice.val ≤ e.issuePrice.val * (10000 + e.markup.val) / 10000 :=
    (Nat.le_div_iff_mul_le (by decide)).mpr (Nat.mul_le_mul_left _ (Nat.le_add_right _ _))
  simp only [weiLimit] at fits ⊢
  omega

/-- Settlement arithmetic is exact floor arithmetic: a rate's share is the floor of the
scaled amount, saturated at the largest amount, for every rate a `Bps` holds, and at most
the amount for a rate within the whole; a resale cap is the saturated floor of the issue
price scaled up by the markup, never below the issue price; and a price split by a royalty
and a fee within the whole gives the two shares and exactly the rest, adding up to the
price. -/
theorem settlement_arithmetic_exact :
    (∀ (b : Bps) (a : Wei), (b.shareOf a).val = min (a.val * b.val / 10000) (weiLimit - 1) ∧
      (b.val ≤ 10000 → (b.shareOf a).val ≤ a.val)) ∧
    (∀ e : Event, e.resaleCap.val =
        min (e.issuePrice.val * (10000 + e.markup.val) / 10000) (weiLimit - 1) ∧
      e.issuePrice.val ≤ e.resaleCap.val) ∧
    ∀ (price : Wei) (royalty fee : Bps), royalty.val + fee.val ≤ 10000 →
      (splitPrice price royalty fee).1 = royalty.shareOf price ∧
      (splitPrice price royalty fee).2.1 = fee.shareOf price ∧
      (splitPrice price royalty fee).2.2.val =
        price.val - (royalty.shareOf price).val - (fee.shareOf price).val ∧
      (royalty.shareOf price).val + (fee.shareOf price).val +
        (splitPrice price royalty fee).2.2.val = price.val := by
  refine ⟨fun b a => ⟨b.shareOf_val_eq_min a, fun whole => ?_⟩,
    fun e => ⟨e.resaleCap_val, e.issuePrice_le_resaleCap⟩,
    fun price royalty fee within => ?_⟩
  · rw [b.shareOf_val a whole]
    exact Nat.div_le_of_le_mul (by rw [Nat.mul_comm 10000]; exact Nat.mul_le_mul_left _ whole)
  · obtain ⟨-, -, rest, total⟩ := splitPrice_exact price royalty fee within
    exact ⟨rfl, rfl, rest, total⟩

/-- A royalty of 10% and a fee of 5% split a price of 1000001 into 100000, 50000 and the
rest, 850001. -/
theorem royalty_and_fee_split_exactly :
    (Bps.lit 1000).val + (Bps.lit 500).val ≤ 10000 ∧
      ((Bps.lit 1000).shareOf ⟨1000001, by decide⟩).val = 100000 ∧
      ((Bps.lit 500).shareOf ⟨1000001, by decide⟩).val = 50000 ∧
      (splitPrice ⟨1000001, by decide⟩ (Bps.lit 1000) (Bps.lit 500)).2.2.val = 850001 := by
  obtain ⟨shares, -, split⟩ := settlement_arithmetic_exact
  have within : (Bps.lit 1000).val + (Bps.lit 500).val ≤ 10000 := by decide
  obtain ⟨-, -, rest, -⟩ := split ⟨1000001, by decide⟩ (Bps.lit 1000) (Bps.lit 500) within
  have royalty := (shares (Bps.lit 1000) ⟨1000001, by decide⟩).1
  have fee := (shares (Bps.lit 500) ⟨1000001, by decide⟩).1
  simp only [Bps.lit, weiLimit] at royalty fee rest
  refine ⟨within, ?_, ?_, ?_⟩ <;> simp only [Bps.lit] <;> omega

end TicketMarket
