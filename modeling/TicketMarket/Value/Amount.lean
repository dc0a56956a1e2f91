import TicketMarket.Text.Integer

/-! # Amounts and rates

`Wei` is an amount of the ledger's native currency: a whole number below `2 ^ 128`.
Adding saturates at the largest amount and subtracting at zero; the checked forms refuse
instead. `Bps` is a rate in basis points, a whole number below `2 ^ 16`, where 10000 is
the whole. `Bps.shareOf` takes a rate's share of an amount, rounding down, in a way that
cannot overflow before it saturates: the amount is split into whole ten-thousands and a
rest, and each part is scaled on its own. -/
set_option autoImplicit false
namespace TicketMarket

/-- One more than the largest amount, `2 ^ 128`. -/
def weiLimit : Nat := 340282366920938463463374607431768211456

/-- An amount of the native currency, below `2 ^ 128`. -/
structure Wei where
  val : Nat
  lt : val < weiLimit
  deriving DecidableEq

instance : Repr Wei := ⟨fun w _ => repr w.val⟩

namespace Wei

/-- No currency. -/
def zero : Wei := ⟨0, by decide⟩

instance : Inhabited Wei := ⟨zero⟩

/-- The largest amount. -/
def max : Wei := ⟨weiLimit - 1, by decide⟩

/-- An amount from a number, saturating at the largest amount. -/
def clamp (n : Nat) : Wei :=
  if h : n < weiLimit then ⟨n, h⟩ else max

/-- Whether the amount is nothing. -/
def isZero (a : Wei) : Bool := a.val == 0

/-- The sum, saturating at the largest amount. -/
def satAdd (a b : Wei) : Wei := clamp (a.val + b.val)

/-- The difference, saturating at zero. -/
def satSub (a b : Wei) : Wei := ⟨a.val - b.val, Nat.lt_of_le_of_lt (Nat.sub_le _ _) a.lt⟩

/-- The sum, if it is an amount. -/
def checkedAdd (a b : Wei) : Option Wei :=
  if h : a.val + b.val < weiLimit then some ⟨a.val + b.val, h⟩ else none

/-- The difference, if it is not negative. -/
def checkedSub (a b : Wei) : Option Wei :=
  if b.val ≤ a.val then some (satSub a b) else none

/-- The amount followed by the unit, `110 wei`. -/
def display (a : Wei) : String := toString a.val ++ " wei"

/-- An amount written in decimal. -/
def parse (text : String) : Except Integer.ReadError Wei :=
  (Integer.readDecimal (weiLimit - 1) text).map clamp

/-- The saturating sum of a list of amounts. -/
def total (xs : List Wei) : Wei := xs.foldl satAdd zero

@[simp] theorem clamp_val_of_lt {n : Nat} (h : n < weiLimit) : (clamp n).val = n := by
  simp [clamp, h]

theorem satAdd_val (a b : Wei) :
    (satAdd a b).val = min (a.val + b.val) (weiLimit - 1) := by
  unfold satAdd clamp
  split
  · next h => simp only [weiLimit] at h ⊢; omega
  · next h => simp only [max, weiLimit] at h ⊢; omega

@[simp] theorem satSub_val (a b : Wei) : (satSub a b).val = a.val - b.val := rfl

end Wei

/-- A rate in basis points, below `2 ^ 16`; 10000 is the whole. -/
structure Bps where
  val : Nat
  lt : val < 65536
  deriving DecidableEq

instance : Repr Bps := ⟨fun b _ => repr b.val⟩

namespace Bps

/-- The rate from a number below `2 ^ 16`. -/
def ofNat? (n : Nat) : Option Bps := if h : n < 65536 then some ⟨n, h⟩ else none

/-- The rate `n`, for a literal below `2 ^ 16`. -/
def lit (n : Nat) (h : n < 65536 := by decide) : Bps := ⟨n, h⟩

instance : Inhabited Bps := ⟨lit 0⟩

/-- The whole, 10000 basis points. -/
def full : Bps := lit 10000

/-- The rate followed by the unit, `250 bps`. -/
def display (b : Bps) : String := toString b.val ++ " bps"

/-- The rate's share of an amount, rounded down and saturating: whole ten-thousands and
the rest are scaled apart. -/
def shareOf (b : Bps) (a : Wei) : Wei :=
  Wei.clamp (a.val / 10000 * b.val + a.val % 10000 * b.val / 10000)

end Bps

end TicketMarket
