/-! # Retry policy

A policy counts attempts, not retries: three attempts are one try and at most two
retries. The pause after attempt `n` is `initial * factor ^ (n - 1)` milliseconds, worked
out in binary floating point and capped at the maximum; no pause follows the last
attempt. The power is taken by repeated squaring, the way compiled code raises a float to
an integer power, so that the rounding of every step is the one a caller observes. A
factor below zero makes the pauses alternate between zero and a positive delay, and a
delay that overflows or reaches the cap is the cap. -/
set_option autoImplicit false
namespace TicketMarket

/-- How often to try and how long to pause between tries. -/
structure RetryPolicy where
  maxAttempts : Nat
  initialBackoffMs : Nat
  maxBackoffMs : Nat
  factor : Float

/-- The settings a policy is built from; a missing one takes the standard value. -/
structure RetrySettings where
  maxAttempts : Option Nat := none
  initialBackoffMs : Option Nat := none
  maxBackoffMs : Option Nat := none
  factor : Option Float := none

namespace RetryPolicy

/-- Three attempts, pausing one second and doubling up to ten seconds. -/
def standard : RetryPolicy := ⟨3, 1000, 10000, 2.0⟩

/-- A policy from settings; at least one attempt is always made. -/
def build (s : RetrySettings) : RetryPolicy :=
  ⟨max 1 (s.maxAttempts.getD standard.maxAttempts),
   s.initialBackoffMs.getD standard.initialBackoffMs,
   s.maxBackoffMs.getD standard.maxBackoffMs,
   s.factor.getD standard.factor⟩

/-- `a ^ b` by repeated squaring: multiply the result by `a` on every odd bit, square `a`
while bits remain. -/
def powi (a : Float) (b : Nat) : Float := go a b 1
where
  /-- Fold the bits of `b` from the lowest. -/
  go (a : Float) (b : Nat) (r : Float) : Float :=
    let r := if b % 2 == 1 then r * a else r
    if h : b / 2 = 0 then r else go (a * a) (b / 2) r
  termination_by b
  decreasing_by omega

/-- The largest exponent the power is ever taken to. -/
def exponentLimit : Nat := 2147483647

/-- The pause in milliseconds after attempt `attempt` failed. -/
def backoffAfter (p : RetryPolicy) (attempt : Nat) : Nat :=
  let exponent := min (attempt - 1) exponentLimit
  let delay := Float.ofNat p.initialBackoffMs * powi p.factor exponent
  if !delay.isFinite || delay ≥ Float.ofNat p.maxBackoffMs then p.maxBackoffMs
  else (max delay 0.0).toUInt64.toNat

/-- Whether attempt `attempt` is the last one allowed. -/
def isFinal (p : RetryPolicy) (attempt : Nat) : Bool := attempt ≥ p.maxAttempts

theorem build_maxAttempts_pos (s : RetrySettings) : 0 < (build s).maxAttempts := by
  simp only [build]
  omega

end RetryPolicy

end TicketMarket
