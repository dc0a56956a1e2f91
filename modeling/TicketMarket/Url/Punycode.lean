/-! # Punycode

Punycode writes a label of Unicode code points in the letters, digits and hyphen of
ASCII. The label's ASCII characters come first, followed by a hyphen if there are any;
then each other code point is inserted, in increasing order of code point, and every
insertion is written as one number, the distance it moves a counter that runs over
(code point, position) pairs. A number is written in base 36, least significant digit
first, with a threshold for each digit that tells whether more digits follow; the
thresholds come from a bias adapted after each insertion, so that labels of one script
stay short.

The decoder undoes this and fails on a digit that is not a letter or a digit, on a
number that ends too early, on a counter beyond 32 bits, and on a code point that is not
a character. Every loop here ends for a measured reason: the bias loop divides by 35,
the digit writer's number shrinks, and the readers consume their input. -/
set_option autoImplicit false
namespace TicketMarket
namespace Punycode

/-- The digit for a value below 36: `a` to `z`, then `0` to `9`. -/
def digitChar (d : Nat) : Char :=
  if d < 26 then Char.ofNat (97 + d) else Char.ofNat (22 + d)

/-- The value of a digit, letters of either case. -/
def digitValue (c : Char) : Option Nat :=
  if 'a' ≤ c && c ≤ 'z' then some (c.toNat - 97)
  else if 'A' ≤ c && c ≤ 'Z' then some (c.toNat - 65)
  else if c.isDigit then some (c.toNat - 22)
  else none

/-- The threshold of the digit at weight index `k` under `bias`: between 1 and 26. -/
def threshold (k bias : Nat) : Nat :=
  if k ≤ bias then 1 else if bias + 26 ≤ k then 26 else k - bias

theorem one_le_threshold (k bias : Nat) : 1 ≤ threshold k bias := by
  unfold threshold; split <;> (try split) <;> omega

theorem threshold_le (k bias : Nat) : threshold k bias ≤ 26 := by
  unfold threshold; split <;> (try split) <;> omega

/-- Divide `delta` by 35 until it is at most 455, counting 36 for each division. -/
def shrink (delta k : Nat) : Nat × Nat :=
  if 455 < delta then shrink (delta / 35) (k + 36) else (delta, k)
termination_by delta
decreasing_by omega

/-- The bias after an insertion that moved the counter by `delta`, with `points` code
points in the label so far; the first insertion is damped by 700, later ones by 2. -/
def adapt (delta points : Nat) (first : Bool) : Nat :=
  let delta := if first then delta / 700 else delta / 2
  let (delta, k) := shrink (delta + delta / points) 0
  k + 36 * delta / (delta + 38)

/-- The digits of `q`, starting at weight index `k`. -/
def digits (bias k q : Nat) : List Char :=
  let t := threshold k bias
  if q < t then [digitChar q]
  else digitChar (t + (q - t) % (36 - t)) :: digits bias (k + 36) ((q - t) / (36 - t))
termination_by q
decreasing_by
  have h1 := one_le_threshold k bias
  have h2 := threshold_le k bias
  have : (q - threshold k bias) / (36 - threshold k bias) ≤ q - threshold k bias :=
    Nat.div_le_self _ _
  omega

/-- What the encoder carries from one insertion to the next. -/
structure Encoder where
  out : List Char
  delta : Nat
  bias : Nat
  handled : Nat

/-- Pass over one character of the label while inserting code point `m`. -/
def Encoder.visit (basics m : Nat) (e : Encoder) (c : Char) : Encoder :=
  if c.toNat < m then { e with delta := e.delta + 1 }
  else if c.toNat == m then
    { out := e.out ++ digits e.bias 36 e.delta, delta := 0,
      bias := adapt e.delta (e.handled + 1) (e.handled == basics), handled := e.handled + 1 }
  else e

/-- Insert the code points `ms`, increasing, the previous one inserted being below `n`. -/
def Encoder.insertAll (label : List Char) (basics : Nat) : List Nat → Nat → Encoder → Encoder
  | [], _, e => e
  | m :: ms, n, e =>
    let e := { e with delta := e.delta + (m - n) * (e.handled + 1) }
    let e := label.foldl (Encoder.visit basics m) e
    insertAll label basics ms (m + 1) { e with delta := e.delta + 1 }

/-- Insert `x` into an increasing list without repeats. -/
def insertSorted (x : Nat) : List Nat → List Nat
  | [] => [x]
  | y :: ys => if x < y then x :: y :: ys else if x == y then y :: ys else y :: insertSorted x ys

/-- The Punycode text of a label, without the `xn--` that marks it in a domain. -/
def encode (label : List Char) : String :=
  let basic := label.filter (·.toNat < 0x80)
  let others := (label.filter (0x80 ≤ ·.toNat)).foldr (insertSorted ·.toNat) []
  let e := Encoder.insertAll label basic.length others 0x80
    ⟨[], 0, 72, basic.length⟩
  String.ofList (basic ++ (if basic.isEmpty then [] else ['-']) ++ e.out)

/-- The largest value of a 32-bit counter. -/
def counterMax : Nat := 4294967295

/-- Read one number starting at weight index `k` with weight `w`, adding it to `i`:
the new counter and the rest of the input. -/
def readNumber (bias : Nat) : List Char → Nat → Nat → Nat → Option (Nat × List Char)
  | [], _, _, _ => none
  | c :: rest, k, w, i => do
    let d ← digitValue c
    let i := i + d * w
    if counterMax < i then none
    else
      let t := threshold k bias
      if d < t then some (i, rest)
      else if counterMax < w * (36 - t) then none
      else readNumber bias rest (k + 36) (w * (36 - t)) i

theorem readNumber_shorter (bias : Nat) :
    ∀ (cs : List Char) (k w i : Nat) (r : Nat × List Char),
      readNumber bias cs k w i = some r → r.2.length < cs.length
  | [], _, _, _, _, h => by simp [readNumber] at h
  | c :: rest, k, w, i, r, h => by
    simp only [readNumber, Option.bind_eq_bind] at h
    cases hd : digitValue c with
    | none => simp [hd] at h
    | some d =>
      simp only [hd, Option.bind_some] at h
      split at h
      · simp at h
      · split at h
        · cases h; simp
        · split at h
          · simp at h
          · have := readNumber_shorter bias rest _ _ _ r h
            simp only [List.length_cons]; omega

/-- Insert the code points that the numbers in `cs` stand for into `out`. -/
def insertCoded (bias n i : Nat) (out : List Char) (cs : List Char) : Option (List Char) :=
  match cs with
  | [] => some out
  | c :: rest =>
    match h : readNumber bias (c :: rest) 36 1 i with
    | none => none
    | some (i', more) =>
      let points := out.length + 1
      let n' := n + i' / points
      let pos := i' % points
      if n'.isValidChar then
        insertCoded (adapt (i' - i) points (i == 0)) n' (pos + 1)
          (out.insertIdx pos (Char.ofNat n')) more
      else none
termination_by cs.length
decreasing_by exact readNumber_shorter bias (c :: rest) 36 1 i (i', more) h

/-- The label a Punycode text (without `xn--`) stands for. The ASCII part is what stands
before the last hyphen, if there is one. -/
def decode (text : List Char) : Option (List Char) :=
  let (basic, coded) :=
    match text.reverse.span (· != '-') with
    | (codedRev, []) => ([], codedRev.reverse)
    | (codedRev, _ :: basicRev) => (basicRev.reverse, codedRev.reverse)
  if basic.any (0x80 ≤ ·.toNat) then none
  else insertCoded 72 0x80 0 basic coded

end Punycode
end TicketMarket
