import TicketMarket.Json.Value

/-! # Writing JSON text

`Json.render` writes a document compactly: no blanks, members in their order, strings
with the two mandatory escapes and the short escapes of control characters. A double is
written with the fewest significant digits that read back as the same double
(`Json.shortestDigits`); one that is not finite has no JSON form and is written `null`. -/
set_option autoImplicit false
namespace TicketMarket
namespace Json

/-- Hexadecimal digit of a value below sixteen, in lower case. -/
def hexDigit (n : Nat) : Char :=
  if n < 10 then Char.ofNat ('0'.toNat + n) else Char.ofNat ('a'.toNat + n - 10)

/-- The escaped form of one character inside a string literal. -/
def escapeChar (c : Char) : String :=
  match c with
  | '"' => "\\\""
  | '\\' => "\\\\"
  | '\n' => "\\n"
  | '\r' => "\\r"
  | '\t' => "\\t"
  | '\x08' => "\\b"
  | '\x0c' => "\\f"
  | c =>
    if c.toNat < 0x20 then
      "\\u00" ++ String.singleton (hexDigit (c.toNat / 16)) ++
        String.singleton (hexDigit (c.toNat % 16))
    else String.singleton c

/-- A string literal, quotes included. -/
def quote (s : String) : String :=
  "\"" ++ String.join (s.toList.map escapeChar) ++ "\""

/-- The exact value of a finite, positive double as `num / den`. -/
def exactRatio (f : Float) : Nat × Nat :=
  let bits : Nat := f.toBits.toNat
  let expField : Nat := (bits / Nat.pow 2 52) % Nat.pow 2 11
  let frac : Nat := bits % Nat.pow 2 52
  let (m, q) : Nat × Int :=
    if expField == 0 then (frac, -1074) else (frac + Nat.pow 2 52, (expField : Int) - 1075)
  if q ≥ 0 then (m * Nat.pow 2 q.toNat, 1) else (m, Nat.pow 2 q.natAbs)

/-- Division of naturals rounded to nearest, a tie going to the even quotient. -/
def roundDiv (num den : Nat) : Nat :=
  let q := num / den
  let r := num % den
  if 2 * r > den then q + 1
  else if 2 * r < den then q
  else if q % 2 == 0 then q else q + 1

/-- The number of decimal digits of a positive natural. -/
def digitCount (n : Nat) : Nat := (Nat.toDigits 10 n).length

/-- The decimal exponent `E` with `10 ^ E ≤ num / den < 10 ^ (E + 1)`, for a positive ratio. -/
def decimalExponent (num den : Nat) : Int :=
  let guess : Int := (digitCount num : Int) - (digitCount den : Int)
  -- `guess` is exact or one too large
  let below (e : Int) : Bool :=
    if e ≥ 0 then num < den * Nat.pow 10 e.toNat else num * Nat.pow 10 e.natAbs < den
  if below guess then guess - 1 else guess

/-- The ratio `num / den` rounded to `k` significant digits, as digits and a power of ten. -/
def roundToDigits (num den : Nat) (k : Nat) : Nat × Int :=
  let s : Int := decimalExponent num den - k + 1
  if s ≥ 0 then (roundDiv num (den * Nat.pow 10 s.toNat), s)
  else (roundDiv (num * Nat.pow 10 s.natAbs) den, s)

/-- The double that `digits * 10 ^ s` reads as. -/
def readBack (digits : Nat) (s : Int) : Float :=
  if s ≥ 0 then Float.ofScientific digits false s.toNat
  else Float.ofScientific digits true s.natAbs

/-- The other neighbour of `num / den` on the grid `10 ^ s`, beside the nearest one `d`:
the grid point on the far side of the ratio. -/
def otherNeighbour (num den d : Nat) (s : Int) : Nat :=
  let (n, q) := if s ≥ 0 then (num, den * Nat.pow 10 s.toNat) else (num * Nat.pow 10 s.natAbs, den)
  if d * q ≤ n then d + 1 else d - 1

/-- The fewest significant digits, with their power of ten, that read back as the finite,
positive double `f`. For each count of digits both neighbours of `f` on that decimal grid
are tried, the nearer first, since near a power of two the interval that reads back as
`f` reaches farther on one side. Seventeen digits always read back. -/
def shortestDigits (f : Float) : Nat × Int :=
  let (numer, denom) := exactRatio f
  let readsBack (d : Nat) (s : Int) : Bool := (readBack d s).toBits == f.toBits
  let rec go : Nat → Nat → Nat × Int
    | 0, _ => roundToDigits numer denom 17
    | fuel + 1, k =>
      let (d, s) := roundToDigits numer denom k
      if readsBack d s then (d, s)
      else
        let e := otherNeighbour numer denom d s
        if readsBack e s then (e, s) else go fuel (k + 1)
  go 17 1

/-- Drop trailing zeros of the digits into the power of ten. -/
def trimZeros (d : Nat) (s : Int) : Nat × Int :=
  let rec go : Nat → Nat → Int → Nat × Int
    | 0, d, s => (d, s)
    | fuel + 1, d, s => if d != 0 && d % 10 == 0 then go fuel (d / 10) (s + 1) else (d, s)
  go 20 d s

/-- Text of a finite double: positional from `1e-5` up to `1e16`, scientific beyond with
the exponent's sign written out (`1e+16`, `5e-324`), and a whole value keeps a `.0`. -/
def floatText (f : Float) : String :=
  if f == 0 then (if f.toBits.toNat ≥ Nat.pow 2 63 then "-0.0" else "0.0")
  else
    let sign := if f < 0 then "-" else ""
    let a := if f < 0 then -f else f
    let (d, s) := shortestDigits a
    let (d, s) := trimZeros d s
    let ds := String.ofList (Nat.toDigits 10 d)
    let n : Int := ds.length
    let p : Int := n + s
    let body :=
      if 0 < p && p ≤ 16 then
        if s ≥ 0 then ds ++ String.ofList (List.replicate s.toNat '0') ++ ".0"
        else String.ofList (ds.toList.take p.toNat) ++ "." ++ String.ofList (ds.toList.drop p.toNat)
      else if -5 < p && p ≤ 0 then
        "0." ++ String.ofList (List.replicate p.natAbs '0') ++ ds
      else
        let mant := match ds.toList with
          | [c] => String.singleton c
          | c :: rest => String.singleton c ++ "." ++ String.ofList rest
          | [] => "0"
        mant ++ "e" ++ (if p - 1 > 0 then "+" else "") ++ toString (p - 1)
    sign ++ body

/-- Text of a number. -/
def numberText : Number → String
  | .unsigned n => toString n
  | .negative n => toString n
  | .float f => if f.isNaN || f.isInf then "null" else floatText f

mutual

/-- Compact text of a document. -/
def render : Json → String
  | .null => "null"
  | .bool true => "true"
  | .bool false => "false"
  | .num n => numberText n
  | .str s => quote s
  | .arr items => "[" ++ renderItems items ++ "]"
  | .obj members => "\x7b" ++ renderMembers members ++ "\x7d"

/-- Items of an array, separated by commas. -/
def renderItems : List Json → String
  | [] => ""
  | [j] => render j
  | j :: rest => render j ++ "," ++ renderItems rest

/-- Members of an object, separated by commas. -/
def renderMembers : List (String × Json) → String
  | [] => ""
  | [(k, v)] => quote k ++ ":" ++ render v
  | (k, v) :: rest => quote k ++ ":" ++ render v ++ "," ++ renderMembers rest

end

end Json
end TicketMarket
