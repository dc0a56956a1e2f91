import TicketMarket.Json.Value

/-! # Reading JSON text

`Json.parse` reads one document that fills the whole text up to blanks. The grammar is
RFC 8259's, with the reading rules of a streaming reader that classifies numbers:

* an integer literal that fits 64 unsigned bits is `unsigned`; a negative one down to
  `-2 ^ 63` is `negative`; `-0`, a larger integer and every literal with a fraction or an
  exponent are doubles;
* a double is the significand's first 64-bit worth of digits scaled by a power of ten in
  at most two roundings (`Json.scaleByTen`), and a literal too large for a double is
  refused rather than read as infinity;
* strings refuse raw control characters and unpaired surrogate escapes;
* containers nest at most 127 deep.

Nothing here reports why a text is refused: callers only need to know that it is. -/
set_option autoImplicit false
namespace TicketMarket
namespace Json

/-- The largest unsigned 64-bit integer. -/
def uint64Max : Nat := Nat.pow 2 64 - 1

/-- The largest signed 32-bit integer, the bound of an exponent. -/
def int32Max : Int := 2147483647

/-- Whether appending `digit` to `acc` would pass `bound`, tested the way a fixed-width
accumulator tests it before the multiplication. -/
def wouldPass (acc digit bound : Nat) : Bool :=
  acc ≥ bound / 10 && (acc > bound / 10 || digit > bound % 10)

/-- The double nearest to `10 ^ k`. -/
def tenPow (k : Nat) : Float := Float.ofScientific 1 false k

/-- `significand * 10 ^ exponent` as a double: one multiplication or division by a power
of ten, after dividing by `10 ^ 308` while the exponent is below `-308`. `none` when the
product overflows. -/
def scaleByTen (positive : Bool) (significand : Nat) (exponent : Int) : Option Float :=
  go (exponent.natAbs / 308 + 2) (Float.ofNat significand) exponent
where
  go : Nat → Float → Int → Option Float
    | 0, _, _ => none
    | fuel + 1, f, e =>
      if e.natAbs ≤ 308 then
        if e ≥ 0 then
          let g := f * tenPow e.natAbs
          if g.isInf then none else some (if positive then g else -g)
        else
          let g := f / tenPow e.natAbs
          some (if positive then g else -g)
      else if f == 0 then some (if positive then f else -f)
      else if e ≥ 0 then none
      else go fuel (f / tenPow 308) (e + 308)

/-- Whether a character is a blank between tokens. -/
def isBlank (c : Char) : Bool := c == ' ' || c == '\n' || c == '\t' || c == '\r'

/-- The text after its leading blanks. -/
def skipBlanks : List Char → List Char
  | c :: rest => if isBlank c then skipBlanks rest else c :: rest
  | [] => []

/-- The text after its leading decimal digits. -/
def skipDigits : List Char → List Char
  | c :: rest => if c.isDigit then skipDigits rest else c :: rest
  | [] => []

/-- The value of a decimal digit. -/
def digitVal (c : Char) : Nat := c.toNat - '0'.toNat

/-- Saturate an integer to the signed 32-bit range. -/
def clampInt32 (e : Int) : Int := max (-int32Max - 1) (min int32Max e)

/-- The exponent part after `e` or `E`, then the double it scales to. -/
def readExponent (positive : Bool) (significand : Nat) (start : Int) (cs : List Char) :
    Option (Float × List Char) :=
  let (expPositive, cs) := match cs with
    | '+' :: r => (true, r)
    | '-' :: r => (false, r)
    | r => (true, r)
  match cs with
  | c :: r =>
    if c.isDigit then
      let rec digits : List Char → Nat → Option (Nat × List Char) × Bool
        | d :: r, acc =>
          if d.isDigit then
            if wouldPass acc (digitVal d) int32Max.toNat then (none, true)
            else digits r (acc * 10 + digitVal d)
          else (some (acc, d :: r), false)
        | [], acc => (some (acc, []), false)
      match digits r (digitVal c) with
      | (some (e, rest), _) =>
        let final := clampInt32 (if expPositive then start + e else start - e)
        (scaleByTen positive significand final).map (·, rest)
      | (none, _) =>
        -- The exponent itself overflows: zero unless it points upwards at a non-zero
        -- significand, which is out of range.
        if significand != 0 && expPositive then none
        else some ((if positive then 0.0 else -0.0), skipDigits r)
    else none
  | [] => none

/-- The double of a literal whose significand no longer fits: later digits are dropped. -/
def readPastOverflow (positive : Bool) (significand : Nat) (exponent : Int)
    (cs : List Char) : Option (Float × List Char) :=
  match skipDigits cs with
  | c :: r =>
    if c == 'e' || c == 'E' then readExponent positive significand exponent r
    else (scaleByTen positive significand exponent).map (·, c :: r)
  | [] => (scaleByTen positive significand exponent).map (·, [])

/-- The fraction digits after a point, then an optional exponent. -/
def readFraction (positive : Bool) (significand : Nat) (before : Int) (cs : List Char) :
    Option (Float × List Char) :=
  let rec go : List Char → Nat → Int → Option (Float × List Char)
    | c :: r, sig, after =>
      if c.isDigit then
        if wouldPass sig (digitVal c) uint64Max then
          readPastOverflow positive sig (before + after) (c :: r)
        else go r (sig * 10 + digitVal c) (after - 1)
      else if after == 0 then none
      else if c == 'e' || c == 'E' then readExponent positive sig (before + after) r
      else (scaleByTen positive sig (before + after)).map (·, c :: r)
    | [], sig, after =>
      if after == 0 then none else (scaleByTen positive sig (before + after)).map (·, [])
  go cs significand 0

/-- An integer too long for 64 bits: each further digit raises the exponent. -/
def readLongInteger (positive : Bool) (significand : Nat) (cs : List Char) :
    Option (Float × List Char) :=
  let rec go : List Char → Int → Option (Float × List Char)
    | c :: r, e =>
      if c.isDigit then go r (e + 1)
      else if c == '.' then readFraction positive significand e r
      else if c == 'e' || c == 'E' then readExponent positive significand e r
      else (scaleByTen positive significand e).map (·, c :: r)
    | [], e => (scaleByTen positive significand e).map (·, [])
  go cs 0

/-- What follows the integer digits: a fraction, an exponent, or nothing. -/
def readAfterInteger (positive : Bool) (significand : Nat) (cs : List Char) :
    Option (Number × List Char) :=
  match cs with
  | '.' :: r => (readFraction positive significand 0 r).map fun (f, r) => (.float f, r)
  | 'e' :: r | 'E' :: r =>
    (readExponent positive significand 0 r).map fun (f, r) => (.float f, r)
  | _ =>
    if positive then some (.unsigned significand, cs)
    else if significand == 0 || significand > Nat.pow 2 63 then
      some (.float (-(Float.ofNat significand)), cs)
    else some (.negative (-(significand : Int)), cs)

/-- A number literal, without its optional minus sign. -/
def readUnsignedNumber (positive : Bool) : List Char → Option (Number × List Char)
  | '0' :: r =>
    match r with
    | c :: _ => if c.isDigit then none else readAfterInteger positive 0 r
    | [] => readAfterInteger positive 0 r
  | c :: r =>
    if c.isDigit then
      let rec go : List Char → Nat → Option (Number × List Char)
        | d :: r, sig =>
          if d.isDigit then
            if wouldPass sig (digitVal d) uint64Max then
              (readLongInteger positive sig (d :: r)).map fun (f, r) => (.float f, r)
            else go r (sig * 10 + digitVal d)
          else readAfterInteger positive sig (d :: r)
        | [], sig => readAfterInteger positive sig []
      go r (digitVal c)
    else none
  | [] => none

/-- A number literal. -/
def readNumber : List Char → Option (Number × List Char)
  | '-' :: r => readUnsignedNumber false r
  | cs => readUnsignedNumber true cs

/-- The value of a hexadecimal digit. -/
def hexVal? (c : Char) : Option Nat :=
  if c.isDigit then some (digitVal c)
  else if 'a' ≤ c && c ≤ 'f' then some (c.toNat - 'a'.toNat + 10)
  else if 'A' ≤ c && c ≤ 'F' then some (c.toNat - 'A'.toNat + 10)
  else none

/-- Four hexadecimal digits of an escape. -/
def readHex4 : List Char → Option (Nat × List Char)
  | a :: b :: c :: d :: r => do
    let va ← hexVal? a
    let vb ← hexVal? b
    let vc ← hexVal? c
    let vd ← hexVal? d
    pure (((va * 16 + vb) * 16 + vc) * 16 + vd, r)
  | _ => none

/-- The character of a `\u` escape, reading a second escape for a surrogate pair. -/
def readUnicodeEscape (cs : List Char) : Option (Char × List Char) := do
  let (n, r) ← readHex4 cs
  if 0xDC00 ≤ n && n ≤ 0xDFFF then none
  else if 0xD800 ≤ n && n ≤ 0xDBFF then
    match r with
    | '\\' :: 'u' :: r => do
      let (m, r) ← readHex4 r
      if m < 0xDC00 || m > 0xDFFF then none
      else pure (Char.ofNat ((n - 0xD800) * 0x400 + (m - 0xDC00) + 0x10000), r)
    | _ => none
  else pure (Char.ofNat n, r)

/-- The rest of a string after its opening quote. -/
def readString : List Char → Option (String × List Char) :=
  go ""
where
  go (acc : String) : List Char → Option (String × List Char)
    | '"' :: r => some (acc, r)
    | '\\' :: e :: r =>
      match e with
      | '"' => go (acc.push '"') r
      | '\\' => go (acc.push '\\') r
      | '/' => go (acc.push '/') r
      | 'b' => go (acc.push '\x08') r
      | 'f' => go (acc.push '\x0c') r
      | 'n' => go (acc.push '\n') r
      | 'r' => go (acc.push '\r') r
      | 't' => go (acc.push '\t') r
      | 'u' =>
        match readUnicodeEscape r with
        | some (c, r') =>
          -- the escape consumed at least four characters
          if _h : r'.length < r.length then go (acc.push c) r' else none
        | none => none
      | _ => none
    | c :: r => if c.toNat < 0x20 then none else go (acc.push c) r
    | [] => none
  termination_by cs => cs.length

mutual

/-- One value and the text after it. `depth` counts the containers still allowed to
open; `fuel` bounds the recursion by the length of the text. -/
def readValue : Nat → Nat → List Char → Option (Json × List Char)
  | 0, _, _ => none
  | fuel + 1, depth, cs =>
    match skipBlanks cs with
    | 'n' :: 'u' :: 'l' :: 'l' :: r => some (.null, r)
    | 't' :: 'r' :: 'u' :: 'e' :: r => some (.bool true, r)
    | 'f' :: 'a' :: 'l' :: 's' :: 'e' :: r => some (.bool false, r)
    | '"' :: r => (readString r).map fun (s, r) => (.str s, r)
    | '[' :: r =>
      if depth ≤ 1 then none
      else
        match skipBlanks r with
        | ']' :: r => some (.arr [], r)
        | r => readItems fuel (depth - 1) [] r
    | '{' :: r =>
      if depth ≤ 1 then none
      else
        match skipBlanks r with
        | '}' :: r => some (.obj [], r)
        | r => readMembers fuel (depth - 1) [] r
    | c :: r =>
      if c == '-' || c.isDigit then (readNumber (c :: r)).map fun (n, r) => (.num n, r)
      else none
    | [] => none

/-- The items of an array from its first item on. -/
def readItems : Nat → Nat → List Json → List Char → Option (Json × List Char)
  | 0, _, _, _ => none
  | fuel + 1, depth, acc, cs => do
    let (v, r) ← readValue fuel depth cs
    match skipBlanks r with
    | ',' :: r => readItems fuel depth (v :: acc) r
    | ']' :: r => some (.arr (v :: acc).reverse, r)
    | _ => none

/-- The members of an object from its first member on. -/
def readMembers : Nat → Nat → List (String × Json) → List Char → Option (Json × List Char)
  | 0, _, _, _ => none
  | fuel + 1, depth, acc, cs =>
    match skipBlanks cs with
    | '"' :: r => do
      let (k, r) ← readString r
      match skipBlanks r with
      | ':' :: r => do
        let (v, r) ← readValue fuel depth r
        match skipBlanks r with
        | ',' :: r => readMembers fuel depth ((k, v) :: acc) r
        | '}' :: r => some (.obj ((k, v) :: acc).reverse, r)
        | _ => none
      | _ => none
    | _ => none

end

/-- The document that fills `text`, up to blanks on either side. -/
def parse (text : String) : Option Json :=
  let cs := text.toList
  match readValue (cs.length + 1) 128 cs with
  | some (j, rest) => if skipBlanks rest = [] then some j else none
  | none => none

end Json
end TicketMarket
