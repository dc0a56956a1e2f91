/-! # Reading decimal floating-point literals

`FloatLiteral.read` reads a double from text: an optional sign, then either one of the
words `inf`, `infinity` or `nan` in any case, or decimal digits with an optional point
and an optional exponent `e` or `E` with its own optional sign. At least one digit must
stand before or after the point, and an exponent needs a digit. The value is the double
nearest to the decimal; beyond the range of doubles it is infinite, below it zero. -/
set_option autoImplicit false
namespace TicketMarket
namespace FloatLiteral

/-- Why a text is no floating-point literal. -/
inductive ReadError where
  | empty
  | invalid
  deriving DecidableEq, Repr

/-- The wording of a read error. -/
def ReadError.message : ReadError → String
  | .empty => "cannot parse float from empty string"
  | .invalid => "invalid float literal"

/-- The leading digits of a text and the rest. -/
def spanDigits (cs : List Char) : List Char × List Char :=
  (cs.takeWhile Char.isDigit, cs.dropWhile Char.isDigit)

/-- The value of a string of decimal digits. -/
def digitsValue (ds : List Char) : Nat :=
  ds.foldl (fun acc c => acc * 10 + (c.toNat - '0'.toNat)) 0

/-- The double nearest to `m * 10 ^ e`, infinite above the range of doubles and zero far
below it. -/
def ofDecimal (m : Nat) (e : Int) : Float :=
  if m == 0 then 0.0
  else
    let magnitude : Int := e + (Nat.toDigits 10 m).length
    if magnitude > 310 then 1.0 / 0.0
    else if magnitude < -330 then 0.0
    else if e ≥ 0 then Float.ofScientific m false e.toNat
    else Float.ofScientific m true e.natAbs

/-- The exponent after `e` or `E`, if the rest of the text is one. -/
def readExponent (cs : List Char) : Option Int :=
  let (negative, cs) := match cs with
    | '+' :: r => (false, r)
    | '-' :: r => (true, r)
    | r => (false, r)
  let (ds, rest) := spanDigits cs
  if ds.isEmpty || !rest.isEmpty then none
  else
    let v : Int := digitsValue ds
    some (if negative then -v else v)

/-- The magnitude of an unsigned decimal literal. -/
def readDecimal (cs : List Char) : Option Float :=
  let (intPart, rest) := spanDigits cs
  let (fracPart, rest) := match rest with
    | '.' :: r => spanDigits r
    | r => ([], r)
  if intPart.isEmpty && fracPart.isEmpty then none
  else
    let exponent? : Option Int := match rest with
      | [] => some 0
      | c :: r => if c == 'e' || c == 'E' then readExponent r else none
    exponent?.map fun e =>
      ofDecimal (digitsValue (intPart ++ fracPart)) (e - fracPart.length)

/-- The magnitude named by a word: infinity or not-a-number, in any case. -/
def readWord (cs : List Char) : Option Float :=
  let w := String.ofList (cs.map Char.toLower)
  if w == "inf" || w == "infinity" then some (1.0 / 0.0)
  else if w == "nan" then some (0.0 / 0.0)
  else none

/-- The double a text stands for. -/
def read (text : String) : Except ReadError Float :=
  match text.toList with
  | [] => .error .empty
  | c :: r =>
    let (negative, body) :=
      if c == '+' then (false, r) else if c == '-' then (true, r) else (false, c :: r)
    match readDecimal body <|> readWord body with
    | some f => .ok (if negative then -f else f)
    | none => .error .invalid

end FloatLiteral
end TicketMarket
