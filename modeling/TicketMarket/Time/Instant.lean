import TicketMarket.Text.Blank

/-! # Instants in UTC

An `Instant` is a day counted from 1970-01-01, a second of that day and a nanosecond part
that reaches past one second only during a leap second (`…:59:60`). Instants are written
in RFC 3339 form in UTC with a `Z`: the fraction is left out when it is zero and otherwise
has 3, 6 or 9 digits, the fewest that are exact; a year outside 0000 to 9999 carries its
sign. `Instant.parse` reads RFC 3339 text with any offset and converts it to UTC. It is
lenient the way a field-by-field reader is: fields may have fewer digits, blanks may stand
before a field, the date and time may be parted by `T`, `t` or a blank, the offset may be
`Z`, `z`, `UTC` or `±hh:mm` (with any run of colons and blanks inside), and fraction digits
past the ninth are dropped. An impossible date or a missing offset is refused. -/
set_option autoImplicit false
namespace TicketMarket

/-- A moment in UTC. `nanos` is below `2 * 10 ^ 9`, and at least `10 ^ 9` only during a
leap second. -/
structure Instant where
  days : Int
  secs : Nat
  nanos : Nat
  deriving DecidableEq, Repr, Inhabited

namespace Instant

/-- 1970-01-01T00:00:00Z. -/
def epoch : Instant := ⟨0, 0, 0⟩

/-- Days from 1970-01-01 to a date of the proleptic Gregorian calendar. -/
def daysFromCivil (y : Int) (m d : Nat) : Int :=
  let y := if m ≤ 2 then y - 1 else y
  let era := y / 400
  let yoe := y - era * 400
  let mp : Int := if m > 2 then (m : Int) - 3 else (m : Int) + 9
  let doy := (153 * mp + 2) / 5 + (d : Int) - 1
  let doe := yoe * 365 + yoe / 4 - yoe / 100 + doy
  era * 146097 + doe - 719468

/-- The date of a day counted from 1970-01-01: year, month and day of month. -/
def civilFromDays (z : Int) : Int × Nat × Nat :=
  let z := z + 719468
  let era := z / 146097
  let doe := z - era * 146097
  let yoe := (doe - doe / 1460 + doe / 36524 - doe / 146096) / 365
  let doy := doe - (365 * yoe + yoe / 4 - yoe / 100)
  let mp := (5 * doy + 2) / 153
  let d := doy - (153 * mp + 2) / 5 + 1
  let m := if mp < 10 then mp + 3 else mp - 9
  ((yoe + era * 400) + (if m ≤ 2 then 1 else 0), m.toNat, d.toNat)

/-- Whether a year of the proleptic Gregorian calendar has a 29th of February. -/
def isLeapYear (y : Int) : Bool := y % 4 == 0 && (y % 100 != 0 || y % 400 == 0)

/-- The number of days of a month. -/
def monthLength (y : Int) (m : Nat) : Nat :=
  match m with
  | 2 => if isLeapYear y then 29 else 28
  | 4 | 6 | 9 | 11 => 30
  | _ => 31

/-- At least two decimal digits, zero-padded. -/
def pad2 (n : Nat) : String := if n < 10 then "0" ++ toString n else toString n

/-- A natural number in exactly `width` digits, zero-padded on the left. -/
def padTo (width n : Nat) : String :=
  let s := toString n
  String.ofList (List.replicate (width - s.length) '0') ++ s

/-- The year as written: four digits from 0000 to 9999, else a sign and at least four. -/
def yearText (y : Int) : String :=
  if 0 ≤ y && y ≤ 9999 then padTo 4 y.toNat
  else (if y < 0 then "-" else "+") ++ padTo 4 y.natAbs

/-- The fraction of a second as written: empty for zero, else 3, 6 or 9 digits. -/
def fractionText (nanos : Nat) : String :=
  if nanos == 0 then ""
  else if nanos % 1000000 == 0 then "." ++ padTo 3 (nanos / 1000000)
  else if nanos % 1000 == 0 then "." ++ padTo 6 (nanos / 1000)
  else "." ++ padTo 9 nanos

/-- RFC 3339 text of an instant in UTC. -/
def render (t : Instant) : String :=
  let (y, m, d) := civilFromDays t.days
  let (sec, nanos) :=
    if t.nanos ≥ 1000000000 then (t.secs % 60 + 1, t.nanos - 1000000000)
    else (t.secs % 60, t.nanos)
  yearText y ++ "-" ++ pad2 m ++ "-" ++ pad2 d ++ "T" ++ pad2 (t.secs / 3600) ++ ":" ++
    pad2 (t.secs % 3600 / 60) ++ ":" ++ pad2 sec ++ fractionText nanos ++ "Z"

/-! ## Reading -/

/-- The leading run of at least `lo` and at most `hi` decimal digits, with its value. -/
def takeDigits (lo hi : Nat) (cs : List Char) : Option (Nat × List Char) :=
  let ds := (cs.takeWhile Char.isDigit).take hi
  if ds.length < lo then none
  else
    some (ds.foldl (fun acc c => acc * 10 + (c.toNat - 48)) 0, cs.drop ds.length)

/-- The text after its leading blanks. -/
def skipBlanks (cs : List Char) : List Char := cs.dropWhile Blank.isBlank

/-- A field of one or two digits, after optional blanks. -/
def field2 (cs : List Char) : Option (Nat × List Char) := takeDigits 1 2 (skipBlanks cs)

/-- Blanks, then the literal character `c`. -/
def expect (c : Char) (cs : List Char) : Option (List Char) :=
  match skipBlanks cs with
  | d :: rest => if d == c then some rest else none
  | [] => none

/-- The year: a signed run of digits of any length, or up to four digits without a
sign. -/
def readYear (cs : List Char) : Option (Int × List Char) :=
  match skipBlanks cs with
  | '-' :: r => (takeDigits 1 r.length r).map fun (v, r) => (-(v : Int), r)
  | '+' :: r => (takeDigits 1 r.length r).map fun (v, r) => ((v : Int), r)
  | r => (takeDigits 1 4 r).map fun (v, r) => ((v : Int), r)

/-- The fraction after a point, scaled to nanoseconds; digits past the ninth are dropped. -/
def readFraction (cs : List Char) : Option (Nat × List Char) :=
  match cs with
  | '.' :: r => do
    let (v, r') ← takeDigits 1 9 r
    let used := r.length - r'.length
    pure (v * Nat.pow 10 (9 - used), r'.dropWhile Char.isDigit)
  | _ => some (0, cs)

/-- Whether `cs` starts with `UTC` in any case. -/
def startsWithUtc (cs : List Char) : Bool :=
  (cs.take 3).map Char.toUpper == ['U', 'T', 'C']

/-- Two digit characters as a number. -/
def twoDigits (a b : Char) : Option Nat :=
  if a.isDigit && b.isDigit then some ((a.toNat - 48) * 10 + (b.toNat - 48)) else none

/-- The offset east of UTC in seconds, and the text after it. -/
def readOffset (cs : List Char) : Option (Int × List Char) :=
  let cs := skipBlanks cs
  if startsWithUtc cs then some (0, cs.drop 3)
  else
    match cs with
    | 'Z' :: r | 'z' :: r => some (0, r)
    | s :: r =>
      let sign : Option Int :=
        if s == '+' then some 1 else if s == '-' || s == '−' then some (-1) else none
      match sign, r with
      | some sg, h1 :: h2 :: r => do
        let h ← twoDigits h1 h2
        match r.dropWhile (fun c => c == ':' || Blank.isBlank c) with
        | m1 :: m2 :: r =>
          if m1.isDigit && m1.toNat ≤ '5'.toNat && m2.isDigit then
            some (sg * ((h : Int) * 3600 + ((m1.toNat - 48) * 10 + (m2.toNat - 48) : Nat) * 60), r)
          else none
        | _ => none
      | _, _ => none
    | [] => none

/-- The first day a date may fall on, -262143-01-01. -/
def firstDay : Int := daysFromCivil (-262143) 1 1

/-- The last day a date may fall on, +262142-12-31. -/
def lastDay : Int := daysFromCivil 262142 12 31

/-- Whether a day lies in the range of dates, from `firstDay` to `lastDay`. -/
def inRange (day : Int) : Bool := firstDay ≤ day && day ≤ lastDay

/-- The instant of a calendar date, time of day and offset east of UTC, if the date exists
and the offset is under a day. The date as written and the date in UTC must both lie in
the range of dates. -/
def ofFields (y : Int) (mo d h mi s nanos : Nat) (offset : Int) : Option Instant :=
  if mo < 1 || mo > 12 || d < 1 || d > monthLength y mo || h > 23 || mi > 59 || s > 60 then
    none
  else if offset.natAbs ≥ 86400 || !inRange (daysFromCivil y mo d) then none
  else
    let (sec, nanos) := if s == 60 then (59, nanos + 1000000000) else (s, nanos)
    let total : Int := daysFromCivil y mo d * 86400 + ((h * 3600 + mi * 60 + sec : Nat) : Int) - offset
    if inRange (total / 86400) then some ⟨total / 86400, (total % 86400).toNat, nanos⟩
    else none

/-- The instant an RFC 3339 text denotes. -/
def parse (text : String) : Option Instant := do
  let cs := text.toList
  let (y, r) ← readYear cs
  let r ← expect '-' r
  let (mo, r) ← field2 r
  let r ← expect '-' r
  let (d, r) ← field2 r
  let r ← match r with
    | c :: r => if c == 'T' || c == 't' || c == ' ' then some r else none
    | [] => none
  let (h, r) ← field2 r
  let r ← expect ':' r
  let (mi, r) ← field2 r
  let r ← expect ':' r
  let (s, r) ← field2 r
  let (nanos, r) ← readFraction r
  let r := skipBlanks r
  if r.isEmpty then none
  else
    let (offset, r) ← readOffset r
    if !(skipBlanks r).isEmpty then none
    else ofFields y mo d h mi s nanos offset

end Instant
end TicketMarket
