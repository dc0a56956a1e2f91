import TicketMarket.Url.Percent

/-! # IP addresses in URLs

A host of a web URL that ends in a number is an IPv4 address. Its text has one to four
parts between dots, with one trailing dot allowed; each part is a number in decimal, in
hex after `0x`, or in octal after a leading `0`. All parts but the last are bytes, and
the last fills the bytes that remain, so `127.1` and `2130706433` are both `127.0.0.1`.
An address is written back as four decimal bytes.

An IPv6 address stands between brackets: eight groups of up to four hex digits, one run
of zero groups shortened to `::`, and possibly four decimal bytes at the end in place of
the last two groups. It is written back in lower-case hex without leading zeros, the
longest run of at least two zero groups, the first of equal ones, written as `::`. -/
set_option autoImplicit false
namespace TicketMarket
namespace Url
namespace Ipv4

/-- The value of `cs` as digits in base `radix` (at most 16); zero for no digits. -/
def digitsValue (radix : Nat) (cs : List Char) : Option Nat :=
  cs.foldlM (fun acc c => (hexValue c).bind fun d => if d < radix then some (radix * acc + d) else none) 0

/-- A part of an IPv4 address: decimal, hex after `0x` or `0X`, octal after a leading `0`.
A prefix alone is zero. -/
def part? : List Char → Option Nat
  | [] => none
  | '0' :: x :: rest =>
    if x == 'x' || x == 'X' then digitsValue 16 rest else digitsValue 8 (x :: rest)
  | cs => if cs.all Char.isDigit then digitsValue 10 cs else none

/-- The dot-separated parts of a host, a single trailing empty part dropped. -/
def parts (host : String) : List String :=
  let ps := host.splitOn "."
  if ps.length > 1 && ps.getLast? == some "" then ps.dropLast else ps

/-- Whether a host ends in a number, which makes it an IPv4 address or no host at all. -/
def endsInNumber (host : String) : Bool :=
  match (parts host).getLast? with
  | some last =>
    (!last.isEmpty && last.all Char.isDigit) || (part? last.toList).isSome
  | none => false

/-- The address an IPv4 text stands for. -/
def parse? (host : String) : Option Nat := do
  let ps := parts host
  if 4 < ps.length then none
  let numbers ← ps.mapM (part? ·.toList)
  let leading := numbers.dropLast
  let last := numbers.getLastD 0
  if Nat.pow 256 (4 - leading.length) ≤ last || leading.any (255 < ·) then none
  pure (leading.zipIdx.foldl (fun acc (n, i) => acc + n * Nat.pow 256 (3 - i)) last)

/-- An IPv4 address as four decimal bytes. -/
def render (address : Nat) : String :=
  ".".intercalate ([address / 16777216, address / 65536 % 256, address / 256 % 256,
    address % 256].map toString)

end Ipv4

namespace Ipv6

/-- An IPv4 address closing an IPv6 one: exactly four decimal bytes, no leading zeros. -/
def trailingBytes? (cs : List Char) : Option (List Nat) :=
  let ps := (String.ofList cs).splitOn "."
  let byte? (p : String) : Option Nat :=
    if p.isEmpty || !p.all Char.isDigit || (p.length > 1 && p.startsWith "0") then none
    else
      (Ipv4.digitsValue 10 p.toList).bind fun n => if n ≤ 255 then some n else none
  if ps.length == 4 then ps.mapM byte? else none

/-- The groups of an IPv6 address read so far, and where the zero run goes. -/
structure Groups where
  compress : Option Nat
  groups : List Nat

set_option linter.unusedVariables false in
/-- Read the groups of `cs`, each up to four hex digits and each followed by a colon or
the end; a colon where a group should start is the zero run. -/
def groups (g : Groups) (cs : List Char) : Option Groups :=
  match cs with
  | [] => some g
  | ':' :: rest =>
    if g.groups.length == 8 || g.compress.isSome then none
    else groups ⟨some (g.groups.length + 1), g.groups ++ [0]⟩ rest
  | c :: rest =>
    if g.groups.length == 8 then none
    else
      let ds := ((c :: rest).take 4).takeWhile fun d => (hexValue d).isSome
      let value := (digitsValue ds).getD 0
      if ds.isEmpty then none
      else
        match hdrop : (c :: rest).drop ds.length with
        | [] => some { g with groups := g.groups ++ [value] }
        | '.' :: _ =>
          if 6 < g.groups.length then none
          else (trailingBytes? (c :: rest)).bind fun
            | [a, b, x, y] => some { g with groups := g.groups ++ [256 * a + b, 256 * x + y] }
            | _ => none
        | [':'] => none
        | ':' :: more => groups { g with groups := g.groups ++ [value] } more
        | _ => none
termination_by cs.length
decreasing_by
  · simp
  · have := congrArg List.length hdrop
    simp only [List.length_drop, List.length_cons] at this ⊢
    omega
where
  digitsValue (ds : List Char) : Option Nat := Ipv4.digitsValue 16 ds

/-- The eight groups of an IPv6 text, without its brackets. -/
def parse? (text : String) : Option (List Nat) := do
  let cs := text.toList
  if cs.length < 2 then none
  let g ← match cs with
    | ':' :: ':' :: rest => groups ⟨some 1, [0]⟩ rest
    | ':' :: _ => none
    | _ => groups ⟨none, []⟩ cs
  match g.compress with
  | some pos =>
    pure (g.groups.take pos ++ List.replicate (8 - g.groups.length) 0 ++ g.groups.drop pos)
  | none => if g.groups.length == 8 then pure g.groups else none

/-- The first longest run of zero groups, as its start and length, if it has two groups
or more. -/
def zeroRun (groups : List Nat) : Option (Nat × Nat) :=
  let runs := (List.range groups.length).filterMap fun i =>
    let len := ((groups.drop i).takeWhile (· == 0)).length
    if 0 < len && (i == 0 || groups.getD (i - 1) 1 != 0) then some (i, len) else none
  let best := runs.foldl (fun best r => if best.2 < r.2 then r else best) (0, 0)
  if 2 ≤ best.2 then some best else none

/-- A group in lower-case hex without leading zeros. -/
def groupText (n : Nat) : String := String.ofList (Nat.toDigits 16 n)

/-- An IPv6 address in its shortest form, without brackets. -/
def render (groups : List Nat) : String :=
  match zeroRun groups with
  | some (start, len) =>
    ":".intercalate ((groups.take start).map groupText) ++ "::" ++
      ":".intercalate ((groups.drop (start + len)).map groupText)
  | none => ":".intercalate (groups.map groupText)

end Ipv6
end Url
end TicketMarket
