/-! # Percent-encoding

A URL keeps a byte as it is or writes it as `%` and two upper-case hex digits. Which bytes
are written so depends on the part of the URL, through its *encode set*. Every set holds
the C0 controls, DEL and every byte above ASCII; the sets differ only in the printable
ASCII characters they add, each set below adding to the one before it. Text is encoded
byte by byte in UTF-8, so a character outside ASCII becomes one escape for each of its
bytes. Decoding reads `%` and two hex digits of either case as one byte and leaves every
other byte alone. -/
set_option autoImplicit false
namespace TicketMarket
namespace Url

/-- An encode set, given by the printable ASCII characters it adds to the controls and to
the bytes above ASCII. -/
structure EncodeSet where
  extra : List Char

namespace EncodeSet

/-- Whether the set encodes byte `b`. -/
def encodes (s : EncodeSet) (b : Nat) : Bool :=
  b < 0x20 || 0x7F ≤ b || s.extra.contains (Char.ofNat b)

/-- The controls and the bytes above ASCII only: for hosts of other schemes and for
unsplit paths. -/
def controls : EncodeSet := ⟨[]⟩

/-- The set for fragments. -/
def fragment : EncodeSet := ⟨[' ', '"', '<', '>', '\x60']⟩

/-- The set for queries of other schemes. -/
def query : EncodeSet := ⟨[' ', '"', '#', '<', '>']⟩

/-- The set for queries of the special schemes, which also encodes the apostrophe. -/
def specialQuery : EncodeSet := ⟨query.extra ++ ['\'']⟩

/-- The set for path segments. -/
def path : EncodeSet := ⟨fragment.extra ++ ['#', '?', '{', '}']⟩

/-- The set for user names and passwords. -/
def userinfo : EncodeSet :=
  ⟨path.extra ++ ['/', ':', ';', '=', '@', '[', '\\', ']', '^', '|']⟩

end EncodeSet

/-- Upper-case hex digit of a number below sixteen. -/
def hexDigit (n : Nat) : Char :=
  if n < 10 then Char.ofNat (48 + n) else Char.ofNat (55 + n)

/-- The value of a hex digit of either case. -/
def hexValue (c : Char) : Option Nat :=
  if c.isDigit then some (c.toNat - 48)
  else if 'a' ≤ c && c ≤ 'f' then some (c.toNat - 87)
  else if 'A' ≤ c && c ≤ 'F' then some (c.toNat - 55)
  else none

/-- A byte percent-encoded. -/
def percentByte (b : Nat) : String :=
  String.ofList ['%', hexDigit (b / 16), hexDigit (b % 16)]

/-- Encode the characters of `cs` that `set` asks for, byte by byte. -/
def encode (set : EncodeSet) (cs : List Char) : String :=
  String.join ((String.ofList cs).toUTF8.toList.map fun b =>
    if set.encodes b.toNat then percentByte b.toNat else String.singleton (Char.ofNat b.toNat))

/-- The bytes that a percent-encoded byte sequence stands for. -/
def decodeBytes : List Nat → List Nat
  | 0x25 :: h :: l :: more =>
    match hexValue (Char.ofNat h), hexValue (Char.ofNat l) with
    | some hi, some lo => (16 * hi + lo) :: decodeBytes more
    | _, _ => 0x25 :: decodeBytes (h :: l :: more)
  | b :: rest => b :: decodeBytes rest
  | [] => []
termination_by bs => bs.length

/-- The text a percent-encoded text stands for, if its bytes are UTF-8. -/
def decodeText? (s : String) : Option String :=
  String.fromUTF8? ⟨(decodeBytes (s.toUTF8.toList.map UInt8.toNat)).toArray.map Nat.toUInt8⟩

end Url
end TicketMarket
