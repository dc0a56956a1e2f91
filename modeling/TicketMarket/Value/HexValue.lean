import TicketMarket.Text.Hex
import TicketMarket.Text.Escape

/-! # Fixed-width hex values

Ledger values of a fixed number of bytes (accounts, fingerprints, transaction hashes) are
written as `0x` and two lower-case hex digits per byte. `HexValue.read width` accepts
either case and one optional `0x` or `0X`; it refuses a text that is no hex
(`HexValueError.invalidHex`) before one of the wrong length (`invalidLength`). The value
is kept as the number whose big-endian bytes they are. -/
set_option autoImplicit false
namespace TicketMarket

/-- Why a text is no hex value of the expected width. -/
inductive HexValueError where
  | invalidHex (e : Hex.DecodeError)
  | invalidLength (expected actual : Nat)
  deriving DecidableEq, Repr

namespace HexValueError

/-- The wording of the error. -/
def message : HexValueError → String
  | .invalidHex .oddLength => "invalid hex: Odd number of digits"
  | .invalidHex (.invalidChar c i) =>
    "invalid hex: Invalid character " ++ Escape.quoteChar c ++ " at position " ++ toString i
  | .invalidLength e a => "expected " ++ toString e ++ " bytes, got " ++ toString a

/-- Whether the text was no hex at all rather than hex of the wrong length. -/
def isInvalidHex : HexValueError → Bool
  | .invalidHex _ => true
  | .invalidLength _ _ => false

end HexValueError

namespace HexValue

/-- The number a hex text of exactly `width` bytes stands for. -/
def read (width : Nat) (text : String) : Except HexValueError Nat :=
  match Hex.decode text with
  | .error e => .error (.invalidHex e)
  | .ok bytes =>
    if bytes.length == width then .ok (Hex.valueOf bytes)
    else .error (.invalidLength width bytes.length)

/-- The `0x` text of a value of `width` bytes. -/
def render (width value : Nat) : String := "0x" ++ Hex.encode (Hex.bytesOf width value)

end HexValue
end TicketMarket
