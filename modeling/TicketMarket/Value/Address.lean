import TicketMarket.Value.HexValue

/-! # Accounts and digests

An `Address` names an account on the ledger: twenty bytes, written `0x` and forty hex
digits. A `Fingerprint` identifies an event's off-ledger description and a `TxHash` a
submitted transaction; both are thirty-two bytes. Each is kept as the number its
big-endian bytes spell, so the all-zero value is `0`. -/
set_option autoImplicit false
namespace TicketMarket

/-- An account on the ledger: twenty bytes. -/
structure Address where
  val : Nat
  deriving DecidableEq, Repr, Inhabited, Hashable

/-- A thirty-two byte identifier of an event's description. -/
structure Fingerprint where
  val : Nat
  deriving DecidableEq, Repr, Inhabited

/-- A thirty-two byte transaction hash. -/
structure TxHash where
  val : Nat
  deriving DecidableEq, Repr, Inhabited

namespace Address

/-- The all-zero address, which no account owns. -/
def zero : Address := ⟨0⟩

/-- The address whose last eight bytes are a 64-bit number, big-endian. -/
def ofLowU64 (n : Nat) : Address := ⟨n % Nat.pow 2 64⟩

/-- Whether every byte is zero. -/
def isZero (a : Address) : Bool := a.val == 0

/-- `0x` and forty lower-case hex digits. -/
def render (a : Address) : String := HexValue.render 20 a.val

/-- The address a hex text stands for. -/
def parse (text : String) : Except HexValueError Address :=
  (HexValue.read 20 text).map Address.mk

/-- The diagnostic spelling, `Address(0x…)`. -/
def debugText (a : Address) : String := "Address(" ++ a.render ++ ")"

/-- The address whose twenty bytes are all `b`. -/
def ofRepeatedByte (b : Nat) : Address := ⟨Hex.valueOf (List.replicate 20 b)⟩

/-- The twenty bytes as hex without the marker. -/
def bytesText (a : Address) : String := Hex.encode (Hex.bytesOf 20 a.val)

end Address

namespace Fingerprint

/-- Whether every byte is zero. -/
def isZero (f : Fingerprint) : Bool := f.val == 0

/-- `0x` and sixty-four lower-case hex digits. -/
def render (f : Fingerprint) : String := HexValue.render 32 f.val

/-- The fingerprint a hex text stands for. -/
def parse (text : String) : Except HexValueError Fingerprint :=
  (HexValue.read 32 text).map Fingerprint.mk

/-- The diagnostic spelling, `Fingerprint(0x…)`. -/
def debugText (f : Fingerprint) : String := "Fingerprint(" ++ f.render ++ ")"

/-- The fingerprint whose thirty-two bytes are all `b`. -/
def ofRepeatedByte (b : Nat) : Fingerprint := ⟨Hex.valueOf (List.replicate 32 b)⟩

/-- The thirty-two bytes as hex without the marker. -/
def bytesText (f : Fingerprint) : String := Hex.encode (Hex.bytesOf 32 f.val)

end Fingerprint

namespace TxHash

/-- Whether every byte is zero. -/
def isZero (h : TxHash) : Bool := h.val == 0

/-- `0x` and sixty-four lower-case hex digits. -/
def render (h : TxHash) : String := HexValue.render 32 h.val

/-- The hash a hex text stands for. -/
def parse (text : String) : Except HexValueError TxHash :=
  (HexValue.read 32 text).map TxHash.mk

/-- The diagnostic spelling, `TxHash(0x…)`. -/
def debugText (h : TxHash) : String := "TxHash(" ++ h.render ++ ")"

/-- The hash whose thirty-two bytes are all `b`. -/
def ofRepeatedByte (b : Nat) : TxHash := ⟨Hex.valueOf (List.replicate 32 b)⟩

/-- The thirty-two bytes as hex without the marker. -/
def bytesText (h : TxHash) : String := Hex.encode (Hex.bytesOf 32 h.val)

end TxHash

end TicketMarket
