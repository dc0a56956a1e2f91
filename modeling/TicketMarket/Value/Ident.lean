import TicketMarket.Text.Blank
import TicketMarket.Text.Hex

/-! # Identifiers

Events, tickets and listings are numbered from 1 in the order they are created. A seat is
named by free text; a seat name that is blank after trimming Unicode blanks names no seat.
An operation is named by a UUID so that a submission can be recognised when it is sent
again; identifiers made up by this library for fresh operations are kept apart from every
UUID a caller supplies, so that the two can never be confused. -/
set_option autoImplicit false
namespace TicketMarket

/-- The number of an event. -/
structure EventId where
  val : Nat
  deriving DecidableEq, Repr, Inhabited, Hashable

/-- The number of a ticket. -/
structure TicketId where
  val : Nat
  deriving DecidableEq, Repr, Inhabited, Hashable

/-- The number of a resale listing. -/
structure ListingId where
  val : Nat
  deriving DecidableEq, Repr, Inhabited, Hashable

/-- The name of a seat of an event. -/
structure SeatId where
  name : String
  deriving DecidableEq, Repr, Inhabited, Hashable

/-- The seat named by `seat`. -/
def SeatId.new (seat : String) : SeatId := ⟨seat⟩

/-- The seat a text names, made by `SeatId.new`. -/
def SeatId.ofStr (value : String) : SeatId := SeatId.new value

/-- Whether a seat name is blank after trimming, so names no seat. -/
def SeatId.isBlank (s : SeatId) : Bool := (Blank.trim s.name).isEmpty

/-- The name of a submitted operation: a UUID a caller supplied, or one this library made
up for a fresh operation. -/
inductive OperationId where
  | uuid (value : Nat)
  | fresh (serial : Nat)
  deriving DecidableEq, Repr, Inhabited

namespace OperationId

/-- Hex digits of a UUID text, if every character is one. -/
def hexValue? (cs : List Char) : Option Nat :=
  cs.foldlM (fun acc c => (Hex.digitValue? c.toNat).map (acc * 16 + ·)) 0

/-- The value of a hyphenated UUID: hex digits with hyphens after 8, 12, 16 and 20 of them. -/
def hyphenated? (cs : List Char) : Option Nat :=
  if cs.length == 36 && cs[8]? == some '-' && cs[13]? == some '-' && cs[18]? == some '-' &&
      cs[23]? == some '-' && (cs.filter (· == '-')).length == 4 then
    hexValue? (cs.filter (· != '-'))
  else none

/-- A UUID in any usual spelling: 32 hex digits, hyphenated, braced, or as a URN. -/
def parse? (text : String) : Option OperationId :=
  let cs := text.toList
  let value? :=
    if cs.length == 32 then hexValue? cs
    else if cs.length == 36 then hyphenated? cs
    else if cs.length == 38 && cs.head? == some '{' && cs.getLast? == some '}' then
      hyphenated? ((cs.drop 1).take 36)
    else if cs.length == 45 && cs.take 9 == "urn:uuid:".toList then hyphenated? (cs.drop 9)
    else none
  value?.map uuid

/-- The hyphenated lower-case spelling of a UUID value. -/
def uuidText (v : Nat) : String :=
  let h := Hex.encode (Hex.bytesOf 16 v)
  let cs := h.toList
  String.ofList (cs.take 8 ++ ['-'] ++ (cs.drop 8).take 4 ++ ['-'] ++ (cs.drop 12).take 4 ++
    ['-'] ++ (cs.drop 16).take 4 ++ ['-'] ++ cs.drop 20)

/-- The spelling of an operation id: hyphenated lower case for a supplied UUID. A made-up
id is shown by its serial number. -/
def render : OperationId → String
  | .uuid v => uuidText v
  | .fresh n => "fresh-" ++ toString n

end OperationId

end TicketMarket
