import TicketMarket.Json.Value
import TicketMarket.Value.Address
import TicketMarket.Value.Amount
import TicketMarket.Value.Ident
import TicketMarket.Time.Instant

/-! # Wire forms of plain values

How the basic values travel in JSON. Accounts, fingerprints and hashes are hex strings;
amounts are decimal strings, so that no reader truncates them; rates and ids are plain
integers; instants are RFC 3339 strings. A decoder answers `none` for a value of the
wrong type or out of range: an integer field refuses a fraction even when it is whole. -/
set_option autoImplicit false
namespace TicketMarket
namespace Wire

/-- The largest 64-bit unsigned integer. -/
def uint64Max : Nat := 18446744073709551615

/-- The largest 32-bit unsigned integer. -/
def uint32Max : Nat := 4294967295

/-- The largest 16-bit unsigned integer. -/
def uint16Max : Nat := 65535

/-- A 64-bit unsigned integer. -/
def uint64? (j : Json) : Option Nat := j.natBelow? uint64Max

/-- A 32-bit unsigned integer. -/
def uint32? (j : Json) : Option Nat := j.natBelow? uint32Max

/-- A 16-bit unsigned integer. -/
def uint16? (j : Json) : Option Nat := j.natBelow? uint16Max

/-- A 64-bit signed integer. -/
def int64? (j : Json) : Option Int := j.intWithin? (-9223372036854775808) 9223372036854775807

/-- A string. -/
def string? (j : Json) : Option String := j.str?

/-- A boolean. -/
def bool? (j : Json) : Option Bool := j.bool?

/-- An account in hex. -/
def address? (j : Json) : Option Address := j.str? >>= fun s => (Address.parse s).toOption

/-- A fingerprint in hex. -/
def fingerprint? (j : Json) : Option Fingerprint :=
  j.str? >>= fun s => (Fingerprint.parse s).toOption

/-- A transaction hash in hex. -/
def txHash? (j : Json) : Option TxHash := j.str? >>= fun s => (TxHash.parse s).toOption

/-- An amount as a decimal string. -/
def wei? (j : Json) : Option Wei := j.str? >>= fun s => (Wei.parse s).toOption

/-- A rate in basis points. -/
def bps? (j : Json) : Option Bps := uint16? j >>= Bps.ofNat?

/-- An event id. -/
def eventId? (j : Json) : Option EventId := (uint64? j).map EventId.mk

/-- A ticket id. -/
def ticketId? (j : Json) : Option TicketId := (uint64? j).map TicketId.mk

/-- A listing id. -/
def listingId? (j : Json) : Option ListingId := (uint64? j).map ListingId.mk

/-- A seat name. -/
def seat? (j : Json) : Option SeatId := j.str?.map SeatId.mk

/-- An instant as RFC 3339 text. -/
def instant? (j : Json) : Option Instant := j.str? >>= Instant.parse

/-- An operation id as UUID text. -/
def operationId? (j : Json) : Option OperationId := j.str? >>= OperationId.parse?

/-- A required member of an object. -/
def req {α : Type} (j : Json) (key : String) (f : Json → Option α) : Option α :=
  j.get? key >>= f

/-- An optional member: absent or `null` is `none`. -/
def opt {α : Type} (j : Json) (key : String) (f : Json → Option α) : Option (Option α) :=
  match j.get? key with
  | none | some .null => some none
  | some v => (f v).map some

/-- A list whose every item decodes. -/
def list? {α : Type} (f : Json → Option α) (j : Json) : Option (List α) :=
  j.items? >>= fun items => items.mapM f

/-- An object's member with `key` as a string tag. -/
def tag? (j : Json) (key : String) : Option String := j.get? key >>= Json.str?

/-- A value that may be `null`. -/
def orNull {α : Type} (f : Json → Option α) : Json → Option (Option α)
  | .null => some none
  | j => (f j).map some

/-! ## Records

A record travels in one of two shapes: an object whose members are named by its fields,
or an array that lists its fields in their declared order. An object may carry members
the record does not know; an array must hold exactly the record's fields. -/

/-- Where a record's fields are read from. -/
inductive FieldSource where
  /-- An object: a field is the member of its name. -/
  | named (j : Json)
  /-- The items of an array not yet read: a field is the next one. -/
  | positional (items : List Json)

/-- A reader of a record's fields, taken in their declared order. -/
abbrev Fields (α : Type) : Type := StateT FieldSource Option α

/-- A field that must be present. -/
def field {α : Type} (key : String) (f : Json → Option α) : Fields α := fun src =>
  match src with
  | .named j => (j.get? key >>= f).map (·, src)
  | .positional (x :: rest) => (f x).map (·, .positional rest)
  | .positional [] => none

/-- A field that may be `null`. A missing member counts as `null`; in an array its place
must still be filled. -/
def nullable {α : Type} (key : String) (f : Json → Option α) : Fields (Option α) := fun src =>
  match src with
  | .named j => (orNull f ((j.get? key).getD .null)).map (·, src)
  | _ => field key (orNull f) src

/-- A record from an object, or from an array that holds exactly its fields. -/
def record {α : Type} (fields : Fields α) : Json → Option α
  | .obj members => (fields.run (.named (.obj members))).map (·.1)
  | .arr items =>
    match fields.run (.positional items) with
    | some (a, .positional []) => some a
    | _ => none
  | _ => none

/-- A record of several kinds, told apart by a string tag. As an object the tag is the
member `key` and the fields stand beside it; as an array the tag is the first item and
the fields follow it. `variant` gives the fields of the kind a tag names. -/
def tagged {α : Type} (key : String) (variant : String → Option (Fields α)) : Json → Option α
  | .obj members => do
    let fields ← variant (← tag? (.obj members) key)
    record fields (.obj members)
  | .arr (tag :: items) => do
    let fields ← variant (← tag.str?)
    record fields (.arr items)
  | _ => none

/-- The name of a choice that carries nothing: a string, or an object whose single key
is the name, with a value that `empty` accepts. -/
def bareChoice? (empty : Json → Bool) (j : Json) : Option String :=
  match j with
  | .str s => some s
  | .obj ((k, _) :: rest) =>
    if rest.all (·.1 == k) && ((j.get? k).map empty).getD false then some k else none
  | _ => none

/-! ## Encoders -/

/-- An account as hex. -/
def address (a : Address) : Json := .str a.render

/-- A fingerprint as hex. -/
def fingerprint (f : Fingerprint) : Json := .str f.render

/-- An amount as a decimal string. -/
def wei (w : Wei) : Json := .str (toString w.val)

/-- A rate as an integer. -/
def bps (b : Bps) : Json := Json.nat b.val

/-- An instant as RFC 3339 text. -/
def instant (t : Instant) : Json := .str t.render

/-- An optional value, `null` when absent. -/
def optional {α : Type} (f : α → Json) : Option α → Json
  | some a => f a
  | none => .null

end Wire
end TicketMarket
