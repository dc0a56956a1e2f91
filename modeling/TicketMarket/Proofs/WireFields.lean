import Mathlib
import TicketMarket.Proofs.Codec
import TicketMarket.Rpc.Client

/-! # Rejections cross the wire unchanged

A remote ledger reports why it refused a call as the rejection's wire form: an object
tagged by the member `code`, with the rejection's values beside the tag. The client reads
it back from the error object of a JSON-RPC answer, or from the status of a receipt, and
the executor acts on what it read: a rejection is final, anything else may be retried.

The wire carries ids as 64-bit integers and accounts as twenty bytes, so a rejection
reads back exactly when its values are within those ranges (`Rejection.Fits`), as the
values of the original's types always are. The statements are built from small ones:
each plain value reads back from its encoding (`bps?_bps`, `wei?_wei`, `address?_address`,
...), a field of an object is read from the member of its name (`field_named`), and a tag
that no other member shadows names the fields of its kind (`tagged_obj`). The main
statement is `rejection_crosses_wire`. -/
set_option autoImplicit false
namespace TicketMarket

/-- A rejection whose values the wire can carry: its ids fit 64 bits and its account
twenty bytes. -/
def Rejection.Fits : Rejection → Prop
  | .notEventAuthority e | .notAuthorizedMinter e | .eventDoesNotExist e | .eventIsPaused e
  | .maxSupplyReached e | .seatAlreadyMinted e _ => e.val ≤ Wire.uint64Max
  | .notTokenOwner t | .notApprovedForTransfer t | .marketplaceNotApproved t
  | .ticketDoesNotExist t | .ticketNotActive t | .ticketListed t => t.val ≤ Wire.uint64Max
  | .notTheSeller l | .listingNotActive l => l.val ≤ Wire.uint64Max
  | .insufficientFunds a _ _ => a.val < 256 ^ 20
  | _ => True

instance (r : Rejection) : Decidable r.Fits := by
  cases r <;> unfold Rejection.Fits <;> infer_instance

namespace Wire

/-! ## Plain values -/

@[simp] theorem bps?_bps (b : Bps) : bps? (bps b) = some b := by
  have small : b.val ≤ uint16Max := by
    have := b.lt
    unfold uint16Max
    omega
  simp [bps?, bps, uint16?, Json.natBelow?, Json.nat, small, Bps.ofNat?, b.lt]

@[simp] theorem wei?_wei (w : Wei) : wei? (wei w) = some w := by
  change (Wei.parse (toString w.val)).toOption = some w
  rw [Wei.parse_toString]
  rfl

theorem address?_address {a : Address} (fits : a.val < 256 ^ 20) :
    address? (address a) = some a := by
  change (Address.parse a.render).toOption = some a
  rw [Address.parse_render fits]
  rfl

theorem fingerprint?_fingerprint {f : Fingerprint} (fits : f.val < 256 ^ 32) :
    fingerprint? (fingerprint f) = some f := by
  change (Fingerprint.parse f.render).toOption = some f
  rw [Fingerprint.parse_render fits]
  rfl

theorem txHash?_render {h : TxHash} (fits : h.val < 256 ^ 32) :
    txHash? (.str h.render) = some h := by
  change (TxHash.parse h.render).toOption = some h
  rw [TxHash.parse_render fits]
  rfl

theorem uint64?_nat {n : Nat} (fits : n ≤ uint64Max) : uint64? (Json.nat n) = some n := by
  simp [uint64?, Json.nat, Json.natBelow?, fits]

theorem eventId?_nat {e : EventId} (fits : e.val ≤ uint64Max) :
    eventId? (Json.nat e.val) = some e := by
  simp [eventId?, uint64?_nat fits]

theorem ticketId?_nat {t : TicketId} (fits : t.val ≤ uint64Max) :
    ticketId? (Json.nat t.val) = some t := by
  simp [ticketId?, uint64?_nat fits]

theorem listingId?_nat {l : ListingId} (fits : l.val ≤ uint64Max) :
    listingId? (Json.nat l.val) = some l := by
  simp [listingId?, uint64?_nat fits]

@[simp] theorem seat?_str (s : SeatId) : seat? (.str s.name) = some s := rfl

@[simp] theorem bool?_bool (b : Bool) : bool? (.bool b) = some b := rfl

@[simp] theorem string?_str (s : String) : string? (.str s) = some s := rfl

/-- An instant reads back from its text when its text reads back. -/
theorem instant?_instant {t : Instant} (readsBack : Instant.parse t.render = some t) :
    instant? (instant t) = some t := by
  simp [instant?, instant, Json.str?, readsBack]

/-! ## Records and tags -/

/-- A field of an object is read from the member of its name, and the object stays the
source of the fields after it. -/
theorem field_named {α : Type} (key : String) (f : Json → Option α) (j : Json) :
    (field key f).run (.named j) = (j.get? key >>= f).map (·, .named j) := rfl

/-- The first member of an object is the one its key reads when no later member has
that key. -/
theorem get?_head {key : String} {value : Json} {members : List (String × Json)}
    (untagged : ∀ m ∈ members, m.1 ≠ key) :
    (Json.obj ((key, value) :: members)).get? key = some value := by
  have absent : members.reverse.find? (·.1 == key) = none := by
    rw [List.find?_eq_none]
    intro m mem
    simpa using untagged m (List.mem_reverse.mp mem)
  simp [Json.get?, List.find?_append, absent]

/-- An object whose tag no other member shadows is read by the fields its tag names. -/
theorem tagged_obj {α : Type} {key tag : String} {variant : String → Option (Fields α)}
    {members : List (String × Json)} {F : Fields α} (untagged : ∀ m ∈ members, m.1 ≠ key)
    (names : variant tag = some F) :
    tagged key variant (.obj ((key, .str tag) :: members)) =
      (F.run (.named (.obj ((key, .str tag) :: members)))).map (·.1) := by
  simp only [tagged, tag?, get?_head untagged, Json.str?, Option.bind_eq_bind, Option.bind_some,
    names]
  rfl

/-! ## Rejections -/

/-- No value of a rejection is written under the key of its tag. -/
theorem rejectionMembers_untagged (r : Rejection) : ∀ m ∈ rejectionMembers r, m.1 ≠ "code" := by
  cases r <;> simp [rejectionMembers]

/-- The tag a rejection is written under is its stable code. -/
theorem rejectionTag_eq_code (r : Rejection) : rejectionTag r = r.code := by
  cases r <;> rfl

theorem code_member (r : Rejection) : (rejection r).get? "code" = some (.str r.code) := by
  rw [← rejectionTag_eq_code]
  exact get?_head (rejectionMembers_untagged r)

/-- A rejection the wire can carry reads back from its wire form. Each case names its
fields by the tag it is written under, `rfl` finds them, and each field reads back from
the member of its name. -/
theorem rejection?_rejection (r : Rejection) (fits : r.Fits) :
    rejection? (rejection r) = some r := by
  unfold rejection? rejection
  cases r <;> rw [tagged_obj (rejectionMembers_untagged _) rfl] <;> unfold Rejection.Fits at fits <;>
    simp only [rejectionMembers, StateT.run_map, StateT.run_bind, StateT.run_pure, field_named,
      Json.get?, List.reverse_cons, List.reverse_nil, List.nil_append, List.cons_append,
      List.find?_cons, String.reduceBEq, Option.map_some, Option.bind_eq_bind, Option.bind_some,
      bps?_bps, wei?_wei, seat?_str, eventId?_nat, ticketId?_nat, listingId?_nat,
      address?_address, fits] <;>
    rfl

/-- A reverted receipt's status reads back with the same rejection. -/
theorem receiptStatus?_reverted (r : Rejection) (fits : r.Fits) :
    receiptStatus? (receiptStatus (.reverted r)) = some (.reverted r) := by
  have kind : tag? (receiptStatus (.reverted r)) "kind" = some "reverted" := by
    simp [receiptStatus, tag?, get?_head, Json.str?]
  have reason : (receiptStatus (.reverted r)).get? "reason" = some (rejection r) := by
    simp [receiptStatus, Json.get?]
  rw [receiptStatus?, kind]
  simp only [req, reason, Option.bind_eq_bind, Option.bind_some, rejection?_rejection r fits,
    Option.map_some]

end Wire

/-- A rejection crosses the wire unchanged. Its wire form carries its code under `code`
and reads back as the same rejection; an error object of a JSON-RPC answer that carries
it, whatever its code and message, is read as the ledger reverting the call with that
rejection, which has the rejection's code and is not retried; and a receipt's reverted
status reads back with the same rejection. -/
theorem rejection_crosses_wire (e : Rejection) (fits : e.Fits) :
    (Wire.rejection e).get? "code" = some (.str e.code) ∧
      Wire.rejection? (Wire.rejection e) = some e ∧
      (∀ (code : Int) (message : String),
        let answer : Rpc.ErrorObject := ⟨code, message, some (Wire.rejection e)⟩
        answer.toLedgerError = .reverted e ∧ answer.toLedgerError.code = e.code ∧
          answer.toLedgerError.isRetryable = false) ∧
      Wire.receiptStatus? (Wire.receiptStatus (.reverted e)) = some (.reverted e) := by
  have readBack := Wire.rejection?_rejection e fits
  have reverted : ∀ (code : Int) (message : String),
      Rpc.ErrorObject.toLedgerError ⟨code, message, some (Wire.rejection e)⟩ = .reverted e := by
    intro code message
    simp [Rpc.ErrorObject.toLedgerError, readBack]
  refine ⟨Wire.code_member e, readBack, fun code message => ?_, Wire.receiptStatus?_reverted e fits⟩
  intro answer
  have reads : answer.toLedgerError = .reverted e := reverted code message
  exact ⟨reads, by rw [reads]; rfl, by rw [reads]; rfl⟩

/-- An account short of funds is reported over the wire as exactly that. -/
theorem insufficient_funds_crosses_wire :
    let e := Rejection.insufficientFunds ⟨7⟩ ⟨120, by decide⟩ ⟨300, by decide⟩
    e.Fits ∧
      ((Wire.rejection e).get? "code" = some (.str e.code) ∧
        Wire.rejection? (Wire.rejection e) = some e ∧
        (∀ (code : Int) (message : String),
          let answer : Rpc.ErrorObject := ⟨code, message, some (Wire.rejection e)⟩
          answer.toLedgerError = .reverted e ∧ answer.toLedgerError.code = e.code ∧
            answer.toLedgerError.isRetryable = false) ∧
        Wire.receiptStatus? (Wire.receiptStatus (.reverted e)) = some (.reverted e)) := by
  intro e
  have fits : e.Fits := by decide
  exact ⟨fits, rejection_crosses_wire e fits⟩

end TicketMarket
