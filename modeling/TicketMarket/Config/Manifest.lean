import TicketMarket.Json.Scan
import TicketMarket.Call

/-! # The deployment manifest

The contract deployment scripts write a manifest naming the three deployed contracts:

    {"contracts": {"EventRegistry": {"address": "0x…"}, "TicketNFT": {"address": "0x…"},
      "SimpleMarketplace": {"address": "0x…"}}}

It is read the way a derived record decoder reads it (`Json.Scan`), so a manifest that
is refused is refused with the line and column of the fault. Members it does not know are
checked and skipped, and a member it knows may appear only once. A missing `contracts` is an empty
set of contracts, but a `null` one is an error. A contract may be missing or `null`. An
entry needs its `address`, and the address must be hex text of twenty bytes. A record may
also be given as an array of its members in order: `[contracts]` for the manifest (or
`[]`), `[registry, nft, marketplace]` for the contracts, and `[address]` for an entry.
The manifest names the contracts only when it names all three. -/
set_option autoImplicit false
namespace TicketMarket

/-- Where the three contracts are deployed. -/
structure ContractAddresses where
  eventRegistry : Address
  ticketNft : Address
  marketplace : Address
  deriving DecidableEq, Repr

/-- The address of one of the contracts. -/
def ContractAddresses.addressOf (c : ContractAddresses) : Contract → Address
  | .eventRegistry => c.eventRegistry
  | .ticketNft => c.ticketNft
  | .marketplace => c.marketplace

/-- The addresses a local development deployment uses. -/
def devContracts : ContractAddresses :=
  ⟨Address.ofLowU64 0x1001, Address.ofLowU64 0x1002, Address.ofLowU64 0x1003⟩

/-- The contracts a manifest names, each perhaps missing. -/
structure DeploymentManifest where
  eventRegistry : Option Address := none
  ticketNft : Option Address := none
  marketplace : Option Address := none
  deriving DecidableEq, Repr

namespace DeploymentManifest

open Json Scan

/-- An address written as hex text; bad hex is refused with the hex reader's message. -/
def address : Scan Address := do
  match Address.parse (← text) with
  | .ok a => pure a
  | .error e => complain e.message

/-- A contract entry: `{"address": …}` or `[address]`. -/
def entry : Scan Address :=
  record "struct ManifestEntry"
    (do
      match ← fields ["address"] address with
      | [some a] => pure a
      | _ => complain ("missing field " ++ ticked "address"))
    (do
      match ← items address 1 true with
      | [a] => pure a
      | _ => complain "invalid length 0, expected struct ManifestEntry with 1 element")

/-- The contracts, by name or as three entries in order, each perhaps `null`. -/
def contracts : Scan DeploymentManifest :=
  record "struct ManifestContracts"
    (do
      match ← fields ["EventRegistry", "TicketNFT", "SimpleMarketplace"] (optional entry) with
      | [r, n, m] => pure ⟨r.join, n.join, m.join⟩
      | _ => pure {})
    (do
      match ← items (optional entry) 3 true with
      | [r, n, m] => pure ⟨r, n, m⟩
      | got => complain ("invalid length " ++ toString got.length ++
          ", expected struct ManifestContracts with 3 elements"))

/-- A manifest: `{"contracts": …}`, `[contracts]` or `[]`; no contracts means none. -/
def manifest : Scan DeploymentManifest :=
  record "struct DeploymentManifest"
    (do
      match ← fields ["contracts"] contracts with
      | [some c] => pure c
      | _ => pure {})
    (do
      match ← items contracts 1 true with
      | [c] => pure c
      | _ => pure {})

/-- A manifest from its text, or why it is none, with the line and column. -/
def read (input : String) : Except String DeploymentManifest :=
  (document manifest input).mapError ReadError.text

/-- A manifest from its text, if it is one. -/
def parse (input : String) : Option DeploymentManifest := (read input).toOption

/-- The contract addresses, when the manifest names all three. -/
def contractAddresses (m : DeploymentManifest) : Option ContractAddresses := do
  pure ⟨← m.eventRegistry, ← m.ticketNft, ← m.marketplace⟩

end DeploymentManifest

end TicketMarket
