import TicketMarket.Wire.Market
import TicketMarket.Config.Settings

/-! # Wire forms of configuration

A summary of a configuration as JSON, the contract addresses, and a configuration error
as `{"error": "ConfigError", "code", "message"}`. A manifest error carries the text of
the decoder that refused it, so it is reported by its code alone. -/
set_option autoImplicit false
namespace TicketMarket
namespace Wire

/-- The three contract addresses. -/
def contractAddresses (c : ContractAddresses) : Json :=
  .obj [("event_registry", address c.eventRegistry), ("ticket_nft", address c.ticketNft),
    ("marketplace", address c.marketplace)]

/-- The three contract addresses from their wire form. -/
def contractAddresses? : Json → Option ContractAddresses := record do
  let registry ← field "event_registry" address?
  let nft ← field "ticket_nft" address?
  let market ← field "marketplace" address?
  pure ⟨registry, nft, market⟩

/-- A summary of a configuration. -/
def configSummary (c : Config) : Json :=
  let l := c.ledger
  .obj [("environment", .str c.environment.name), ("is_production", .bool c.environment.isProduction),
    ("ledger", .obj [("mode", .str l.mode.name), ("provider_url", .str l.providerUrl),
      ("credential", optional Json.str l.credential), ("chain_id", Json.nat l.chainId),
      ("confirmations", Json.nat l.confirmations), ("request_timeout_ms", Json.nat l.requestTimeoutMs),
      ("confirmation_timeout_ms", Json.nat l.confirmationTimeoutMs)]),
    ("contracts", optional contractAddresses c.contracts),
    ("retry", .obj [("max_attempts", Json.nat c.retry.maxAttempts),
      ("initial_backoff_ms", Json.nat c.retry.initialBackoffMs),
      ("max_backoff_ms", Json.nat c.retry.maxBackoffMs), ("backoff_factor", Json.float c.retry.factor),
      ("backoff_ms_1_to_6", .arr ((List.range 6).map fun i => Json.nat (c.retry.backoffAfter (i + 1))))]),
    ("owner", address c.owner), ("platform", platformConfig c.platform),
    ("manifest_path", .str c.manifestPath), ("genesis", genesis c.genesis)]

/-- A configuration error. -/
def configError (e : ConfigError) : Json :=
  match e with
  | .manifest _ _ => .obj [("error", .str "ConfigError"), ("code", .str e.code)]
  | _ => .obj [("error", .str "ConfigError"), ("code", .str e.code), ("message", .str e.message)]

end Wire
end TicketMarket
