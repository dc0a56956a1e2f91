import TicketMarket.Config.Manifest
import TicketMarket.Retry.Policy
import TicketMarket.Settlement.State
import TicketMarket.Text.Blank
import TicketMarket.Text.Escape
import TicketMarket.Text.Integer
import TicketMarket.Text.FloatLiteral

/-! # Configuration

The service is configured by variables looked up by name. A variable holding only blanks
counts as unset; a set one is read after trimming blanks from both ends, and a value that
does not read is reported with the variable's name, its raw value and the reason. The
variables are read in a fixed order and the first bad one is reported: the retry tuning,
the owner and the platform's fee and address, the three contract addresses, then the
environment, the ledger mode, the chain id, the confirmations and the two timeouts.

Words (environments and ledger modes) are compared after lower-casing them the Unicode
way. Only ASCII capitals and the Kelvin sign lower-case into ASCII letters, so any other
non-ASCII character keeps a value from matching.

Values that read one by one may still not fit together. In this order: the offline
ledger is refused in production, the fee may be at most 500 bps, the platform account may
not be the zero address, the backoff factor must be a finite number of at least one, and
the first pause may not exceed the longest. -/
set_option autoImplicit false
namespace TicketMarket

/-- Where the service runs. -/
inductive AppEnvironment where
  | development
  | test
  | staging
  | production
  deriving DecidableEq, Repr

/-- Which ledger the service talks to: one reached over JSON-RPC, or one in memory. -/
inductive LedgerMode where
  | live
  | offline
  deriving DecidableEq, Repr

/-- How to reach the ledger. `credential` signs calls; without it the client is
read-only. Times are in milliseconds. -/
structure LedgerSettings where
  mode : LedgerMode
  providerUrl : String
  credential : Option String
  chainId : Nat
  confirmations : Nat
  requestTimeoutMs : Nat
  confirmationTimeoutMs : Nat

/-- The service's configuration. -/
structure Config where
  environment : AppEnvironment
  ledger : LedgerSettings
  contracts : Option ContractAddresses
  retry : RetryPolicy
  owner : Address
  platform : PlatformConfig
  manifestPath : String

/-- Why a configuration was refused. -/
inductive ConfigError where
  | invalidValue (var value reason : String)
  | validation (detail : String)
  | offlineInProduction
  | manifest (path reason : String)
  deriving DecidableEq, Repr

namespace ConfigError

/-- The machine code. -/
def code : ConfigError → String
  | .invalidValue .. => "CONFIG_INVALID_VALUE"
  | .validation _ => "CONFIG_INVALID"
  | .offlineInProduction => "OFFLINE_IN_PRODUCTION"
  | .manifest .. => "MANIFEST_INVALID"

/-- The human-readable message; a raw value is shown quoted with escapes. -/
def message : ConfigError → String
  | .invalidValue var value reason =>
    "Invalid value for " ++ var ++ ": " ++ Escape.quoteText value ++ " (" ++ reason ++ ")"
  | .validation detail => "Configuration validation failed: " ++ detail
  | .offlineInProduction => "Offline ledger mode is not allowed in production"
  | .manifest path reason => "Deployment manifest " ++ path ++ ": " ++ reason

end ConfigError

/-- The ASCII text a character lower-cases to, if it lower-cases to ASCII at all. -/
def asciiLowerOf (c : Char) : Option Char :=
  if 'A' ≤ c && c ≤ 'Z' then some (Char.ofNat (c.toNat + 32))
  else if c.toNat == 0x212A then some 'k'
  else if c.toNat < 128 then some c
  else none

/-- Whether a text lower-cases to one of the words. -/
def lowersToOneOf (s : String) (words : List String) : Option String :=
  match s.toList.mapM asciiLowerOf with
  | some cs => words.find? (· == String.ofList cs)
  | none => none

namespace AppEnvironment

/-- The environment's name. -/
def name : AppEnvironment → String
  | .development => "development"
  | .test => "test"
  | .staging => "staging"
  | .production => "production"

/-- Whether this is production. -/
def isProduction (e : AppEnvironment) : Bool := e == .production

/-- Read an environment: `dev`, `development`, `test`, `staging`, `stage`, `prod` or
`production`, in any case. -/
def read (s : String) : Except String AppEnvironment :=
  match lowersToOneOf s ["dev", "development", "test", "staging", "stage", "prod", "production"] with
  | some "dev" | some "development" => .ok .development
  | some "test" => .ok .test
  | some "staging" | some "stage" => .ok .staging
  | some _ => .ok .production
  | none => .error "expected development, test, staging or production"

end AppEnvironment

namespace LedgerMode

/-- The mode's name. -/
def name : LedgerMode → String
  | .live => "live"
  | .offline => "offline"

/-- Read a mode: `live`, `offline` or `mock`, in any case. -/
def read (s : String) : Except String LedgerMode :=
  match lowersToOneOf s ["live", "offline", "mock"] with
  | some "live" => .ok .live
  | some _ => .ok .offline
  | none => .error "expected live or offline"

end LedgerMode

/-- A variable's value, unless it is unset or blank. -/
def setting (env : String → Option String) (var : String) : Option String :=
  (env var).filter fun v => !Blank.isBlankText v

/-- A variable read by `parse` after trimming, or `none` when unset. -/
def readSetting {α : Type} (env : String → Option String) (var : String)
    (parse : String → Except String α) : Except ConfigError (Option α) :=
  match setting env var with
  | none => .ok none
  | some raw =>
    match parse (Blank.trim raw) with
    | .ok a => .ok (some a)
    | .error reason => .error (.invalidValue var raw reason)

/-- A variable read by `parse`, or `default` when unset. -/
def readSettingOr {α : Type} (env : String → Option String) (var : String)
    (parse : String → Except String α) (default : α) : Except ConfigError α :=
  (fun o => o.getD default) <$> readSetting env var parse

/-- A decimal number of at most `max`. -/
def readBounded (max : Nat) (s : String) : Except String Nat :=
  (Integer.readDecimal max s).mapError Integer.ReadError.message

/-- A floating-point number. -/
def readFloat (s : String) : Except String Float :=
  (FloatLiteral.read s).mapError FloatLiteral.ReadError.message

/-- An address in hex. -/
def readAddress (s : String) : Except String Address :=
  (Address.parse s).mapError HexValueError.message

namespace Config

/-- The variables a configuration is read from. -/
def variableNames : List String :=
  ["APP_ENV", "LEDGER_MODE", "CHAIN_ID", "BLOCKCHAIN_PROVIDER_URL", "BLOCKCHAIN_PRIVATE_KEY",
   "BLOCKCHAIN_CONFIRMATIONS", "BLOCKCHAIN_REQUEST_TIMEOUT_MS",
   "BLOCKCHAIN_CONFIRMATION_TIMEOUT_MS", "BLOCKCHAIN_RETRY_MAX_ATTEMPTS",
   "BLOCKCHAIN_RETRY_INITIAL_BACKOFF", "BLOCKCHAIN_RETRY_MAX_BACKOFF",
   "BLOCKCHAIN_RETRY_BACKOFF_FACTOR", "OWNER_ADDRESS", "PLATFORM_ADDRESS", "PLATFORM_FEE_BPS",
   "CONTRACT_EVENT_REGISTRY_ADDRESS", "CONTRACT_TICKET_NFT_ADDRESS",
   "CONTRACT_MARKETPLACE_ADDRESS", "DEPLOYMENT_MANIFEST_PATH"]

/-- The manifest path used when none is configured. -/
def defaultManifestPath : String := "deployment-addresses.json"

/-- The endpoint used when none is configured. -/
def defaultProviderUrl : String := "http://localhost:8545"

/-- Check values that read one by one but may not fit together. -/
def validate (c : Config) : Except ConfigError Unit := do
  if c.ledger.mode == .offline && c.environment.isProduction then throw .offlineInProduction
  if c.platform.fee.val > maxPlatformFee then
    throw (.validation ("PLATFORM_FEE_BPS must be at most " ++ toString maxPlatformFee ++
      " bps, got " ++ c.platform.fee.display))
  if c.platform.address.isZero then
    throw (.validation "PLATFORM_ADDRESS cannot be the zero address")
  if !c.retry.factor.isFinite || c.retry.factor < 1.0 then
    throw (.validation "BLOCKCHAIN_RETRY_BACKOFF_FACTOR must be a finite number >= 1")
  if c.retry.initialBackoffMs > c.retry.maxBackoffMs then
    throw (.validation "BLOCKCHAIN_RETRY_INITIAL_BACKOFF cannot exceed BLOCKCHAIN_RETRY_MAX_BACKOFF")
  if c.ledger.mode == .live && Blank.isBlankText c.ledger.providerUrl then
    throw (.validation "BLOCKCHAIN_PROVIDER_URL cannot be empty in live mode")

/-- Read the configuration from the variables `env` gives, then validate it. -/
def fromLookup (env : String → Option String) : Except ConfigError Config := do
  let maxAttempts ← readSettingOr env "BLOCKCHAIN_RETRY_MAX_ATTEMPTS" (readBounded 4294967295)
    RetryPolicy.standard.maxAttempts
  let initial ← readSettingOr env "BLOCKCHAIN_RETRY_INITIAL_BACKOFF"
    (readBounded 18446744073709551615) 1000
  let maximum ← readSettingOr env "BLOCKCHAIN_RETRY_MAX_BACKOFF"
    (readBounded 18446744073709551615) 10000
  let factor ← readSettingOr env "BLOCKCHAIN_RETRY_BACKOFF_FACTOR" readFloat
    RetryPolicy.standard.factor
  let retry := RetryPolicy.build ⟨some maxAttempts, some initial, some maximum, some factor⟩
  let owner ← readSettingOr env "OWNER_ADDRESS" readAddress (Address.ofLowU64 1)
  let fee ← readSettingOr env "PLATFORM_FEE_BPS" (readBounded 65535) 250
  let feeBps : Bps := (Bps.ofNat? fee).getD (Bps.lit 250)
  let platformAddress ← readSettingOr env "PLATFORM_ADDRESS" readAddress owner
  let registry ← readSetting env "CONTRACT_EVENT_REGISTRY_ADDRESS" readAddress
  let nft ← readSetting env "CONTRACT_TICKET_NFT_ADDRESS" readAddress
  let market ← readSetting env "CONTRACT_MARKETPLACE_ADDRESS" readAddress
  let contracts : Option ContractAddresses := do pure ⟨← registry, ← nft, ← market⟩
  let environment ← readSettingOr env "APP_ENV" AppEnvironment.read .development
  let mode ← readSettingOr env "LEDGER_MODE" LedgerMode.read .live
  let chainId ← readSettingOr env "CHAIN_ID" (readBounded 18446744073709551615) 31337
  let confirmations ← readSettingOr env "BLOCKCHAIN_CONFIRMATIONS" (readBounded 4294967295) 1
  let requestTimeout ← readSettingOr env "BLOCKCHAIN_REQUEST_TIMEOUT_MS"
    (readBounded 18446744073709551615) 30000
  let confirmationTimeout ← readSettingOr env "BLOCKCHAIN_CONFIRMATION_TIMEOUT_MS"
    (readBounded 18446744073709551615) 60000
  let config : Config := {
    environment := environment
    ledger := {
      mode := mode
      providerUrl := (setting env "BLOCKCHAIN_PROVIDER_URL").getD defaultProviderUrl
      credential := setting env "BLOCKCHAIN_PRIVATE_KEY"
      chainId := chainId
      confirmations := confirmations
      requestTimeoutMs := requestTimeout
      confirmationTimeoutMs := confirmationTimeout }
    contracts := contracts
    retry := retry
    owner := owner
    platform := ⟨feeBps, platformAddress⟩
    manifestPath := (setting env "DEPLOYMENT_MANIFEST_PATH").getD defaultManifestPath }
  config.validate
  pure config

/-- Switch to the offline ledger, if the environment allows it. -/
def intoOffline (c : Config) : Except ConfigError Config := do
  let c := { c with ledger := { c.ledger with mode := .offline } }
  c.validate
  pure c

/-- Take the manifest's contract addresses when it names all three. -/
def withManifest (c : Config) (m : DeploymentManifest) : Config :=
  match m.contractAddresses with
  | some addrs => { c with contracts := some addrs }
  | none => c

/-- The genesis of an offline ledger: the owner, the configured marketplace contract (or
the development one) and the platform. -/
def genesis (c : Config) : Genesis :=
  ⟨c.owner, (c.contracts.getD devContracts).marketplace, c.platform⟩

end Config

/-- What is found at the manifest's path. -/
inductive ManifestFile where
  | missing
  | unreadable (reason : String)
  | text (content : String)
  deriving DecidableEq, Repr

namespace Config

/-- Read the configuration, then take the manifest found at its path into account: a
missing manifest changes nothing, one that cannot be read or parsed is an error. -/
def load (env : String → Option String) (manifestAt : String → ManifestFile) :
    Except ConfigError Config := do
  let c ← fromLookup env
  match manifestAt c.manifestPath with
  | .missing => pure c
  | .unreadable reason => throw (.manifest c.manifestPath reason)
  | .text content =>
    match DeploymentManifest.read content with
    | .ok m => pure (c.withManifest m)
    | .error reason => throw (.manifest c.manifestPath reason)

end Config

end TicketMarket
