import TicketMarket.Wire.Rpc
import TicketMarket.Ledger.Client
import TicketMarket.Json.Read
import TicketMarket.Json.Write
import TicketMarket.Text.Integer
import TicketMarket.Text.Escape

/-! # The JSON-RPC ledger client

A ledger gateway signs and relays calls for the configured credential. Every request is a
POST of a JSON-RPC 2.0 envelope with a fresh id; a rejection by the settlement rules comes
back as an error object whose `data` is the rejection's wire form.

An answer is read in this order. A status of 429 is rate limiting, any other 5xx a server
error, and any other status outside 2xx an invalid response. A body that is no envelope is
an invalid response; an error object is a revert when its `data` is a rejection, and is
otherwise sorted by `LedgerError.classifyRpc`; a missing result counts as `null`; and a
result of the wrong shape is an invalid response naming the method. A transport failure is
a timeout or a network error carrying the transport's text.

Without a credential the client is read-only: it refuses to submit, sending nothing.
Waiting for confirmations polls for the receipt until it has enough of them, pausing
between polls, and gives up with a timeout once the confirmation time has passed; a
gateway that does not know the transaction makes it an unknown transaction. -/
set_option autoImplicit false
namespace TicketMarket

/-- An HTTP request carrying a JSON body. -/
structure HttpRequest where
  url : String
  authorization : Option String
  body : Json

/-- An HTTP response. -/
structure HttpResponse where
  status : Nat
  body : String

/-- Why a request got no response. -/
inductive TransportFault where
  | timedOut (text : String)
  | failed (text : String)
  deriving DecidableEq, Repr

/-- How to reach a gateway. Times are in milliseconds. -/
structure RpcConfig where
  endpoint : String
  credential : Option String
  requestTimeoutMs : Nat := 30000
  pollIntervalMs : Nat := 500
  confirmationTimeoutMs : Nat := 60000
  contracts : Option ContractAddresses := none

/-- What the client needs from the world: a way to send a request, a source of request
ids, a clock in milliseconds and a way to pause. -/
structure RpcNetwork (m : Type → Type) where
  send : HttpRequest → m (Except TransportFault HttpResponse)
  nextId : m Nat
  now : m Nat
  sleep : Nat → m Unit

namespace Rpc

/-- How a decoder names a JSON value it did not expect. -/
def unexpectedText : Json → String
  | .null => "null"
  | .bool b => "boolean " ++ String.singleton (Char.ofNat 96) ++ toString b ++ String.singleton (Char.ofNat 96)
  | .num n =>
    let tick := String.singleton (Char.ofNat 96)
    match n with
    | .unsigned k => "integer " ++ tick ++ toString k ++ tick
    | .negative k => "integer " ++ tick ++ toString k ++ tick
    | .float f => "floating point " ++ tick ++ Json.render (.num (.float f)) ++ tick
  | .str s => "string " ++ Escape.quoteText s
  | .arr _ => "sequence"
  | .obj _ => "map"

/-- The complaint about a value of the wrong type. -/
def invalidType (j : Json) (expected : String) : String :=
  "invalid type: " ++ unexpectedText j ++ ", expected " ++ expected

/-- A name in the quotes decoders use. -/
def ticked (name : String) : String :=
  String.singleton (Char.ofNat 96) ++ name ++ String.singleton (Char.ofNat 96)

/-- A string result. -/
def decodeString : Json → Except String String
  | .str s => .ok s
  | j => .error (invalidType j "a string")

/-- The members of an object under `key`, refusing a repeated one. -/
def member (members : List (String × Json)) (key : String) : Except String (Option Json) :=
  match members.filter (·.1 == key) with
  | [] => .ok none
  | [(_, v)] => .ok (some v)
  | _ => .error ("duplicate field " ++ ticked key)

/-- The answer to a submission: the transaction hash. -/
def decodeSent : Json → Except String TxHash
  | .obj members => do
    match ← member members "tx_hash" with
    | none => throw ("missing field " ++ ticked "tx_hash")
    | some v =>
      let s ← decodeString v
      (TxHash.parse s).mapError HexValueError.message
  | j => .error (invalidType j "struct SentCall")

/-- A result decoded by `f`, with `what` naming the expected shape on failure. -/
def decodeWith {α : Type} (what : String) (f : Json → Option α) (j : Json) : Except String α :=
  match f j with
  | some a => .ok a
  | none => .error ("invalid value: expected " ++ what)

/-- A receipt with its confirmation count, or `null`. -/
def decodeEnvelope : Json → Except String (Option (Receipt × Nat))
  | .null => .ok none
  | j => decodeWith "struct ReceiptEnvelope" (fun j => do
      let r ← Wire.req j "receipt" Wire.fullReceipt?
      let c ← Wire.req j "confirmations" Wire.uint32?
      pure (some (r, c))) j

/-- A receipt, or `null`. -/
def decodeReceipt : Json → Except String (Option Receipt)
  | .null => .ok none
  | j => decodeWith "struct Receipt" (fun j => some <$> Wire.fullReceipt? j) j

/-- An error object of an envelope. -/
structure ErrorObject where
  code : Int
  message : String
  data : Option Json

/-- The ledger error an error object stands for. -/
def ErrorObject.toLedgerError (e : ErrorObject) : LedgerError :=
  match e.data >>= Wire.rejection? with
  | some reason => .reverted reason
  | none => LedgerError.classifyRpc e.code e.message

/-- An error object: an integer `code`, a string `message` and perhaps `data`. -/
def errorObject? : Json → Option ErrorObject
  | .obj members => do
    let code ← (member members "code").toOption >>= id >>= Wire.int64?
    let message ← (member members "message").toOption >>= id >>= Json.str?
    let data ← (member members "data").toOption
    let data := match data with
      | some .null => none
      | d => d
    pure ⟨code, message, data⟩
  | _ => none

/-- An envelope: its result (`null` when missing) and its error object, if any. -/
def envelope? : Json → Option (Json × Option ErrorObject)
  | .obj members => do
    let result ← (member members "result").toOption
    let error ← (member members "error").toOption
    let error ← match error with
      | none | some .null => pure none
      | some e => some <$> errorObject? e
    pure (result.getD .null, error)
  | _ => none

/-- Read a response to `method`, decoding its result with `decode`. -/
def interpret {α : Type} (method : String) (decode : Json → Except String α) (r : HttpResponse) :
    Except LedgerError α :=
  if 200 ≤ r.status && r.status < 300 then
    match Json.parse r.body >>= envelope? with
    | none => .error (.invalidResponse "error decoding response body")
    | some (_, some e) => .error e.toLedgerError
    | some (result, none) => (decode result).mapError fun m => .invalidResponse (method ++ ": " ++ m)
  else if r.status == 429 then .error (.rateLimited r.body)
  else if 500 ≤ r.status && r.status < 600 then .error (.server r.status r.body)
  else .error (.invalidResponse ("HTTP " ++ toString r.status ++ ": " ++ r.body))

/-- The chain id in hex, after one lower-case `0x`. -/
def parseQuantity (raw : String) : Except LedgerError Nat :=
  let digits := if raw.startsWith "0x" then (raw.drop 2).toString else raw
  match Integer.read 16 18446744073709551615 digits with
  | .ok n => .ok n
  | .error e => .error (.invalidResponse ("chain id " ++ Escape.quoteText raw ++ ": " ++ e.message))

/-- A duration in milliseconds in the usual short form: `0ns`, `250ms`, `5s`, `1.5s`. -/
def durationText (ms : Nat) : String :=
  if ms == 0 then "0ns"
  else if ms < 1000 then toString ms ++ "ms"
  else
    let frac := ms % 1000
    if frac == 0 then toString (ms / 1000) ++ "s"
    else
      let digits := ((toString (frac + 1000)).drop 1).toString
      let digits := String.ofList (digits.toList.reverse.dropWhile (· == '0')).reverse
      toString (ms / 1000) ++ "." ++ digits ++ "s"

variable {m : Type → Type} [Monad m] (cfg : RpcConfig) (net : RpcNetwork m)

/-- Send one request and read its answer. -/
def call {α : Type} (method : String) (params : Json) (decode : Json → Except String α) :
    m (Except LedgerError α) := do
  let id ← net.nextId
  let body : Json := .obj [("jsonrpc", .str "2.0"), ("id", Json.nat id), ("method", .str method),
    ("params", params)]
  match ← net.send ⟨cfg.endpoint, cfg.credential.map ("Bearer " ++ ·), body⟩ with
  | .error (.timedOut t) => pure (.error (.timeout t))
  | .error (.failed t) => pure (.error (.network t))
  | .ok response => pure (interpret method decode response)

/-- Whether the client has no credential to sign with. -/
def isReadOnly : Bool := cfg.credential.isNone

/-- Poll for a receipt with at least `confirmations`, at most `fuel` more times. -/
def poll (h : TxHash) (confirmations deadline : Nat) : Nat → m (Except LedgerError Receipt)
  | 0 => pure (.error (.timeout ("transaction " ++ h.render ++ " not confirmed within " ++
      durationText cfg.confirmationTimeoutMs)))
  | fuel + 1 => do
    let found ← call cfg net "ticketchain_getReceipt" (.arr [.str h.render]) decodeEnvelope
    match found with
    | .error e =>
      match e with
      | .rpc _ msg =>
        if LedgerError.occursIn "unknown transaction" (LedgerError.asciiLower msg) then
          pure (.error (.unknownTransaction h))
        else pure (.error e)
      | _ => pure (.error e)
    | .ok found =>
      match found with
      | some (receipt, c) =>
        if c ≥ confirmations then pure (.ok receipt) else next fuel
      | none => next fuel
where
  /-- Give up once the deadline has passed, else pause and poll again. -/
  next (fuel : Nat) : m (Except LedgerError Receipt) := do
    if (← net.now) ≥ deadline then
      pure (.error (.timeout ("transaction " ++ h.render ++ " not confirmed within " ++
        durationText cfg.confirmationTimeoutMs)))
    else do
      net.sleep cfg.pollIntervalMs
      poll h confirmations deadline fuel

/-- The client as a ledger. -/
def client : LedgerClient m where
  chainId := do
    match ← call cfg net "eth_chainId" (.arr []) decodeString with
    | .ok raw => pure (parseQuantity raw)
    | .error e => pure (.error e)
  submit sub := do
    if isReadOnly cfg then pure (.error .readOnly)
    else
      let params := Json.arr [Wire.submission sub, Wire.route sub.call.target cfg.contracts]
      match ← call cfg net "ticketchain_sendCall" params decodeSent with
      | .ok h => pure (.ok ⟨h, sub.operationId⟩)
      | .error e => pure (.error e)
  waitFor tx confirmations := do
    let start ← net.now
    let polls := cfg.confirmationTimeoutMs / Nat.max 1 cfg.pollIntervalMs + 2
    poll cfg net tx confirmations (start + cfg.confirmationTimeoutMs) polls
  findReceipt op :=
    call cfg net "ticketchain_getReceiptByOperation" (.arr [.str op.render]) decodeReceipt
  query q := call cfg net "ticketchain_query" (.arr [Wire.query q])
    (decodeWith "enum QueryResponse" Wire.queryResponse?)

end Rpc

end TicketMarket
