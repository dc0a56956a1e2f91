import TicketMarket.Execution.Executor
import TicketMarket.Settlement.Rules
import TicketMarket.Fact

/-! # The marketplace service

Typed settlement operations over an executor. Every write takes the same path: the
call's own arguments are checked locally first, so a call that can never succeed is
refused without reaching the ledger; then it is executed and confirmed; then the facts of
its logs go to the replica; and last its output is handed back, after checking it is the
kind the operation makes. Replica delivery is best effort: a failed delivery is dropped
and never fails the operation. Reads go through the executor's retries as well, and are
advisory: only the ledger decides conflicts. -/
set_option autoImplicit false
namespace TicketMarket

/-- Why a marketplace operation failed. -/
inductive MarketplaceError where
  | preflight (reason : Rejection)
  | execution (error : ExecutionError)
  | unexpectedResponse (operation : String) (detail : String)
  deriving DecidableEq, Repr

namespace MarketplaceError

/-- The snake-case name of the variant. -/
def variantName : MarketplaceError → String
  | .preflight _ => "preflight"
  | .execution _ => "execution"
  | .unexpectedResponse _ _ => "unexpected_response"

/-- The machine code. -/
def code : MarketplaceError → String
  | .preflight r => r.code
  | .execution e => e.code
  | .unexpectedResponse _ _ => "UNEXPECTED_RESPONSE"

/-- The class of the failure. -/
def kind : MarketplaceError → ErrorKind
  | .preflight r => r.kind
  | .execution e => e.kind
  | .unexpectedResponse _ _ => .infrastructure

/-- The attempts made, for infrastructure failures of the ledger. -/
def attempts? : MarketplaceError → Option Nat
  | .execution e => e.attempts?
  | _ => none

/-- The settlement rule that refused the operation, locally or on the ledger. -/
def rejection? : MarketplaceError → Option Rejection
  | .preflight r => some r
  | .execution e => e.rejection?
  | .unexpectedResponse _ _ => none

/-- The human-readable message. -/
def message : MarketplaceError → String
  | .preflight r => r.message
  | .execution e => e.message
  | .unexpectedResponse op detail => "Unexpected ledger response to " ++ op ++ ": " ++ detail

end MarketplaceError

/-- A short description of a call output, for reports of an unexpected one. -/
def CallOutput.describe : CallOutput → String
  | .eventCreated id => "EventCreated(" ++ toString id.val ++ ")"
  | .ticketMinted id => "TicketMinted(" ++ toString id.val ++ ")"
  | .listingCreated id => "ListingCreated(" ++ toString id.val ++ ")"
  | .purchased _ => "Purchased"
  | .empty => "Empty"

/-- A short description of a query response, for reports of an unexpected one. -/
def QueryResponse.describe : QueryResponse → String
  | .event _ => "Event"
  | .ticket _ => "Ticket"
  | .listing _ => "Listing"
  | .flag b => "Flag(" ++ toString b ++ ")"
  | .listingIds _ => "ListingIds"
  | .listings _ => "Listings"
  | .tickets _ => "Tickets"
  | .balance w => "Balance(" ++ toString w.val ++ ")"
  | .platform _ => "Platform"

/-- Whether an output is the kind a call makes: a new id for creating an event, a ticket
or a listing, a settlement for a purchase, nothing for every other call. -/
def LedgerCall.fitsOutput : LedgerCall → CallOutput → Bool
  | .createEvent _, .eventCreated _ => true
  | .mintTicket .., .ticketMinted _ => true
  | .createListing .., .listingCreated _ => true
  | .purchaseListing .., .purchased _ => true
  | .createEvent _, _ | .mintTicket .., _ | .createListing .., _ | .purchaseListing .., _ => false
  | _, .empty => true
  | _, _ => false

/-- Whether a response is the kind a query asks for. -/
def LedgerQuery.fitsResponse : LedgerQuery → QueryResponse → Bool
  | .event _, .event _ | .ticket _, .ticket _ | .listing _, .listing _ => true
  | .isSeatMinted .., .flag _ | .isMinter .., .flag _ => true
  | .activeListings, .listingIds _ | .listingsBySeller _, .listings _ => true
  | .ticketsByOwner _, .tickets _ | .balance _, .balance _ | .platform, .platform _ => true
  | _, _ => false

/-- A service over an executor that publishes facts through `publish`. -/
structure Marketplace (m : Type → Type) where
  effects : Effects m
  executor : Executor
  publish : TransitionFact → m (Except ReplicaError Unit)

namespace Marketplace

variable {m : Type → Type} [Monad m] (svc : Marketplace m)

/-- Hand the facts of a receipt's logs to the replica, one by one, ignoring failures. -/
def publishReceipt (receipt : Receipt) : m Unit :=
  (TransitionFact.ofLogs receipt.logs receipt.timestamp).forM fun fact => do
    let _ ← svc.publish fact
    pure ()

/-- Perform a write for `caller`: check, execute, publish, and check the output's kind. -/
def perform (caller : Address) (call : LedgerCall) : m (Except MarketplaceError CallOutput) := do
  match validateCall call with
  | .error reason => pure (.error (.preflight reason))
  | .ok () =>
    match ← Executor.execute svc.effects svc.executor caller call with
    | .error e => pure (.error (.execution e))
    | .ok executed => do
      svc.publishReceipt executed.receipt
      let output := executed.receipt.output
      if call.fitsOutput output then pure (.ok output)
      else pure (.error (.unexpectedResponse call.name output.describe))

/-- Perform a read, checking the response's kind. -/
def read (q : LedgerQuery) : m (Except MarketplaceError QueryResponse) := do
  match ← Executor.query svc.effects svc.executor q with
  | .error e => pure (.error (.execution e))
  | .ok response =>
    if q.fitsResponse response then pure (.ok response)
    else pure (.error (.unexpectedResponse q.readName response.describe))

/-- The chain id of the connected ledger. -/
def chainId : m (Except MarketplaceError Nat) := do
  match ← Executor.chainId svc.effects svc.executor with
  | .error e => pure (.error (.execution e))
  | .ok n => pure (.ok n)

end Marketplace

end TicketMarket
