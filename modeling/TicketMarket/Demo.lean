import TicketMarket.Deployment
import TicketMarket.Config.Dotenv

/-! # The offline demonstration

One resale end to end on the offline ledger, as the command line runs it: a second buyer
is funded with 1000 wei, an organizer creates an event (royalty 500 bps, markup cap
1000 bps, issue price 100 wei) and mints seat A1 to a first buyer, who approves the
marketplace and lists the ticket at the 110 wei cap, and the second buyer pays 110 wei.
The settlement and the final balances are printed, and every transition fact the replica
broadcasts is printed as it arrives.

The configuration is loaded first and switched to the offline ledger; a configuration
that does not load ends the run with its error as the cause. A service call that fails
ends the run with the call's error. Either way the exit code is 1. -/
set_option autoImplicit false
namespace TicketMarket

/-- A line the demonstration prints: its own output, or a fact the replica printed. -/
inductive DemoLine where
  | out (text : String)
  | replica (text : String)
  deriving DecidableEq, Repr

/-- What a run of the demonstration printed and how it ended. `metrics` are the recorded
observations, oldest first, when the run got to print them. -/
structure DemoReport where
  lines : List DemoLine
  metrics : Option (List Metric)
  stderr : String
  exitCode : Nat

namespace Demo

/-- The banner printed before anything else. -/
def banner : List String :=
  ["", "============================================", "   TicketChain Settlement - Offline Demo",
   "============================================", ""]

/-- How a fact is printed by the replica's subscriber. -/
def factLine (f : TransitionFact) : String :=
  "   mirror: " ++ f.entityType.title ++ " #" ++ toString f.entityId ++ " -> " ++ f.newState.title

/-- An error as the command line reports it: its message, then its cause if it has one. -/
def errorReport (e : MarketplaceError) : String :=
  match e with
  | .execution (.exhausted _ src) | .execution (.fatal _ src) =>
    e.message ++ "\n\nCaused by:\n    " ++ src.message
  | _ => e.message

/-- The demonstration's script, printing as it goes and stopping at the first error. -/
abbrev Script := ExceptT String (StateT (Array DemoLine) App)

/-- Print a line. -/
def say (text : String) : Script Unit := modify (·.push (.out text))

/-- Print the facts the replica's subscriber has received. -/
def echoReplica : Script Unit := do
  match ← (Deployment.drainReplica : App _) with
  | some (got :: _) =>
    for r in got do
      match r with
      | .fact f => modify (·.push (.replica (factLine f)))
      | .lagged _ => pure ()
  | _ => pure ()

/-- Run a service call, stopping the script on failure. -/
def expect {α : Type} (x : App (Except MarketplaceError α)) : Script α := do
  let r ← (x : App _)
  echoReplica
  match r with
  | .ok a => pure a
  | .error e => throw (errorReport e)

/-- The output of a write that should have created something. -/
def created (call : String) : CallOutput → Script Nat
  | .eventCreated id => pure id.val
  | .ticketMinted id => pure id.val
  | .listingCreated id => pure id.val
  | other => throw (MarketplaceError.unexpectedResponse call other.describe).message

/-- The resale, printed step by step. -/
def script (operator platform : Address) : Script Unit := do
  let organizer := Address.ofLowU64 2
  let artist := Address.ofLowU64 3
  let buyer1 := Address.ofLowU64 4
  let buyer2 := Address.ofLowU64 5
  let _ ← (Deployment.fund buyer2 ⟨1000, by decide⟩ : App _)
  let chain ← expect Deployment.chainId
  say ("Chain id: " ++ toString chain)
  say ""
  say "1. Organizer creates the event"
  let draft : EventDraft := ⟨Fingerprint.ofRepeatedByte 0xab, 100, Bps.lit 500, Bps.lit 1000, artist,
    ⟨100, by decide⟩⟩
  let eventId ← expect (Deployment.perform organizer (.createEvent draft)) >>= created "create_event"
  say ("   event EventId(" ++ toString eventId ++ ") created")
  say ""
  say "2. Organizer mints seat A1 to buyer 1"
  let ticketId ← expect (Deployment.perform organizer (.mintTicket ⟨eventId⟩ buyer1 ⟨"A1"⟩ none))
    >>= created "mint_ticket"
  say ("   ticket TicketId(" ++ toString ticketId ++ ") minted")
  say ""
  say "3. Buyer 1 approves the marketplace and lists at the cap"
  let _ ← expect (Deployment.perform buyer1 (.approve ⟨ticketId⟩ (some operator)))
  let listingId ← expect (Deployment.perform buyer1 (.createListing ⟨ticketId⟩ ⟨110, by decide⟩))
    >>= created "create_listing"
  say ("   listing ListingId(" ++ toString listingId ++ ") active at 110 wei")
  say ""
  say "4. Buyer 2 purchases"
  let settlement ← match ← expect (Deployment.perform buyer2 (.purchaseListing ⟨listingId⟩ ⟨110, by decide⟩)) with
    | .purchased s => pure s
    | other => throw (MarketplaceError.unexpectedResponse "purchase_listing" other.describe).message
  say ("   royalty:  " ++ settlement.royalty.display)
  say ("   platform: " ++ settlement.platformCut.display)
  say ("   seller:   " ++ settlement.sellerProceeds.display)
  say ""
  say "5. Final state"
  let ticket ← match ← expect (Deployment.read (.ticket ⟨ticketId⟩)) with
    | .ticket (some t) => pure t
    | .ticket none => throw ("ticket TicketId(" ++ toString ticketId ++ ") vanished")
    | other => throw (MarketplaceError.unexpectedResponse "ticket" other.describe).message
  say ("   ticket owner: " ++ ticket.owner.render)
  let balance (a : Address) : Script String := do
    match ← expect (Deployment.read (.balance a)) with
    | .balance w => pure w.display
    | other => throw (MarketplaceError.unexpectedResponse "balance" other.describe).message
  say ("   artist balance:   " ++ (← balance artist))
  say ("   platform balance: " ++ (← balance platform))
  say ("   buyer 1 balance:  " ++ (← balance buyer1))
  say ("   buyer 2 balance:  " ++ (← balance buyer2))

/-- Run the demonstration with the variables `env` and the manifest found by
`manifestAt`. -/
def run (env : String → Option String) (manifestAt : String → ManifestFile) : DemoReport :=
  let head := banner.map DemoLine.out
  let failed (lines : List DemoLine) (report : String) : DemoReport :=
    ⟨lines, none, "Error: " ++ report ++ "\n", 1⟩
  match Config.load env manifestAt >>= Config.intoOffline with
  | .error e => failed head ("loading configuration\n\nCaused by:\n    " ++ e.message)
  | .ok c =>
    match Deployment.build c (.broadcast (Broadcast.create 256 1)) (fixedClock Instant.epoch) with
    | .error e => failed head e.message
    | .ok d =>
      let ((result, lines), d') := ((script c.genesis.marketplace c.platform.address).run.run #[]).run d
      let lines := head ++ lines.toList
      match result with
      | .ok () => ⟨lines, some d'.metrics.reverse, "", 0⟩
      | .error report => failed lines report

end Demo

end TicketMarket
