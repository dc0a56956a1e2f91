import TicketMarket.Demo

/-! # The command line

Runs the offline demonstration in the current directory: variables from `.env` are added
to the environment without replacing any that are set, the configuration is read from the
environment and its deployment manifest, and the resale is printed, followed by the
recorded metrics. Errors go to standard error and make the exit code 1. -/
set_option autoImplicit false

open TicketMarket

/-- The text of a file, or `none` when it cannot be read. -/
def readText (path : String) : IO (Option String) := do
  try
    pure (some (← IO.FS.readFile path))
  catch _ =>
    pure none

/-- What reading the manifest at `path` gives. -/
def probeManifest (path : String) : IO ManifestFile := do
  try
    pure (.text (← IO.FS.readFile path))
  catch e =>
    match e with
    | .noFileOrDirectory .. => pure .missing
    | other => pure (.unreadable (toString other))

/-- Run the demonstration and print what it printed. -/
def main : IO UInt32 := do
  let dotenv ← readText ".env"
  let names := Config.variableNames ++ (dotenv.map Dotenv.mentions).getD []
  let mut known : List (String × String) := []
  for name in names do
    if let some v ← IO.getEnv name then
      known := known ++ [(name, v)]
  let given := known
  let loaded := match dotenv with
    | some text => Dotenv.load (fun k => given.lookup k) text
    | none => []
  let env (k : String) : Option String := (given.lookup k).orElse fun _ => loaded.lookup k
  let path := (setting env "DEPLOYMENT_MANIFEST_PATH").getD Config.defaultManifestPath
  let manifest ← probeManifest path
  let report := Demo.run env fun p => if p == path then manifest else .missing
  for line in report.lines do
    match line with
    | .out text | .replica text => IO.println text
  if let some ms := report.metrics then
    IO.println ("\n--- metrics ---\n" ++ exposition ms)
  (← IO.getStdout).flush
  IO.eprint report.stderr
  pure (UInt32.ofNat report.exitCode)
