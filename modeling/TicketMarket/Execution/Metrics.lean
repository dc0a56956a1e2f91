import TicketMarket.Ledger.Error

/-! # Executor metrics

What the executor counts: every physical attempt, every retry it schedules, every session
reset after contention, every lookup of an operation after its attempts failed, every
final failure and rejection, and one duration sample per submitted call. A `Metric` is one
such observation; `Tally` adds them up per series, a series being a metric name with its
labels. Labels are kept in order of their keys. -/
set_option autoImplicit false
namespace TicketMarket

/-- What a lookup after failed attempts found. -/
inductive LookupOutcome where
  | landed
  | absent
  | reverted
  | unavailable
  deriving DecidableEq, Repr

/-- The label value of a lookup outcome. -/
def LookupOutcome.name : LookupOutcome → String
  | .landed => "landed"
  | .absent => "absent"
  | .reverted => "reverted"
  | .unavailable => "unavailable"

/-- One observation the executor records. -/
inductive Metric where
  | attempt (operation : String)
  | retry (operation code : String)
  | sessionReset (ok : Bool)
  | lookup (outcome : LookupOutcome)
  | failure (operation code : String)
  | rejection (operation code : String)
  | duration (operation : String)
  deriving DecidableEq, Repr

/-- The kind of a metric family. -/
inductive MetricType where
  | counter
  | histogram
  deriving DecidableEq, Repr

/-- The exposition name of a metric type. -/
def MetricType.name : MetricType → String
  | .counter => "counter"
  | .histogram => "histogram"

/-- A metric name with its labels, keys in order. -/
structure Series where
  name : String
  labels : List (String × String)
  deriving DecidableEq, Repr

namespace Metric

/-- The family a metric belongs to. -/
def family : Metric → String
  | .attempt _ => "ticketchain_ledger_attempts_total"
  | .retry _ _ => "ticketchain_ledger_retries_total"
  | .sessionReset _ => "ticketchain_ledger_session_resets_total"
  | .lookup _ => "ticketchain_ledger_reconciliations_total"
  | .failure _ _ => "ticketchain_ledger_failures_total"
  | .rejection _ _ => "ticketchain_ledger_rejections_total"
  | .duration _ => "ticketchain_ledger_operation_duration_seconds"

/-- The type of a metric's family. -/
def type : Metric → MetricType
  | .duration _ => .histogram
  | _ => .counter

/-- The series a metric counts in; a duration sample counts in its histogram's count. -/
def series : Metric → Series
  | .attempt op => ⟨"ticketchain_ledger_attempts_total", [("operation", op)]⟩
  | .retry op c => ⟨"ticketchain_ledger_retries_total", [("code", c), ("operation", op)]⟩
  | .sessionReset ok =>
    ⟨"ticketchain_ledger_session_resets_total", [("outcome", if ok then "ok" else "failed")]⟩
  | .lookup o => ⟨"ticketchain_ledger_reconciliations_total", [("outcome", o.name)]⟩
  | .failure op c => ⟨"ticketchain_ledger_failures_total", [("code", c), ("operation", op)]⟩
  | .rejection op c => ⟨"ticketchain_ledger_rejections_total", [("code", c), ("operation", op)]⟩
  | .duration op => ⟨"ticketchain_ledger_operation_duration_seconds_count", [("operation", op)]⟩

end Metric

/-- The help text of a metric family. -/
def familyHelp : String → String
  | "ticketchain_ledger_attempts_total" => "Total number of physical ledger attempts"
  | "ticketchain_ledger_retries_total" =>
    "Total number of retries scheduled after a transient failure"
  | "ticketchain_ledger_session_resets_total" =>
    "Total number of session resets after nonce or fee contention"
  | "ticketchain_ledger_reconciliations_total" =>
    "Total number of operation lookups after exhausted attempts"
  | "ticketchain_ledger_failures_total" =>
    "Total number of operations that failed after all attempts"
  | "ticketchain_ledger_rejections_total" => "Total number of calls rejected by the settlement rules"
  | "ticketchain_ledger_operation_duration_seconds" => "Time from first attempt to final outcome"
  | _ => ""

/-- Lexicographic order on lists of label pairs. -/
def labelsLe : List (String × String) → List (String × String) → Bool
  | [], _ => true
  | _ :: _, [] => false
  | (k, v) :: r, (k', v') :: r' =>
    if k < k' then true else if k' < k then false
    else if v < v' then true else if v' < v then false
    else labelsLe r r'

/-- Series ordered by name, then by labels. -/
def Series.le (a b : Series) : Bool :=
  if a.name < b.name then true else if b.name < a.name then false else labelsLe a.labels b.labels

/-- Counts per series. -/
abbrev Tally := List (Series × Nat)

/-- Add one to a series. -/
def Tally.bump (t : Tally) (s : Series) : Tally :=
  match t with
  | [] => [(s, 1)]
  | (s', n) :: rest => if s' = s then (s', n + 1) :: rest else (s', n) :: bump rest s

/-- The counts of a list of observations, ordered by series. -/
def Tally.ofMetrics (ms : List Metric) : Tally :=
  (ms.foldl (fun t m => Tally.bump t m.series) []).mergeSort fun a b => a.1.le b.1

/-- The families of a list of observations, each once, with its type. -/
def families (ms : List Metric) : List (String × MetricType) :=
  ms.foldl (fun acc m => if acc.any (·.1 == m.family) then acc else acc ++ [(m.family, m.type)]) []

/-- The upper bounds of the duration buckets, in seconds, as the exposition spells them. -/
def durationBuckets : List String :=
  ["0.001", "0.005", "0.01", "0.025", "0.05", "0.1", "0.25", "0.5", "1", "2.5", "5", "10", "30",
   "+Inf"]

/-- Labels in the exposition format, quoted and comma separated inside braces. -/
def labelText (labels : List (String × String)) : String :=
  if labels.isEmpty then ""
  else "\x7b" ++ ",".intercalate (labels.map fun (k, v) => k ++ "=\"" ++ v ++ "\"") ++ "\x7d"

/-- The sample lines of one series. A duration series is a histogram whose samples are all
far below the smallest bucket, so every bucket holds all of them and their sum rounds to 0. -/
def sampleLines (family : String) (type : MetricType) (s : Series) (n : Nat) : List String :=
  match type with
  | .counter => [family ++ labelText s.labels ++ " " ++ toString n]
  | .histogram =>
    durationBuckets.map (fun le => family ++ "_bucket" ++ labelText (s.labels ++ [("le", le)]) ++
        " " ++ toString n) ++
      [family ++ "_sum" ++ labelText s.labels ++ " 0", family ++ "_count" ++ labelText s.labels ++
        " " ++ toString n]

/-- The observations as text in the exposition format: each family, counters first and
then histograms, each kind by name, with its help and type lines, its samples in series
order and a blank line after it. -/
def exposition (ms : List Metric) : String :=
  let tally := Tally.ofMetrics ms
  let fams := (families ms).mergeSort fun a b =>
    match a.2, b.2 with
    | .counter, .histogram => true
    | .histogram, .counter => false
    | _, _ => decide (a.1 ≤ b.1)
  let block (f : String × MetricType) : String :=
    let samples := tally.filter fun (s, _) =>
      s.name == f.1 || s.name == f.1 ++ "_count"
    "\n".intercalate (["# HELP " ++ f.1 ++ " " ++ familyHelp f.1, "# TYPE " ++ f.1 ++ " " ++ f.2.name] ++
      samples.flatMap fun (s, n) => sampleLines f.1 f.2 s n) ++ "\n\n"
  String.join (fams.map block)

/-! ## The recorder

A process has one slot for its metrics recorder. `MetricsRecorder.install` tries to take
it; when another recorder holds it already, installing succeeds without a handle, as it
does in tests that install a recorder more than once, and such a recorder renders
nothing. -/

/-- Why a recorder could not be built or installed. -/
inductive MetricsError where
  | build (detail : String)
  | install (detail : String)
  deriving DecidableEq, Repr

/-- The text of a recorder error. -/
def MetricsError.message : MetricsError → String
  | .build d => "Failed to build metrics exporter: " ++ d
  | .install d => "Failed to install metrics exporter: " ++ d

/-- Take the process-wide slot, whose state says whether it is taken: a free slot is taken,
a taken one refuses with the text the metrics system gives. -/
def takeRecorderSlot : StateM Bool (Except String Unit) := fun taken =>
  if taken then
    (.error "attempted to set a recorder after the metrics system was already initialized", true)
  else (.ok (), true)

/-- A recorder, and whether it holds the handle of the recorder it installed. -/
structure MetricsRecorder where
  hasHandle : Bool
  deriving DecidableEq, Repr

namespace MetricsRecorder

/-- A recorder not installed yet. -/
def new : MetricsRecorder := ⟨false⟩

/-- Install the recorder in the process-wide slot. Taking the slot gives the recorder its
handle; a slot already initialized is skipped with success and leaves the recorder
without one; any other refusal is an installation error. -/
def install (r : MetricsRecorder) : StateM Bool (Except MetricsError Unit × MetricsRecorder) := do
  match ← takeRecorderSlot with
  | .ok () => pure (.ok (), { r with hasHandle := true })
  | .error e =>
    if LedgerError.occursIn "already initialized" e then pure (.ok (), r)
    else pure (.error (.install e), r)

/-- The observations recorded in the process so far, in the exposition format; nothing
without a handle. -/
def render (r : MetricsRecorder) (ms : List Metric) : Option String :=
  if r.hasHandle then some (exposition ms) else none

end MetricsRecorder

end TicketMarket
