import PluggableHost.Lifecycle.State

namespace PluggableHost.Observability

/-!
# Metrics

Two counters and two gauges. A counter is read as its sum, a gauge as the value
that was set last.
-/

/-- The two times at which hooks run. -/
inductive Phase where
  | startup
  | shutdown
  deriving Repr, DecidableEq

/-- The phase's name as metrics show it. -/
def Phase.name : Phase → String
  | startup => "startup"
  | shutdown => "shutdown"

/-- An update of a metric. -/
inductive Metric where
  | transition (target : Lifecycle.State)
  /-- So many endpoints are published now. -/
  | registeredEndpoints (count : Nat)
  | hookFailure (phase : Phase)
  /-- So many listeners are open now. -/
  | openListeners (count : Nat)
  deriving Repr, DecidableEq

namespace Metric

/-- The name that metrics of a kind share. -/
def family : Metric → String
  | transition _ => "server_lifecycle_transitions_total"
  | registeredEndpoints _ => "server_registered_endpoints"
  | hookFailure _ => "server_hook_failures_total"
  | openListeners _ => "server_listeners_open"

/-- The label that tells metrics of one kind apart, with its value. -/
def label? : Metric → Option (String × String)
  | transition target => some ("state", target.name)
  | hookFailure phase => some ("phase", phase.name)
  | _ => none

/-- The family with the label, the value written as asked for. -/
def labelled (write : String → String) (metric : Metric) : String :=
  match metric.label? with
  | some (label, value) => metric.family ++ "\x7b" ++ label ++ "=" ++ write value ++ "\x7d"
  | none => metric.family

/-- The name that the metric is read under. -/
def name (metric : Metric) : String := metric.labelled id

/-- The name that the metric is collected under. -/
def series (metric : Metric) : String := metric.labelled fun value => "\"" ++ value ++ "\""

/-- The reading of a metric after one more update. -/
def updated (reading : Nat) : Metric → Nat
  | transition _ => reading + 1
  | hookFailure _ => reading + 1
  | registeredEndpoints count => count
  | openListeners count => count

/-- The readings after one more update, under the names that are given to metrics. -/
def record (nameOf : Metric → String) (readings : List (String × Nat)) (metric : Metric) :
    List (String × Nat) :=
  match readings with
  | [] => [(nameOf metric, metric.updated 0)]
  | (known, reading) :: rest =>
      if known = nameOf metric then (known, metric.updated reading) :: rest
      else (known, reading) :: record nameOf rest metric

/-- The readings of all metrics that were touched. -/
def readings (metrics : List Metric) (nameOf : Metric → String := name) : List (String × Nat) :=
  metrics.foldl (record nameOf) []

/-- The readings as they are collected, one on each line. -/
def exposition (metrics : List Metric) : String :=
  String.join ((readings metrics series).map fun (series, reading) =>
    series ++ " " ++ toString reading ++ "\n")

end Metric

end PluggableHost.Observability
