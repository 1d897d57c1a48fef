import ClusterQuery.Metrics.Basic
import ClusterQuery.Number.Layout

/-!
# Exposition

The text form of the metrics. Families stand in the order of their full names, each with its
help and type; a family without samples is left out, the gauge is always there. Samples are in
the order of their label values, the labels of a sample in the order of their names.
-/

namespace ClusterQuery

/-- What all full names begin with. -/
def metricNamespace : String := "cluster_actuator_"

namespace Counter

def all : List Counter :=
  [.discoveryRequests, .fetchRequests, .aggregations, .partialFailures, .forbidden]

def name : Counter → String
  | .discoveryRequests => "discovery_requests_total"
  | .fetchRequests => "fetch_requests_total"
  | .aggregations => "aggregations_total"
  | .partialFailures => "partial_failures_total"
  | .forbidden => "forbidden_total"

def help : Counter → String
  | .discoveryRequests => "Endpoint directory resolutions by outcome."
  | .fetchRequests => "Peer sub-requests by record kind and outcome."
  | .aggregations => "Aggregation calls by record kind and outcome."
  | .partialFailures => "Peers left out of an aggregation result by record kind and error type."
  | .forbidden => "Calls rejected for a missing capability."

/-- The names of a counter's labels, in the order in which their values are given. -/
def labelNames : Counter → List String
  | .discoveryRequests => ["outcome"]
  | .fetchRequests => ["kind", "outcome"]
  | .aggregations => ["kind", "outcome"]
  | .partialFailures => ["kind", "error_type"]
  | .forbidden => ["capability"]

end Counter

namespace Timer

def all : List Timer := [.fetchDuration, .aggregationDuration]

def name : Timer → String
  | .fetchDuration => "fetch_duration_seconds"
  | .aggregationDuration => "aggregation_duration_seconds"

def help : Timer → String
  | .fetchDuration => "Peer sub-request duration by record kind."
  | .aggregationDuration => "End-to-end aggregation duration by record kind."

def labelNames : Timer → List String
  | _ => ["kind"]

end Timer

namespace Metrics

abbrev Label := String × String

/-- One character of a label value, escaped where the text form needs it. -/
def escapeChar (c : Char) : List Char :=
  if c = '\\' then ['\\', '\\']
  else if c = '\n' then ['\\', 'n']
  else if c = '"' then ['\\', '"']
  else [c]

/-- A label with its value in quotes. -/
def labelText (label : Label) : String :=
  label.1 ++ "=\"" ++ String.ofList (label.2.toList.flatMap escapeChar) ++ "\""

/-- Labels in braces; nothing where there are none. -/
def labelsText (labels : List Label) : String :=
  if labels.isEmpty then "" else "\x7b" ++ ",".intercalate (labels.map labelText) ++ "\x7d"

/-- Values paired with the names of their labels, in the order of the names. -/
def labelled (names values : List String) : List Label :=
  (names.zip values).mergeSort fun left right => left.1 ≤ right.1

/-- Order of samples: by their label values, the first that differs deciding. -/
def labelsAtMost : List Label → List Label → Bool
  | [], _ => true
  | _ :: _, [] => false
  | left :: lefts, right :: rights =>
      left.2 < right.2 || (left.2 = right.2 && labelsAtMost lefts rights)

/-- The samples of a counter: labels and count. -/
def counterSamples (metrics : Metrics) (counter : Counter) : List (List Label × Nat) :=
  (metrics.counts.filterMap fun ((other, values), count) =>
    if other = counter then some (labelled counter.labelNames values, count) else none).mergeSort
      fun left right => labelsAtMost left.1 right.1

def timerSamples (metrics : Metrics) (timer : Timer) : List (List Label × Histogram) :=
  (metrics.durations.filterMap fun ((other, values), histogram) =>
    if other = timer then some (labelled timer.labelNames values, histogram) else none).mergeSort
      fun left right => labelsAtMost left.1 right.1

def countText (count : Nat) : String := (Binary64.ofNat count).plainText

def line (name : String) (labels : List Label) (value : String) : String :=
  metricNamespace ++ name ++ labelsText labels ++ " " ++ value ++ "\n"

/-- The lines of a histogram's sample: the buckets, each with the samples of the earlier ones,
the bucket without bound, the sum and the count. -/
def histogramLines (timer : Timer) (labels : List Label) (histogram : Histogram) : String :=
  let bucket (bound : String) (count : Nat) :=
    line (timer.name ++ "_bucket") (labels ++ [("le", bound)]) (countText count)
  let rec cumulate (before : Nat) : List Binary64 → List Nat → String
    | bound :: bounds, count :: counts =>
        bucket bound.plainText (before + count) ++ cumulate (before + count) bounds counts
    | _, _ => ""
  cumulate 0 timer.bounds histogram.buckets ++
    bucket "+Inf" histogram.samples ++
    line (timer.name ++ "_sum") labels histogram.sum.plainText ++
    line (timer.name ++ "_count") labels (countText histogram.samples)

/-- A family: its name, its text, and whether it has samples. -/
structure Family where
  name : String
  text : String
  hasSamples : Bool

/-- The two lines before a family's samples. -/
def header (name help sort : String) : String :=
  "# HELP " ++ metricNamespace ++ name ++ " " ++ help ++ "\n" ++
    "# TYPE " ++ metricNamespace ++ name ++ " " ++ sort ++ "\n"

def counterFamily (metrics : Metrics) (counter : Counter) : Family :=
  let samples := metrics.counterSamples counter
  let lines := samples.map fun (labels, count) => line counter.name labels (countText count)
  ⟨counter.name, header counter.name counter.help "counter" ++ String.join lines,
    !samples.isEmpty⟩

def timerFamily (metrics : Metrics) (timer : Timer) : Family :=
  let samples := metrics.timerSamples timer
  let lines := samples.map fun (labels, histogram) => histogramLines timer labels histogram
  ⟨timer.name, header timer.name timer.help "histogram" ++ String.join lines, !samples.isEmpty⟩

def gaugeName : String := "endpoints_discovered"

def gaugeFamily (metrics : Metrics) : Family :=
  ⟨gaugeName,
    header gaugeName "Endpoints returned by the last successful resolution." "gauge" ++
      line gaugeName [] metrics.endpointsDiscovered.plainText,
    true⟩

def text (metrics : Metrics) : String :=
  let families :=
    Counter.all.map metrics.counterFamily ++ Timer.all.map metrics.timerFamily ++
      [metrics.gaugeFamily]
  let shown := families.filter Family.hasSamples
  String.join ((shown.mergeSort fun left right => left.name ≤ right.name).map Family.text)

/-- The counters and the gauge by their short names with labels, each with its value. -/
def readings (metrics : Metrics) : List (String × String) :=
  let counters := Counter.all.flatMap fun counter =>
    (metrics.counterSamples counter).map fun (labels, count) =>
      (counter.name ++ labelsText labels, countText count)
  counters ++ [(gaugeName, metrics.endpointsDiscovered.plainText)]

end Metrics

end ClusterQuery
