import ComposeDesk.Decimal.Shortest

/-!
# Metrics

The desk counts what it is asked for and how that ends, and measures how long
requests take.  The numbers are read in the text exposition format: families
sorted by name, series sorted by the value of their label.
-/

namespace ComposeDesk

/-- Numbers by the value of a label, in the order of the values. -/
abbrev Series (α : Type) := List (String × α)

namespace Series

variable {α : Type}

def get? (series : Series α) (label : String) : Option α :=
  (series.find? (·.1 == label)).map (·.2)

/-- Change the number of a label, which starts as `start`. -/
def update (label : String) (start : α) (change : α → α) : Series α → Series α
  | [] => [(label, change start)]
  | (other, held) :: rest =>
      if label < other then (label, change start) :: (other, held) :: rest
      else if label = other then (label, change held) :: rest
      else (other, held) :: update label start change rest

end Series

/-- The upper bounds of the buckets, in seconds. -/
def bucketBounds : List Float :=
  [0.005, 0.01, 0.025, 0.05, 0.1, 0.25, 0.5, 1.0, 2.5, 5.0, 10.0]

structure Histogram where
  /-- For each bound how many durations it bounds. -/
  buckets : List (Float × Nat)
  sum : Float
  count : Nat
deriving Repr

namespace Histogram

def empty : Histogram := ⟨bucketBounds.map fun bound => (bound, 0), 0.0, 0⟩

def observe (seconds : Float) (histogram : Histogram) : Histogram where
  buckets := histogram.buckets.map fun (bound, count) =>
    (bound, if seconds ≤ bound then count + 1 else count)
  sum := histogram.sum + seconds
  count := histogram.count + 1

end Histogram

structure Metrics where
  /-- Compose requests by image type. -/
  composeRequests : Series Nat
  /-- Compose requests that ended with an error that is not the caller's. -/
  composeErrors : Nat
  /-- Compose requests beyond the quota. -/
  quotaRejections : Nat
  /-- The durations of requests by route. -/
  durations : Series Histogram
deriving Repr

namespace Metrics

def empty : Metrics := ⟨[], 0, 0, []⟩

def composeRequested (imageType : String) (metrics : Metrics) : Metrics :=
  { metrics with
    composeRequests := Series.update imageType 0 (· + 1) metrics.composeRequests }

/-- A compose request ends with an error that is not the caller's. -/
def composeFailed (metrics : Metrics) : Metrics :=
  { metrics with composeErrors := metrics.composeErrors + 1 }

def quotaRejected (metrics : Metrics) : Metrics :=
  { metrics with quotaRejections := metrics.quotaRejections + 1 }

def requestServed (route : String) (seconds : Float) (metrics : Metrics) : Metrics :=
  { metrics with
    durations := Series.update route .empty (Histogram.observe seconds) metrics.durations }

def requestsOf (metrics : Metrics) (imageType : String) : Nat :=
  (Series.get? metrics.composeRequests imageType).getD 0

end Metrics

structure Sample where
  name : String
  labels : List (String × String)
  value : String
deriving DecidableEq, Repr

namespace Sample

def escaped (c : Char) : List Char :=
  if c = '\\' then ['\\', '\\']
  else if c = '"' then ['\\', '"']
  else if c = '\n' then ['\\', 'n']
  else [c]

def label : String × String → String
  | (name, value) =>
      name ++ "=\"" ++ String.ofList (value.toList.flatMap escaped) ++ "\""

def labelText (labels : List (String × String)) : String :=
  if labels.isEmpty then ""
  else "\x7b" ++ String.intercalate "," (labels.map label) ++ "\x7d"

def line (sample : Sample) : String :=
  sample.name ++ labelText sample.labels ++ " " ++ sample.value

end Sample

structure Family where
  name : String
  help : String
  kind : String
  samples : List Sample
deriving DecidableEq, Repr

namespace Family

/-- The lines of a family; none if there are no numbers. -/
def lines (family : Family) : List String :=
  if family.samples.isEmpty then []
  else
    ("# HELP " ++ family.name ++ " " ++ family.help) ::
      ("# TYPE " ++ family.name ++ " " ++ family.kind) ::
        family.samples.map Sample.line

def counter (name help : String) (count : Nat) : Family :=
  ⟨name, help, "counter", [⟨name, [], Decimal.ofNat count⟩]⟩

def counters (name help label : String) (series : Series Nat) : Family :=
  ⟨name, help, "counter", series.map fun (value, count) =>
    ⟨name, [(label, value)], Decimal.ofNat count⟩⟩

def measured (x : Float) : String :=
  Decimal.ofBits .plain x.toBits

def histogramSamples (name label value : String) (histogram : Histogram) : List Sample :=
  histogram.buckets.map (fun (bound, count) =>
    ⟨name ++ "_bucket", [(label, value), ("le", measured bound)], Decimal.ofNat count⟩) ++
  [⟨name ++ "_bucket", [(label, value), ("le", "+Inf")], Decimal.ofNat histogram.count⟩,
    ⟨name ++ "_sum", [(label, value)], measured histogram.sum⟩,
    ⟨name ++ "_count", [(label, value)], Decimal.ofNat histogram.count⟩]

def histograms (name help label : String) (series : Series Histogram) : Family :=
  ⟨name, help, "histogram", series.flatMap fun (value, histogram) =>
    histogramSamples name label value histogram⟩

end Family

namespace Metrics

def families (metrics : Metrics) : List Family :=
  [.counter "image_builder_compose_errors_total"
      "Compose requests that failed with an internal error" metrics.composeErrors,
    .counters "image_builder_compose_requests_total" "Compose requests by image type"
      "image_type" metrics.composeRequests,
    .histograms "image_builder_http_duration_seconds" "Time spent serving API requests"
      "path" metrics.durations,
    .counter "image_builder_quota_rejections_total"
      "Compose requests rejected for exceeding the org quota" metrics.quotaRejections]

def lines (metrics : Metrics) : List String :=
  metrics.families.flatMap Family.lines

def text (metrics : Metrics) : String :=
  String.join (metrics.lines.map (· ++ "\n"))

end Metrics

end ComposeDesk
