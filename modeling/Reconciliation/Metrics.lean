import Reconciliation.Dict
import Reconciliation.Text.Fingerprint

/-!
# Metrics

What the engine counts. A pass appends observations to a log; the value of a series is the number
of the observations that belong to it.

* `Observation` -- one thing that happened;
* `Metrics.series` -- the series of a log with their values, named as in the Prometheus text format:
  label values between quotes, with backslash, quote and line feed escaped (`Series.name`). A metric
  finds a series again by a fingerprint of its label values in a row (`Series.key`), so values that
  are only parted differently share the series of those that came first. The sum of the observed
  durations is left out, since it depends on the clock.
-/

namespace Reconciliation

/-- One thing that the engine counts. -/
inductive Observation where
  /-- A pass over a managed owner began. -/
  | reconciliation
  /-- A pass failed. -/
  | reconciliationError
  /-- A pass took so many milliseconds. -/
  | duration (millis : Int)
  /-- An object of a kind was synced with an outcome. -/
  | synced (kind outcome : String)
  /-- An object of a kind could not be synced or deleted. -/
  | objectError (kind : String)
  /-- An object of a kind was deleted because it is no longer desired. -/
  | pruned (kind : String)
  /-- The status of an owner was written. -/
  | statusUpdate
  /-- A failed pass was scheduled again, or left until the owner changes. -/
  | requeue (reason : String)
deriving DecidableEq

/-- The observations of a run, in the order in which they were made. -/
abbrev Metrics := List Observation

namespace Metrics

/-- A label value between quotes. -/
def labelText (value : String) : String :=
  value.foldl (fun acc c => acc ++
    (if c = '\\' then "\\\\" else if c = '\n' then "\\n" else if c = '"' then "\\\""
      else String.singleton c)) "\"" ++ "\""

/-- A series: a metric with the values of its labels. -/
structure Series where
  metric : String
  labels : List (String × String)
deriving DecidableEq

namespace Series

/-- The name of a series: the metric, and its labels between braces if it has any. -/
def name (s : Series) : String :=
  if s.labels.isEmpty then s.metric
  else
    s.metric ++ "\x7b" ++ ",".intercalate (s.labels.map fun l => l.1 ++ "=" ++ labelText l.2) ++
      "\x7d"

/-- The fingerprint of the label values, by which a metric tells its series apart. -/
def key (s : Series) : UInt64 := Fingerprint.ofTexts (s.labels.map (·.2))

/-- Whether two series are counted as one. -/
def isCountedAs (s t : Series) : Bool := s.metric == t.metric && s.key == t.key

end Series

/-- The upper bounds of the duration buckets in milliseconds, as they are written in seconds. -/
def buckets : List (Int × String) :=
  [(50, "0.05"), (100, "0.1"), (500, "0.5"), (1000, "1"), (2000, "2"), (5000, "5"), (10000, "10")]

/-- The metric of the duration histogram. -/
def durationMetric : String := "tempo_operator_reconciliation_duration_seconds"

/-- The series that an observation raises by one. Every bucket whose bound is not below the duration
counts it. -/
def seriesOf : Observation → List Series
  | .reconciliation => [⟨"tempo_operator_reconciliations_total", []⟩]
  | .reconciliationError => [⟨"tempo_operator_reconciliation_errors_total", []⟩]
  | .duration millis =>
    ((buckets.filter fun b => millis ≤ b.1).map (·.2) ++ ["+Inf"]).map
      (fun bound => ⟨durationMetric ++ "_bucket", [("le", bound)]⟩) ++
    [⟨durationMetric ++ "_count", []⟩]
  | .synced kind outcome =>
    [⟨"tempo_operator_objects_synced_total", [("kind", kind), ("outcome", outcome)]⟩]
  | .objectError kind => [⟨"tempo_operator_object_errors_total", [("kind", kind)]⟩]
  | .pruned kind => [⟨"tempo_operator_objects_pruned_total", [("kind", kind)]⟩]
  | .statusUpdate => [⟨"tempo_operator_status_updates_total", []⟩]
  | .requeue reason => [⟨"tempo_operator_requeues_total", [("reason", reason)]⟩]

/-- Raises a series by one; the first series that counts as the same keeps its labels. -/
def raise (s : Series) : List (Series × Nat) → List (Series × Nat)
  | [] => [(s, 1)]
  | (t, n) :: rest => if t.isCountedAs s then (t, n + 1) :: rest else (t, n) :: raise s rest

/-- The series that a log raises, by name, with their values. -/
def series (m : Metrics) : Dict String Nat :=
  let counts := (m.flatMap seriesOf).foldl (fun counts s => raise s counts) []
  .ofList (counts.map fun (s, n) => (s.name, n))

/-- Whether a series belongs to a histogram bucket. -/
def isBucket (name : String) : Bool := name.startsWith (durationMetric ++ "_bucket")

end Metrics

end Reconciliation
