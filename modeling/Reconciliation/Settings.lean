import Reconciliation.Digits
import Reconciliation.Kind

/-!
# Settings

What an operator of the engine may choose, read from environment variables. A variable that is
missing, or that holds no text or no number where one is expected, leaves the default.

* `Settings.ofEnvironment` -- the settings of an environment;
* `FeatureGates.prunableKinds` -- the kinds that may have to be deleted again, given which other
  operators are present.
-/

namespace Reconciliation

/-! ## 1. Feature gates -/

/-- Which other operators are present, and so which kinds exist at all. -/
structure FeatureGates where
  prometheusOperator : Bool
  openshiftRoutes : Bool
  grafanaOperator : Bool
deriving DecidableEq

namespace FeatureGates

/-- No other operator. -/
def none : FeatureGates := ⟨false, false, false⟩

/-- The kinds that are created under conditions. Ingresses always exist. -/
def prunableKinds (g : FeatureGates) : List Kind :=
  [.ingress] ++
    (if g.prometheusOperator then [.custom .serviceMonitor, .custom .prometheusRule] else []) ++
    (if g.openshiftRoutes then [.custom .route] else []) ++
    (if g.grafanaOperator then [.custom .grafanaDatasource] else [])

end FeatureGates

/-! ## 2. Settings -/

/-- The form of log lines. -/
inductive LogFormat where
  | json
  | text
deriving DecidableEq

/-- The settings of the engine. -/
structure Settings where
  fieldManager : String
  backoffMinMinutes : Nat
  backoffMaxMinutes : Nat
  resyncSeconds : Nat
  logLevel : String
  logFormat : LogFormat
  enableMetrics : Bool
  features : FeatureGates
deriving DecidableEq

/-- An environment: the bytes of the variables that are set. -/
abbrev Environment := String → Option ByteArray

namespace Environment

/-- The text of a variable; bytes that are no UTF-8 count as unset. -/
def text? (env : Environment) (key : String) : Option String := (env key).bind String.fromUTF8?

/-- The text of a variable or a default. -/
def text (env : Environment) (key default : String) : String := (env.text? key).getD default

end Environment

/-- Reads an unsigned 64-bit number: decimal digits after at most one plus sign. -/
def unsigned? (s : String) : Option Nat :=
  let digits := match s.toList with
    | '+' :: rest => rest
    | rest => rest
  if digits.isEmpty || !digits.all Char.isDigit then none
  else
    let n := Digits.value digits
    if n < UInt64.size then some n else none

/-- A switch is on for four words in any case, and off for every other text. No character beyond
ASCII has a lower case among the letters of these words. -/
def isOn (s : String) : Bool := ["true", "1", "yes", "on"].contains (s.map Char.toLower)

namespace Settings

/-- The settings of an empty environment. -/
def default : Settings :=
  ⟨"tempo-operator", 1, 10, 300, "INFO", .json, true, .none⟩

/-- The number in a variable or a default. -/
def number (env : Environment) (key : String) (default : Nat) : Nat :=
  ((env.text? key).bind unsigned?).getD default

/-- The switch in a variable or a default. -/
def switch (env : Environment) (key : String) (default : Bool) : Bool :=
  ((env.text? key).map isOn).getD default

/-- The settings of an environment. -/
def ofEnvironment (env : Environment) : Settings where
  fieldManager := env.text "FIELD_MANAGER" default.fieldManager
  backoffMinMinutes := number env "BACKOFF_MIN_MINUTES" default.backoffMinMinutes
  backoffMaxMinutes := number env "BACKOFF_MAX_MINUTES" default.backoffMaxMinutes
  resyncSeconds := number env "RESYNC_INTERVAL_SECS" default.resyncSeconds
  logLevel := env.text "LOG_LEVEL" default.logLevel
  logFormat := if (env.text "LOG_FORMAT" "json").map Char.toLower = "text" then .text else .json
  enableMetrics := switch env "ENABLE_METRICS" true
  features :=
    { prometheusOperator := switch env "FEATURE_PROMETHEUS_OPERATOR" false
      openshiftRoutes := switch env "FEATURE_OPENSHIFT_ROUTES" false
      grafanaOperator := switch env "FEATURE_GRAFANA_OPERATOR" false }

end Settings

end Reconciliation
