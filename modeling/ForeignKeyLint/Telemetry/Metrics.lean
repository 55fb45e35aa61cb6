import ForeignKeyLint.Decimal.Fixed
import ForeignKeyLint.Text.Blank
import ForeignKeyLint.Url

/-!
Metrics of a run in the text format of Prometheus, and the address of the gateway they are pushed
to.
-/

namespace ForeignKeyLint.Telemetry

open Text

/-- The kinds of metrics that are reported. -/
inductive MetricKind where
  | gauge
  | counter
deriving Repr, DecidableEq

def MetricKind.name : MetricKind → String
  | .gauge => "gauge"
  | .counter => "counter"

/-- A metric with a single value. -/
structure Metric where
  name : String
  help : String
  kind : MetricKind
  labels : List (String × String)
  value : String
deriving Repr, DecidableEq

/-- The two comments and the value of a metric. -/
def Metric.text (metric : Metric) : String :=
  let labels := metric.labels.map fun (label, value) => label ++ "=\"" ++ value ++ "\""
  "# HELP " ++ metric.name ++ " " ++ metric.help ++ "\n" ++
    "# TYPE " ++ metric.name ++ " " ++ metric.kind.name ++ "\n" ++
    metric.name ++ "\x7b" ++ String.intercalate "," labels ++ "\x7d " ++ metric.value ++ "\n"

namespace Metrics

/-- Durations have three places. -/
def durationPlaces : Nat := 3

/-- The word for the end of a run, which has a number of violations unless it failed. -/
def status : Option Nat → String
  | some 0 => "clean"
  | some _ => "violations"
  | none => "error"

/-- The metrics of a run. -/
def ofRun (repository : String) (seconds : Float) (violations : Option Nat) : List Metric :=
  let labels := [("repository", repository)]
  let duration : Metric :=
    { name := "fkguard_run_duration_seconds", help := "Duration of lint runs", kind := .gauge
      labels, value := Decimal.fixed durationPlaces seconds }
  let found := violations.toList.map fun count => {
    name := "fkguard_violations", help := "Unindexed foreign keys found by the last run"
    kind := .gauge, labels, value := Decimal.text count : Metric }
  let total : Metric :=
    { name := "fkguard_runs_total", help := "Total lint runs", kind := .counter
      labels := labels ++ [("status", status violations)], value := "1" }
  duration :: (found ++ [total])

def text (metrics : List Metric) : String :=
  String.join (metrics.map Metric.text)

end Metrics

/-- Why metrics were not pushed. -/
inductive PushError where
  /-- The address is no absolute URL. -/
  | noUrl
  /-- The address is a URL that is not spoken over HTTP. -/
  | notHttp (url : Url)
  /-- The gateway could not be reached or refused the metrics. -/
  | failed (reason : String)
deriving Repr, DecidableEq

def PushError.message : PushError → String
  | .noUrl => "Failed to push metrics: builder error"
  | .notHttp url => "Failed to push metrics: builder error for url (" ++ url.text ++ ")"
  | .failed reason => "Failed to push metrics: " ++ reason

namespace Push

/-- The address for the metrics of a repository at a gateway. -/
def target (gateway repository : String) : String :=
  String.ofList (dropEndWhile (· == '/') gateway.toList) ++ "/metrics/job/fkguard/instance/" ++
    String.ofList (Percent.segment repository.toList)

/-- The address as a URL that metrics can be sent to. Credentials are sent apart from it. -/
def url (address : String) : Except PushError Url :=
  match (Url.parse? address.toList).map Url.withoutCredentials with
  | none => .error .noUrl
  | some url =>
    if url.scheme = "http" || url.scheme = "https" then .ok url else .error (.notHttp url)

/-- Why metrics cannot be sent where there is no network. -/
def unsent (url : Url) : String :=
  "error sending request for url (" ++ url.text ++ ")"

end Push

end ForeignKeyLint.Telemetry
