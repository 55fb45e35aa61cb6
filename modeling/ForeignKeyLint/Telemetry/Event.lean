import ForeignKeyLint.Json.Writer

/-!
Events that tell a log collector about a run: one when it starts, and one when it ends with a
verdict or fails.
-/

namespace ForeignKeyLint.Telemetry

/-- What all events of a run tell. -/
structure Metadata where
  timestamp : String
  /-- The same for every event of one run. -/
  runId : String
  repository : String
  gitSha : Option String := none
  hostname : Option String := none
  ciJobId : Option String := none
deriving Repr, DecidableEq

inductive Progress where
  | started (schema : String) (files : Nat)
  | completed (seconds : Float) (violations diagnostics foreignKeys indexes : Nat)
  | failed (seconds : Float) (error : String)
deriving Repr

/-- The name of a kind of event. -/
def Progress.name : Progress → String
  | .started .. => "LintStarted"
  | .completed .. => "LintCompleted"
  | .failed .. => "LintFailed"

structure Event where
  metadata : Metadata
  progress : Progress
deriving Repr

namespace Event

/-- A member for a text that may be absent. -/
def optionalMember (name : String) (value : Option String) : List (String × Json) :=
  value.toList.map fun value => (name, .str value)

def metadataMembers (metadata : Metadata) : List (String × Json) :=
  [("timestamp", .str metadata.timestamp), ("run_id", .str metadata.runId),
    ("repository", .str metadata.repository)] ++
    optionalMember "git_sha" metadata.gitSha ++ optionalMember "hostname" metadata.hostname ++
    optionalMember "ci_job_id" metadata.ciJobId

def progressMembers : Progress → List (String × Json)
  | .started schema files => [("schema", .str schema), ("files", .ofNat files)]
  | .completed seconds violations diagnostics foreignKeys indexes =>
    [("duration_secs", .float seconds), ("violations", .ofNat violations),
      ("diagnostics", .ofNat diagnostics), ("foreign_keys", .ofNat foreignKeys),
      ("indexes", .ofNat indexes)]
  | .failed seconds error => [("duration_secs", .float seconds), ("error", .str error)]

/-- The event as an object whose members come in a fixed order. -/
def toJson (event : Event) : Json :=
  .obj (("event_type", .str event.progress.name) ::
    (metadataMembers event.metadata ++ progressMembers event.progress))

/-- A line of the log that holds the event. -/
def line (event : Event) : String :=
  "FKGUARD_EVENT:" ++ event.toJson.compact

/-- A text that may be absent or null. -/
def optionalText? (json : Json) (name : String) : Option (Option String) :=
  match json.get? name with
  | none | some .null => some none
  | some value => value.asString?.map some

def metadataOf? (json : Json) : Option Metadata := do
  some {
    timestamp := ← (json.get? "timestamp").bind Json.asString?
    runId := ← (json.get? "run_id").bind Json.asString?
    repository := ← (json.get? "repository").bind Json.asString?
    gitSha := ← optionalText? json "git_sha"
    hostname := ← optionalText? json "hostname"
    ciJobId := ← optionalText? json "ci_job_id" }

def progressOf? (json : Json) : Option Progress := do
  let count (name : String) : Option Nat := (json.get? name).bind Json.asCount?
  let text (name : String) : Option String := (json.get? name).bind Json.asString?
  let seconds := (json.get? "duration_secs").bind Json.asFloat?
  match ← text "event_type" with
  | "LintStarted" => return .started (← text "schema") (← count "files")
  | "LintCompleted" =>
    return .completed (← seconds) (← count "violations") (← count "diagnostics")
      (← count "foreign_keys") (← count "indexes")
  | "LintFailed" => return .failed (← seconds) (← text "error")
  | _ => none

/-- The event that an object tells of. Further members are passed over. -/
def ofJson? (json : Json) : Option Event := do
  some { metadata := ← metadataOf? json, progress := ← progressOf? json }

end Event

end ForeignKeyLint.Telemetry
