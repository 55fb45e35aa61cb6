import ForeignKeyLint.Disk.Failure
import ForeignKeyLint.Git
import ForeignKeyLint.Report
import ForeignKeyLint.Telemetry.Event
import ForeignKeyLint.Telemetry.Log
import ForeignKeyLint.Telemetry.Metrics

/-!
Everything a run needs from outside: files, variables, git, the clock, and places to write to. A run
is written once against a host, and a host in memory makes it a function.
-/

namespace ForeignKeyLint

open Disk

structure Host (m : Type → Type) where
  hasPath : Path → m Bool
  readText : Path → m ReadResult
  /-- Every file below a directory, through links. -/
  filesBelow : Path → m (Except WalkError (List Path))
  lookupEnv : String → m (Option String)
  /-- Runs git in a directory, or else in the working directory; nothing if it cannot be run. -/
  git : (directory : Option Path) → List String → m (Option CommandOutput)
  /-- The name of the working directory. -/
  directoryName : m (Option String)
  /-- The time of day, as events tell it. -/
  timestamp : m String
  newRunId : m String
  /-- A clock that never goes back. -/
  seconds : m Float
  print : String → m Unit
  emit : Telemetry.Event → m Unit
  info : Telemetry.LogLine → m Unit
  warn : Telemetry.LogLine → m Unit
  /-- Sends metrics to an address over HTTP. -/
  send : Url → String → m (Except String Unit)

namespace Host

variable {m : Type → Type} [Monad m]

/-- A variable that is set and not empty. -/
def lookupNonempty (host : Host m) (name : String) : m (Option String) := do
  return (← host.lookupEnv name).filter (!·.isEmpty)

/-- The commit a run is about: what the variables of a CI system say, else what git says. -/
def sha (host : Host m) (directory : Option Path) : m (Except GitError String) := do
  match ← host.lookupNonempty "GIT_SHA" with
  | some sha => return .ok sha
  | none =>
    match ← host.lookupNonempty "GITHUB_SHA" with
    | some sha => return .ok sha
    | none => return Git.sha (← host.git directory Git.shaArguments)

/-- The files below `migrations` that changed since the branch left `base`. -/
def changedFiles (host : Host m) (directory : Option Path) (base : String) (migrations : Path) :
    m (Except GitError (List Path)) := do
  return Git.changedFiles base migrations
    (← host.git directory (Git.diffArguments base migrations))

/-- The repository a run is about: what a variable says, else the working directory. -/
def repository (host : Host m) : m String := do
  match ← host.lookupNonempty "GITHUB_REPOSITORY" with
  | some repository => return repository
  | none => return (← host.directoryName).getD "unknown"

/-- What the events of a run tell, as the run starts. -/
def metadata (host : Host m) (gitSha : Option String) : m Telemetry.Metadata := do
  let timestamp ← host.timestamp
  let runId ← host.newRunId
  let repository ← host.repository
  let hostname ← host.lookupEnv "HOSTNAME"
  let githubRun ← host.lookupEnv "GITHUB_RUN_ID"
  let ciJob ← host.lookupEnv "CI_JOB_ID"
  return { timestamp, runId, repository, gitSha, hostname, ciJobId := githubRun <|> ciJob }

/-- Pushes metrics to a gateway. -/
def pushTo (host : Host m) (gateway repository metrics : String) :
    m (Except Telemetry.PushError Unit) := do
  let address := Telemetry.Push.target gateway repository
  host.info { message := "Pushing metrics to Pushgateway", fields := [("url", address)] }
  match Telemetry.Push.url address with
  | .error error => return .error error
  | .ok url =>
    match ← host.send url metrics with
    | .error reason => return .error (.failed reason)
    | .ok () =>
      host.info { message := "Metrics pushed successfully" }
      return .ok ()

/-- Pushes metrics if a gateway is configured. -/
def push (host : Host m) (repository metrics : String) : m (Except Telemetry.PushError Unit) := do
  match ← host.lookupEnv "PUSHGATEWAY_URL" with
  | none => return .ok ()
  | some gateway => host.pushTo gateway repository metrics

end Host

end ForeignKeyLint
