import ForeignKeyLint.ChangeSet
import ForeignKeyLint.CommandLine
import ForeignKeyLint.Config.Document
import ForeignKeyLint.Host
import ForeignKeyLint.Report.Annotations
import ForeignKeyLint.Report.Document
import ForeignKeyLint.Report.Text

/-!
A run of the check: the configuration is loaded, the change set is found, its files are read and
judged, and the report is printed. Events tell of the start and the end, and metrics are pushed; a
push that fails changes nothing.
-/

namespace ForeignKeyLint

open Disk

/-- Why a run gave no verdict. -/
inductive RunError where
  | config (error : ConfigError)
  | git (error : GitError)
  | migrations (directory : Path) (error : WalkError)
  | snapshot (error : SnapshotError)
  /-- The report names a path that cannot be written in a document. -/
  | document
deriving Repr, DecidableEq

/-- What failed, and each cause in turn. -/
def RunError.message : RunError → String
  | .config error => "Failed to load configuration: " ++ error.message
  | .git error =>
    "Failed to resolve the change set: Git error: " ++ error.message ++ ": " ++ error.message
  | .migrations directory error =>
    "Failed to resolve the change set: Migrations directory " ++ directory.text ++
      " could not be scanned: " ++ error.message
  | .snapshot error => "Lint run failed: " ++ error.message
  | .document => "Failed to serialize report: path contains invalid UTF-8 characters"

namespace Run

variable {m : Type → Type} [Monad m]

/-- The configuration that is read when none is named. -/
def defaultConfigPath : Path :=
  ⟨".fkguard.yaml"⟩

/-- Loads the configuration. A file that is named must exist; otherwise there may be none. -/
def loadConfig (host : Host m) (named : Option Path) : m (Except ConfigError Config) := do
  let path := named.getD defaultConfigPath
  if ← host.hasPath path then
    match ← host.readText path with
    | .ok text => return Config.ofText text
    | .error error => return .error (.unreadable path error)
  else if named.isSome then return .error (.notFound path)
  else return .ok {}

/-- The migrations in the directory, without those that are excluded. -/
def scanDirectory (host : Host m) (config : Config) : m (Except WalkError (List Path)) := do
  let directory := config.migrationsDir
  if ← host.hasPath directory then
    match ← host.filesBelow directory with
    | .error error => return .error error
    | .ok files =>
      let migrations := files.filter ChangeSet.isMigration
      let kept := migrations.filter fun file => !ChangeSet.isExcluded config file
      let excluded := migrations.length - kept.length
      let note := if excluded = 0 then "" else
        " (" ++ Decimal.text excluded ++ " excluded by config)"
      host.info { message := "Found " ++ Decimal.text kept.length ++ " migration files" ++ note }
      return .ok kept
  else
    host.info { message := "Migrations directory " ++ directory.text ++ " not found" }
    return .ok []

/-- The files that a source names, before they are put in order. -/
def gather (host : Host m) (config : Config) : ChangeSource → m (Except RunError (List Path))
  | .explicit files => return .ok files
  | .since base => do
    match ← host.changedFiles none base config.migrationsDir with
    | .error error => return .error (.git error)
    | .ok files =>
      host.info { message := Decimal.text files.length ++ " files changed since " ++ base }
      return .ok (files.filter fun file =>
        ChangeSet.isMigration file && !ChangeSet.isExcluded config file)
  | .directory => do
    return (← scanDirectory host config).mapError (.migrations config.migrationsDir)

/-- The change set of a source, in the order asked for. -/
def discover (host : Host m) (config : Config) (source : ChangeSource) :
    m (Except RunError (List Path)) := do
  return (← gather host config source).map (ChangeSet.settle config)

/-- Reads a file of the change set, with a warning if that fails. -/
def readFile (host : Host m) (path : Path) : m (Path × ReadResult) := do
  let read ← host.readText path
  if let .error error := read then
    host.warn { message := "Failed to read " ++ path.text ++ ": " ++ error.message }
  return (path, read)

/-- Reads the snapshot and the files and judges them. -/
def lint (host : Host m) (config : Config) (verbose : Bool) (files : List Path) :
    m (Except SnapshotError Report) := do
  let schema := config.schemaPath
  host.info {
    message := "Linting " ++ Decimal.text files.length ++ " migration files against " ++
      schema.text }
  let snapshot ← host.readText schema
  let reads ← if snapshot.isOk then files.mapM (readFile host) else pure []
  let result := Report.ofReads config.policy verbose schema snapshot reads
  if let .ok report := result then
    let stats := report.verdict.stats
    host.info {
      message := "Checked " ++ Decimal.text stats.foreignKeys ++ " foreign keys across " ++
        Decimal.text stats.columnsTracked ++ " columns: " ++
        Decimal.text report.verdict.violations.length ++ " violations" }
  return result

/-- Tells of the end of a run, in an event if asked for and in metrics. -/
def finish (host : Host m) (emitEvents : Bool) (metadata : Telemetry.Metadata) (started : Float)
    (violations : Option Nat) (progress : Float → Telemetry.Progress) : m Unit := do
  let seconds := (← host.seconds) - started
  if emitEvents then
    host.emit {
      metadata := { metadata with timestamp := ← host.timestamp }, progress := progress seconds }
  let metrics := Telemetry.Metrics.ofRun metadata.repository seconds violations
  if let .error error ← host.push metadata.repository (Telemetry.Metrics.text metrics) then
    host.warn { message := "Failed to push lint metrics: " ++ error.message }

/-- The report as it is printed, if it can be. -/
def render? (format : OutputFormat) (palette : Palette) (report : Report) (seconds : Float) :
    Option String :=
  match format with
  | .text => report.text palette
  | .json => report.document? seconds
  | .github => report.annotations

/-- Judges the change set and tells of it. Nothing tells of the end of a run whose report cannot be
printed. -/
def judge (host : Host m) (palette : Palette) (invocation : Invocation) (config : Config)
    (files : List Path) : m (Except RunError Outcome) := do
  let gitSha := (← host.sha none).toOption
  let metadata ← host.metadata gitSha
  if config.emitEvents then
    host.emit { metadata, progress := .started config.schemaPath.text files.length }
  let started ← host.seconds
  match ← lint host config invocation.verbose files with
  | .error error =>
    finish host config.emitEvents metadata started none fun seconds => .failed seconds error.message
    return .error (.snapshot error)
  | .ok report =>
    let seconds := (← host.seconds) - started
    match render? invocation.format palette report seconds with
    | none => return .error .document
    | some output =>
      host.print output
      let verdict := report.verdict
      finish host config.emitEvents metadata started (some verdict.violations.length) fun seconds =>
        .completed seconds verdict.violations.length verdict.diagnostics.length
          verdict.stats.foreignKeys verdict.stats.indexes
      host.info { message := "Lint finished in " ++ Decimal.fixed 2 seconds ++ "s" }
      return .ok report.outcome

/-- Runs the check. -/
def check (host : Host m) (palette : Palette) (invocation : Invocation) :
    m (Except RunError Outcome) := do
  match ← loadConfig host invocation.config with
  | .error error => return .error (.config error)
  | .ok loaded =>
    let config := invocation.override loaded
    let source := ChangeSource.choose invocation.files invocation.base
    match ← discover host config source with
    | .error error => return .error error
    | .ok files => judge host palette invocation config files

/-- Reads the command line and the variables that stand in for its options. -/
def parse (host : Host m) (arguments : List String) : m (Except Usage Invocation) := do
  let configVariable ← host.lookupEnv "FKGUARD_CONFIG"
  let baseVariable ← host.lookupEnv "FKGUARD_BASE"
  return CommandLine.parse configVariable baseVariable arguments

/-- How a run ends. -/
inductive Ending where
  | usage (reason : Usage)
  | finished (outcome : Outcome)
  | failed (error : RunError)
deriving Repr, DecidableEq

/-- The whole program, from its arguments to its ending. -/
def program (host : Host m) (palette : Palette) (arguments : List String) : m Ending := do
  match ← parse host arguments with
  | .error reason => return .usage reason
  | .ok invocation =>
    match ← check host palette invocation with
    | .error error => return .failed error
    | .ok outcome => return .finished outcome

/-- The name and the version of the program. -/
def versionText : String :=
  "fkguard 0.1.0\n"

namespace Ending

/-- Violations and failures have codes of their own; a question is no failure. -/
def exitCode : Ending → Nat
  | .usage .helpRequested | .usage .versionRequested => 0
  | .usage _ => 2
  | .finished .clean => 0
  | .finished (.violations _) => 1
  | .failed _ => 2

/-- What is told of a run that failed. -/
def complaint? : Ending → Option String
  | .failed error => some ("❌ " ++ error.message)
  | _ => none

end Ending

end Run

end ForeignKeyLint
