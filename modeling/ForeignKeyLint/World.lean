import ForeignKeyLint.Disk.Tree
import ForeignKeyLint.Host

/-!
A host in memory. What a run sees is a value, and all that it does is written down.
-/

namespace ForeignKeyLint

open Disk

/-- What a run sees. The time stands still in it. -/
structure World where
  tree : Tree
  environment : List (String × String) := []
  /-- What git answers, if it is installed. -/
  git : Option (List String → CommandOutput) := none
  timestamp : String := ""
  runId : String := ""

/-- What a run has done, in order. -/
structure Transcript where
  output : String := ""
  events : List Telemetry.Event := []
  infos : List String := []
  warnings : List String := []
  gitCalls : List (List String) := []
deriving Inhabited

namespace World

/-- A command can be run with the arguments in the directory. No argument holds the character that
ends one. -/
def isRunnable (world : World) (directory : Option Path) (arguments : List String) : Bool :=
  directory.all world.tree.hasDirectory && arguments.all fun argument => !argument.contains '\x00'

def runGit (world : World) (directory : Option Path) (arguments : List String) :
    StateM Transcript (Option CommandOutput) := do
  match world.git with
  | some answer =>
    if world.isRunnable directory arguments then
      modify fun transcript => { transcript with gitCalls := transcript.gitCalls ++ [arguments] }
      return some (answer arguments)
    else return none
  | none => return none

def host (world : World) : Host (StateM Transcript) where
  hasPath path := return world.tree.hasPath path
  readText path := return world.tree.readText path
  filesBelow path := return world.tree.filesBelow path
  lookupEnv name := return world.environment.lookup name
  git := world.runGit
  directoryName := return world.tree.workingDirectory.getLast?.map RawText.text
  timestamp := return world.timestamp
  newRunId := return world.runId
  seconds := return 0
  print text := modify fun transcript => { transcript with output := transcript.output ++ text }
  emit event := modify fun transcript => { transcript with events := transcript.events ++ [event] }
  info line := modify fun transcript =>
    { transcript with infos := transcript.infos ++ [line.text] }
  warn line := modify fun transcript =>
    { transcript with warnings := transcript.warnings ++ [line.text] }
  send url _ := return .error (Telemetry.Push.unsent url)

end World

end ForeignKeyLint
