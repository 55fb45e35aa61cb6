import ForeignKeyLint.Path
import ForeignKeyLint.Text.Search
import ForeignKeyLint.Text.Blank
import ForeignKeyLint.Text.Lines

/-!
What is asked of git, and how its answers are read: the commit a run is about, and the files a
branch changed.
-/

namespace ForeignKeyLint

open Text

inductive GitError where
  | notARepository
  | shaFailed (reason : String)
  | commandFailed (command reason : String)
  | unknownRef (reference : String)
deriving Repr, DecidableEq

def GitError.message : GitError → String
  | .notARepository => "Not a git repository"
  | .shaFailed reason => "Failed to get git SHA: " ++ reason
  | .commandFailed command reason => "Git command failed: " ++ command ++ ": " ++ reason
  | .unknownRef reference => "Unknown git ref: " ++ reference

/-- What a command printed, and whether it succeeded. -/
structure CommandOutput where
  stdout : String := ""
  stderr : String := ""
  succeeded : Bool := true
deriving Repr, DecidableEq

namespace Git

def trimmed (text : String) : String :=
  String.ofList (trim text.toList)

/-- The arguments that ask for the current commit. -/
def shaArguments : List String :=
  ["rev-parse", "--short", "HEAD"]

/-- Reads the current commit from an output; there is none if git cannot be run. -/
def sha : Option CommandOutput → Except GitError String
  | none => .error .notARepository
  | some output =>
    if !output.succeeded then .error (.shaFailed (trimmed output.stderr))
    else if (trimmed output.stdout).isEmpty then .error (.shaFailed "Empty SHA returned")
    else .ok (trimmed output.stdout)

/-- The arguments that ask for the files in a directory that were added, modified or renamed since
the branch left `base`. -/
def diffArguments (base : String) (directory : Path) : List String :=
  ["diff", "--name-only", "--relative", "--diff-filter=AMR", base ++ "...HEAD", "--",
    directory.text]

/-- The paths in an output, one a line. -/
def listedPaths (stdout : String) : List Path :=
  (((lines stdout.toList).map trim).filter fun line => !line.isEmpty).map
    fun line => .ofText (String.ofList line)

/-- Reads the changed files from an output. An unknown base is told apart from other failures by
what git prints. -/
def changedFiles (base : String) (directory : Path) :
    Option CommandOutput → Except GitError (List Path)
  | none => .error .notARepository
  | some output =>
    let stderr := trim output.stderr.toList
    if output.succeeded then .ok (listedPaths output.stdout)
    else if includes "unknown revision".toList stderr || includes "bad revision".toList stderr then
      .error (.unknownRef base)
    else if includes "not a git repository".toList stderr then .error .notARepository
    else
      let command := String.intercalate " " ("git" :: diffArguments base directory)
      .error (.commandFailed command (String.ofList stderr))

end Git

end ForeignKeyLint
