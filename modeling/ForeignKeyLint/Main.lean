import ForeignKeyLint.Run

/-!
The program. It reads the files it is given, prints its report, and writes everything else to the
standard error stream. It cannot list a directory, start git or reach the network, and says so where
a run needs one of them; the files of a change set are named on the command line.
-/

namespace ForeignKeyLint

open Disk

namespace Console

/-- The error in the terms of a run, by its number if it has one. -/
def readError : IO.Error → ReadError
  | .noFileOrDirectory .. => .notFound
  | .inappropriateType _ 20 _ => .notADirectory
  | .inappropriateType _ 21 _ => .isADirectory
  | error => .other (toString error)

def readText (path : Path) : IO ReadResult := do
  match path.raw.text? with
  | none => return .error (.other "only files whose names are text can be opened")
  | some name =>
    try
      let content ← IO.FS.readBinFile name
      match String.fromUTF8? content with
      | some text => return .ok text.toList
      | none => return .error .notText
    catch error => return .error (readError error)

/-- Whatever can be opened exists. -/
def hasPath (path : Path) : IO Bool := do
  match path.raw.text? with
  | none => return false
  | some name =>
    try
      let _ ← IO.FS.Handle.mk name .read
      return true
    catch _ => return false

/-- A single file stands for itself. -/
def filesBelow (path : Path) : IO (Except WalkError (List Path)) := do
  match ← readText path with
  | .ok _ | .error .notText => return .ok [path]
  | .error .isADirectory =>
    return .error (.unreadable path (.other "directories cannot be listed; name the files"))
  | .error error => return .error (.unreadable path error)

/-- Sixteen random bytes, written in hexadecimal. -/
def newRunId : IO String := do
  let bytes ← IO.getRandomBytes 16
  return String.ofList (bytes.toList.flatMap fun byte =>
    [Nat.digitChar (byte.toNat / 16), Nat.digitChar (byte.toNat % 16)])

/-- The time since the machine started, in seconds. -/
def seconds : IO Float := do
  return Float.ofNat (← IO.monoMsNow) / 1000

def host : Host IO where
  hasPath
  readText
  filesBelow
  lookupEnv name := IO.getEnv name
  git _ _ := return none
  directoryName := do
    return (← IO.getEnv "PWD").bind fun text => (Path.ofText text).fileName?.map RawText.text
  timestamp := do return Decimal.fixed 3 (← seconds)
  newRunId
  seconds
  print text := IO.print text
  emit event := IO.eprintln event.line
  info line := IO.eprintln (" INFO " ++ line.text)
  warn line := IO.eprintln (" WARN " ++ line.text)
  send url _ := return .error (Telemetry.Push.unsent url)

def usageText : String :=
  "Usage: fkguard [--verbose] [--config FILE] check [--schema FILE] [--migrations-dir DIR]\n" ++
  "               [--base REF] [--order lexical|timestamp|given] [--scope changed|all]\n" ++
  "               [--format text|json|github] [--emit-events] [FILE...]\n"

end Console

end ForeignKeyLint

open ForeignKeyLint

/-- Runs the check on the arguments of the process. -/
def main (arguments : List String) : IO UInt32 := do
  let stdout ← IO.getStdout
  let palette : Palette := { inColour := ← stdout.isTty }
  let ending ← Run.program Console.host palette arguments
  match ending with
  | .usage .versionRequested => IO.print Run.versionText
  | .usage .helpRequested => IO.print Console.usageText
  | .usage _ => IO.eprint Console.usageText
  | _ => pure ()
  if let some complaint := ending.complaint? then
    IO.eprintln (palette.paint .failure complaint)
  return UInt32.ofNat ending.exitCode
