import ForeignKeyLint.Migration.ColumnStatement
import ForeignKeyLint.Migration.IndexStatement
import ForeignKeyLint.Ruby.Keyword
import ForeignKeyLint.Ruby.Statement

/-!
Scanning a source file: its statements are read in order with the blocks that enclose them, and
each yields the events and diagnostics it stands for. Statements that undo a migration yield
nothing.
-/

namespace ForeignKeyLint.Migration

open Ruby Schema

/-- What a scan finds. -/
inductive Finding where
  | event (event : Event)
  | diagnostic (diagnostic : Diagnostic)
deriving Repr, DecidableEq

namespace Finding

def event? : Finding → Option Event
  | .event found => some found
  | .diagnostic _ => none

def diagnostic? : Finding → Option Diagnostic
  | .event _ => none
  | .diagnostic found => some found

end Finding

/-- The file a scan reads, and whether it tells about statements that mean nothing to it. -/
structure Source where
  path : Path
  verbose : Bool := false
deriving Repr, DecidableEq

/-- At most this many characters of a statement are quoted. -/
def excerptLength : Nat := 80

def excerpt (text : List Char) : String :=
  String.ofList (text.take excerptLength)

/-- What a meaning amounts to at a place. -/
def Meaning.findings (meaning : Meaning) (location : Location) : List Finding :=
  meaning.found.map (fun operation => .event { operation, location }) ++
    meaning.fault?.toList.map fun (kind, message) => .diagnostic { kind, location, message }

namespace Source

def location (source : Source) (line : Nat) : Location :=
  { file := source.path, line }

/-- The complaint about a statement that was cut short. -/
def unclosed (source : Source) (statement : Statement) : List Finding :=
  if statement.cutShort then
    [.diagnostic {
      kind := .malformedDeclaration
      location := source.location statement.line
      message := "statement never closes, read up to here: " ++ excerpt statement.text }]
  else []

/-- The remark about a statement that means nothing. -/
def skipped (source : Source) (statement : Statement) : List Finding :=
  if source.verbose then
    [.diagnostic {
      kind := .parseSkip
      location := source.location statement.line
      message := "unrecognized statement: " ++ excerpt statement.text }]
  else []

/-- Reads a call, given the statement it is. -/
def stepCall (source : Source) (nesting : Nesting) (statement : Statement) (call : Call) :
    List Finding × Nesting :=
  let columns := columnMeaning nesting.table? call
  let indexes := indexMeaning nesting.table? call
  let location := source.location statement.line
  let findings :=
    if nesting.inRollback then [] else columns.findings location ++ indexes.findings location
  if call.block.isSome then
    (findings, Frame.ofCall call columns.opens? statement.line :: nesting)
  else if columns.isRelated || indexes.isRelated then (findings, nesting)
  else (findings ++ source.skipped statement, nesting)

/-- Reads a statement for what it opens, closes and says. -/
def stepBody (source : Source) (nesting : Nesting) (statement : Statement) :
    List Finding × Nesting :=
  if isBlockEnd statement.text then ([], nesting.pop)
  else
    match keywordBlock? statement.text with
    | some .rollback => ([], .rollback :: nesting)
    | some .other => ([], .other :: nesting)
    | none =>
      match Call.parse? statement.text with
      | some call => source.stepCall nesting statement call
      | none =>
        (source.skipped statement, if opensBlock statement.text then .other :: nesting else nesting)

/-- Reads one statement inside the blocks that are open. -/
def step (source : Source) (nesting : Nesting) (statement : Statement) : List Finding × Nesting :=
  let (findings, nesting) := source.stepBody nesting statement
  (source.unclosed statement ++ findings, nesting)

/-- Reads statements in order. -/
def steps (source : Source) (nesting : Nesting) : List Statement → List Finding × Nesting
  | [] => ([], nesting)
  | statement :: others =>
    let (found, nesting) := source.step nesting statement
    let (findings, nesting) := source.steps nesting others
    (found ++ findings, nesting)

/-- The complaints about table blocks that are never closed. -/
def unterminated (source : Source) (nesting : Nesting) : List Finding :=
  nesting.tables.map fun block => .diagnostic {
    kind := .unterminatedBlock
    location := source.location block.openedAt
    message := "block for table '" ++ block.name ++ "' is never closed" }

/-- Everything a scan of the text finds, in file order. -/
def scan (source : Source) (text : List Char) : List Finding :=
  let (findings, nesting) := source.steps [] (statements text)
  findings ++ source.unterminated nesting

end Source

/-- The events about tables and columns in a text, in file order. -/
def columnOperations (path : Path) (text : List Char) : List Event :=
  (Source.scan { path } text).filterMap fun finding =>
    finding.event?.filter fun event => !event.operation.isIndex

/-- The events that add an index in a text, in file order. -/
def indexOperations (path : Path) (text : List Char) : List Event :=
  (Source.scan { path } text).filterMap fun finding =>
    finding.event?.filter fun event => event.operation.isIndex

/-- What was read from a file of the change set. -/
structure File where
  path : Path
  events : List Event
  diagnostics : List Diagnostic
deriving Repr, DecidableEq

namespace File

def read (source : Source) (text : List Char) : File :=
  let findings := source.scan text
  { path := source.path
    events := findings.filterMap Finding.event?
    diagnostics := findings.filterMap Finding.diagnostic? }

/-- A file that could not be read has no events. -/
def unreadable (path : Path) (message : String) : File :=
  { path, events := []
    diagnostics := [{ kind := .fileReadFailure, location := { file := path, line := 0 }, message }] }

/-- The events about tables and columns. -/
def columnEvents (file : File) : List Event :=
  file.events.filter fun event => !event.operation.isIndex

/-- The events that add an index. -/
def indexEvents (file : File) : List Event :=
  file.events.filter fun event => event.operation.isIndex

end File

end ForeignKeyLint.Migration
