import ForeignKeyLint.Disk.Failure
import ForeignKeyLint.Lint.Verdict

/-!
The report of a run: the verdict, with the snapshot and the files it is about. A file of the
change set that cannot be read is a diagnostic; without the snapshot there is no report.
-/

namespace ForeignKeyLint

open Disk Lint Migration

/-- A file in memory. -/
structure TextFile where
  path : Path
  text : List Char
deriving Repr, DecidableEq

inductive Outcome where
  | clean
  | violations (count : Nat)
deriving Repr, DecidableEq

/-- Why there is no snapshot to compare with. -/
inductive SnapshotError where
  | missing (path : Path)
  | unreadable (path : Path) (error : ReadError)
deriving Repr, DecidableEq

namespace SnapshotError

/-- A snapshot that does not exist is told apart from one that cannot be read. -/
def ofRead (path : Path) : ReadError → SnapshotError
  | .notFound => .missing path
  | error => .unreadable path error

def message : SnapshotError → String
  | .missing path => "Schema snapshot not found: " ++ path.text
  | .unreadable path error =>
    "Schema snapshot " ++ path.text ++ " could not be read: " ++ error.message

end SnapshotError

/-- What reading a text gave. -/
abbrev ReadResult := Except ReadError (List Char)

structure Report where
  schema : Path
  schemaVersion : Option String
  /-- The files of the change set in the order they were folded. -/
  files : List Path
  verdict : Verdict
deriving Repr, DecidableEq

namespace Report

def outcome (report : Report) : Outcome :=
  match report.verdict.violations with
  | [] => .clean
  | violations => .violations violations.length

/-- The report on a snapshot and the files of a change set. -/
def make (policy : Policy) (schema : Path) (snapshot : Snapshot) (files : List File) : Report :=
  { schema
    schemaVersion := snapshot.version
    files := files.map (·.path)
    verdict := policy.check snapshot files }

/-- The report on texts in memory, folded in the order given. -/
def ofTexts (policy : Policy) (verbose : Bool) (snapshot : TextFile) (files : List TextFile) :
    Report :=
  make policy snapshot.path
    (Snapshot.read { path := snapshot.path, verbose } snapshot.text)
    (files.map fun file => File.read { path := file.path, verbose } file.text)

/-- A file of the change set as it was read. -/
def fileOfRead (verbose : Bool) (path : Path) : ReadResult → File
  | .ok text => File.read { path, verbose } text
  | .error error => File.unreadable path ("failed to read: " ++ error.message)

/-- The report on what reading the snapshot and the files gave. -/
def ofReads (policy : Policy) (verbose : Bool) (schema : Path) (snapshot : ReadResult)
    (files : List (Path × ReadResult)) : Except SnapshotError Report :=
  match snapshot with
  | .error error => .error (.ofRead schema error)
  | .ok text =>
    .ok (make policy schema (Snapshot.read { path := schema, verbose } text)
      (files.map fun (path, read) => fileOfRead verbose path read))

/-- The report on files as a view of the disk shows them. -/
def ofView (policy : Policy) (verbose : Bool) (schema : Path) (view : Path → ReadResult)
    (files : List Path) : Except SnapshotError Report :=
  ofReads policy verbose schema (view schema) (files.map fun path => (path, view path))

end Report

end ForeignKeyLint
