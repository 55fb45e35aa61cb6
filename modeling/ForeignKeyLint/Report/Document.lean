import ForeignKeyLint.Json.Writer
import ForeignKeyLint.Report

/-!
A report as a JSON document. The members of every object come in a fixed order. A document is text, so
there is none of a report that names a path which is not.
-/

namespace ForeignKeyLint

open Lint Schema

def Schema.Location.toJson (location : Location) : Json :=
  .obj [("file", .str location.file.text), ("line", .ofNat location.line)]

def Diagnostic.toJson (diagnostic : Diagnostic) : Json :=
  .obj [("kind", .str diagnostic.kind.key), ("location", diagnostic.location.toJson),
    ("message", .str diagnostic.message)]

/-- The members of a violation, without the statement that mends it. -/
def Lint.Violation.members (violation : Violation) : List (String × Json) :=
  [("table", .str violation.table), ("column", .str violation.column),
    ("reason", .str "MISSING_INDEX"), ("inferred_kind", .str violation.kind.name),
    ("location", violation.location.toJson), ("first_seen", violation.firstSeen.toJson)]

def Lint.Stats.toJson (stats : Stats) : Json :=
  .obj [("files", .ofNat stats.files), ("columns_tracked", .ofNat stats.columnsTracked),
    ("foreign_keys", .ofNat stats.foreignKeys), ("indexes", .ofNat stats.indexes)]

namespace Report

/-- The report of a run that took a number of seconds. -/
def toJson (report : Report) (seconds : Float) : Json :=
  .obj [
    ("outcome", .str (match report.outcome with
      | .clean => "clean"
      | .violations _ => "violations")),
    ("schema", .str report.schema.text),
    ("schema_version", .ofOption .str report.schemaVersion),
    ("files", .ofStrings (report.files.map (·.text))),
    ("violations", .arr (report.verdict.violations.map fun violation =>
      .obj (violation.members ++ [("suggestion", .str violation.suggestion)]))),
    ("diagnostics", .arr (report.verdict.diagnostics.map Diagnostic.toJson)),
    ("stats", report.verdict.stats.toJson),
    ("duration_secs", .float seconds)]

/-- The paths that the document names. -/
def paths (report : Report) : List Path :=
  report.schema :: report.files ++
    report.verdict.violations.flatMap (fun violation =>
      [violation.location.file, violation.firstSeen.file]) ++
    report.verdict.diagnostics.map (·.location.file)

/-- The document with one item a line. A path that is not text has no place in it. -/
def document? (report : Report) (seconds : Float) : Option String :=
  if report.paths.all fun path => path.raw.text?.isSome then
    some ((report.toJson seconds).pretty ++ "\n")
  else none

end Report

end ForeignKeyLint
