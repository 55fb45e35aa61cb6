import ForeignKeyLint.Report

/-!
A report as workflow commands, one annotation a line: an error for each violation and a warning for
each diagnostic. The message of an annotation has no raw percent sign or line break.
-/

namespace ForeignKeyLint

open Schema

namespace Annotation

/-- A character of a message as it is written. -/
def escapeChar (c : Char) : List Char :=
  match c with
  | '%' => ['%', '2', '5']
  | '\r' => ['%', '0', 'D']
  | '\n' => ['%', '0', 'A']
  | _ => [c]

def escape (text : List Char) : List Char :=
  text.flatMap escapeChar

/-- A line that holds a command with its properties and its message. -/
def line (command properties title message : String) : String :=
  "::" ++ command ++ " " ++ properties ++ ",title=" ++ title ++ "::" ++
    String.ofList (escape message.toList) ++ "\n"

/-- The place an annotation is shown at; line zero stands for the whole file. -/
def position (location : Location) : String :=
  let file := "file=" ++ location.file.text
  if location.line = 0 then file else file ++ ",line=" ++ Decimal.text location.line

/-- The place of a violation always has its line. -/
def ofViolation (violation : Lint.Violation) : String :=
  let location := violation.location
  line "error" ("file=" ++ location.file.text ++ ",line=" ++ Decimal.text location.line)
    ("Missing index on " ++ violation.table ++ "." ++ violation.column) violation.text

def ofDiagnostic (diagnostic : Diagnostic) : String :=
  line "warning" (position diagnostic.location) diagnostic.kind.name diagnostic.message

end Annotation

/-- The annotations of a report: the violations, then the diagnostics. -/
def Report.annotations (report : Report) : String :=
  String.join (report.verdict.violations.map Annotation.ofViolation ++
    report.verdict.diagnostics.map Annotation.ofDiagnostic)

end ForeignKeyLint
