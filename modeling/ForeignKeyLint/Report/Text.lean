import ForeignKeyLint.Report

/-!
A report for people, in colours if asked for: a heading, a summary, the diagnostics and the
violations.
-/

namespace ForeignKeyLint

open Lint Text

/-- The look of a piece of text. -/
inductive Style where
  | heading
  | note
  | caution
  | success
  | failure
  | mark
  | strong
  | dim
  | category
  | culprit
  | remedy
deriving Repr, DecidableEq

/-- The codes of a look: bold or dim first, then the colour. -/
def Style.codes : Style → String
  | .heading => "1;94"
  | .note => "96"
  | .caution => "93"
  | .success => "1;92"
  | .failure => "1;91"
  | .mark => "31"
  | .strong => "1"
  | .dim => "2"
  | .category => "33"
  | .culprit => "91"
  | .remedy => "92"

/-- How pieces of text are shown. -/
structure Palette where
  inColour : Bool := false
deriving Repr, DecidableEq

namespace Palette

/-- Goes back to the plain look. -/
def reset : List Char :=
  "\x1b[0m".toList

/-- Takes up a look again wherever the text itself goes back to the plain one. -/
def resume (start : List Char) (text : List Char) : List Char :=
  match text with
  | [] => []
  | c :: rest =>
    if beginsWith reset (c :: rest) then
      reset ++ start ++ resume start (rest.drop (reset.length - 1))
    else c :: resume start rest
termination_by text.length
decreasing_by all_goals simp_wf; try omega

/-- A piece of text in a look. -/
def paint (palette : Palette) (style : Style) (text : String) : String :=
  if palette.inColour then
    let start := ("\x1b[" ++ style.codes ++ "m").toList
    String.ofList (start ++ resume start text.toList ++ reset)
  else text

end Palette

namespace Report

def summary (report : Report) : String :=
  let version := match report.schemaVersion with
    | some version => " (version " ++ version ++ ")"
    | none => ""
  "Schema " ++ report.schema.text ++ version ++ ", " ++ Decimal.text report.files.length ++
    " migration files, " ++ Decimal.text report.verdict.stats.foreignKeys ++ " foreign keys"

def diagnosticLine (palette : Palette) (diagnostic : Diagnostic) : String :=
  "   " ++ palette.paint .dim diagnostic.location.text ++ " [" ++
    palette.paint .category diagnostic.kind.name ++ "] " ++ diagnostic.message ++ "\n"

/-- A violation, the place where its column was first seen if that is another, and the remedy. -/
def violationLines (palette : Palette) (violation : Violation) : String :=
  let firstSeen :=
    if violation.firstSeen.equivalent violation.location then ""
    else "     first declared at " ++ violation.firstSeen.text ++ "\n"
  palette.paint .mark "❌" ++ " " ++ palette.paint .strong violation.location.text ++
    " - Missing index on " ++ palette.paint .culprit (violation.table ++ "." ++ violation.column) ++
    " (" ++ violation.kind.name ++ ")\n" ++ firstSeen ++
    "     Suggestion: " ++ palette.paint .remedy violation.suggestion ++ "\n"

def diagnosticsText (palette : Palette) (diagnostics : List Diagnostic) : String :=
  if diagnostics.isEmpty then ""
  else
    "\n" ++ palette.paint .caution ("⚠️  " ++ Decimal.text diagnostics.length ++ " diagnostics") ++
      "\n" ++ String.join (diagnostics.map (diagnosticLine palette))

def outcomeText (palette : Palette) (violations : List Violation) : String :=
  if violations.isEmpty then
    palette.paint .success "✅ All foreign keys are indexed" ++ "\n"
  else
    String.join (violations.map (violationLines palette)) ++ "\n" ++
      palette.paint .failure
        ("Found " ++ Decimal.text violations.length ++ " unindexed foreign keys") ++ "\n"

def text (report : Report) (palette : Palette) : String :=
  "\n" ++ palette.paint .heading "══ Foreign key index check " ++ "\n\n" ++
    palette.paint .note ("ℹ️  " ++ report.summary) ++ "\n" ++
    diagnosticsText palette report.verdict.diagnostics ++ "\n" ++
    outcomeText palette report.verdict.violations

end Report

end ForeignKeyLint
