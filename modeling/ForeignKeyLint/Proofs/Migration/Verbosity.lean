import ForeignKeyLint.Proofs.Migration.Fault
import ForeignKeyLint.Report
import Mathlib.Tactic.SplitIfs

/-!
What a verbose reading adds. A scan that is asked for remarks makes them in between its other
findings, about statements that mean nothing to it. Main statement: with the remarks left out, a
verbose scan finds the same in the same order, so the events of a file do not depend on verbosity, and
neither does anything in a report but the remarks among its diagnostics.

The flag is read at one place only. It takes the whole step function to see that the blocks that are
open never depend on it, and that no interpreter of statements makes a remark of its own.
-/

namespace ForeignKeyLint

open Schema

/-- The diagnostic is a remark about a statement that means nothing. -/
def Diagnostic.isRemark (diagnostic : Diagnostic) : Bool :=
  diagnostic.kind = .parseSkip

namespace Migration

open Ruby

def Finding.isRemark (finding : Finding) : Bool :=
  finding.diagnostic?.any Diagnostic.isRemark

/-- No statement is a remark of its own. -/
theorem filter_findings {meaning : Meaning} (h : meaning.FaultsProperly) (location : Location) :
    ((meaning.findings location).filter fun finding => !finding.isRemark) =
      meaning.findings location := by
  rw [List.filter_eq_self]
  intro finding hmem
  cases finding with
  | event event => rfl
  | diagnostic diagnostic =>
    have hfault := isFault_of_mem_findings h hmem
    have hkind : diagnostic.kind ≠ .parseSkip := by
      intro hskip
      rw [hskip] at hfault
      cases hfault
    simpa [Finding.isRemark, Finding.diagnostic?, Diagnostic.isRemark] using hkind

namespace Source

/-- The source, read without remarks. -/
def quiet (source : Source) : Source :=
  { source with verbose := false }

theorem filter_unclosed (source : Source) (statement : Statement) :
    ((source.unclosed statement).filter fun finding => !finding.isRemark) =
      source.quiet.unclosed statement := by
  unfold unclosed
  split <;> rfl

/-- Without remarks nothing is told of a statement that means nothing. -/
theorem filter_skipped (source : Source) (statement : Statement) :
    ((source.skipped statement).filter fun finding => !finding.isRemark) =
      source.quiet.skipped statement := by
  unfold skipped
  split <;> rfl

/-- A call finds the same with remarks and without, and opens the same. -/
theorem stepCall_quiet (source : Source) (nesting : Nesting) (statement : Statement) (call : Call) :
    source.quiet.stepCall nesting statement call =
      ((source.stepCall nesting statement call).1.filter fun finding => !finding.isRemark,
        (source.stepCall nesting statement call).2) := by
  have hcolumns := filter_findings (faultsProperly_columnMeaning nesting.table? call)
    (source.location statement.line)
  have hindexes := filter_findings (faultsProperly_indexMeaning nesting.table? call)
    (source.location statement.line)
  have hlocation : source.quiet.location statement.line = source.location statement.line := rfl
  have hskipped := filter_skipped source statement
  simp only [stepCall, hlocation]
  split_ifs <;> simp [hcolumns, hindexes, hskipped]

/-- A statement finds the same with remarks and without, and opens and closes the same. -/
theorem step_quiet (source : Source) (nesting : Nesting) (statement : Statement) :
    source.quiet.step nesting statement =
      ((source.step nesting statement).1.filter fun finding => !finding.isRemark,
        (source.step nesting statement).2) := by
  have hbody : source.quiet.stepBody nesting statement =
      ((source.stepBody nesting statement).1.filter fun finding => !finding.isRemark,
        (source.stepBody nesting statement).2) := by
    unfold stepBody
    split
    · rfl
    · split
      · rfl
      · rfl
      · split
        · exact stepCall_quiet source nesting statement _
        · exact Prod.ext (filter_skipped source statement).symm rfl
  simp only [step, hbody, List.filter_append, filter_unclosed]

theorem steps_quiet (source : Source) (nesting : Nesting) (statements : List Statement) :
    source.quiet.steps nesting statements =
      ((source.steps nesting statements).1.filter fun finding => !finding.isRemark,
        (source.steps nesting statements).2) := by
  induction statements generalizing nesting with
  | nil => rfl
  | cons statement others ih => simp only [steps, step_quiet, ih, List.filter_append]

/-- A scan without remarks is the scan with the remarks left out. -/
theorem scan_quiet (source : Source) (text : List Char) :
    source.quiet.scan text = (source.scan text).filter fun finding => !finding.isRemark := by
  have hunterminated (nesting : Nesting) :
      ((source.unterminated nesting).filter fun finding => !finding.isRemark) =
        source.quiet.unterminated nesting := by
    rw [unterminated, List.filter_map]
    congr 1
    exact List.filter_eq_self.mpr fun _ _ => rfl
  simp only [scan, steps_quiet, List.filter_append, hunterminated]

end Source

/-- The file without the remarks that reading it made. -/
def File.quiet (file : File) : File :=
  { file with diagnostics := file.diagnostics.filter fun diagnostic => !diagnostic.isRemark }

theorem filterMap_event?_filter (findings : List Finding) :
    (findings.filter fun finding => !finding.isRemark).filterMap Finding.event? =
      findings.filterMap Finding.event? := by
  rw [List.filterMap_filter]
  congr 1
  funext finding
  cases finding with
  | event found => rfl
  | diagnostic found => exact ite_self none

theorem filterMap_diagnostic?_filter (findings : List Finding) :
    (findings.filter fun finding => !finding.isRemark).filterMap Finding.diagnostic? =
      (findings.filterMap Finding.diagnostic?).filter fun diagnostic => !diagnostic.isRemark := by
  rw [List.filterMap_filter, List.filter_filterMap]
  congr 1
  funext finding
  cases finding with
  | event found => rfl
  | diagnostic found => rfl

theorem File.read_quiet (source : Source) (text : List Char) :
    File.read source.quiet text = (File.read source text).quiet := by
  simp only [File.read, File.quiet, Source.scan_quiet, filterMap_event?_filter,
    filterMap_diagnostic?_filter]
  rfl

end Migration

open Migration

/-- The snapshot without the remarks that reading it made. -/
def Snapshot.quiet (snapshot : Snapshot) : Snapshot :=
  { snapshot with
    diagnostics := snapshot.diagnostics.filter fun diagnostic => !diagnostic.isRemark }

theorem Snapshot.read_quiet (source : Source) (text : List Char) :
    Snapshot.read source.quiet text = (Snapshot.read source text).quiet := by
  simp only [Snapshot.read, Snapshot.quiet, File.read_quiet, File.quiet]

namespace Lint

/-- The verdict without the remarks that reading its inputs made. -/
def Verdict.quiet (verdict : Verdict) : Verdict :=
  { verdict with diagnostics := verdict.diagnostics.filter fun diagnostic => !diagnostic.isRemark }

/-- A verdict looks at events alone and adds no remark of its own. -/
theorem Policy.check_quiet (policy : Policy) (snapshot : Snapshot) (files : List File) :
    policy.check snapshot.quiet (files.map File.quiet) = (policy.check snapshot files).quiet := by
  have hstate : finalState snapshot.quiet (files.map File.quiet) = finalState snapshot files := by
    simp only [finalState, List.flatMap_map]
    rfl
  have hfiles : (files.map File.quiet).flatMap (·.diagnostics) =
      (files.flatMap (·.diagnostics)).filter fun diagnostic => !diagnostic.isRemark := by
    rw [List.flatMap_map, List.filter_flatMap]
    rfl
  have hambiguous (changes : List Retype) :
      ((changes.map ambiguity).filter fun diagnostic => !diagnostic.isRemark) =
        changes.map ambiguity := by
    rw [List.filter_map]
    congr 1
    exact List.filter_eq_self.mpr fun _ _ => rfl
  simp only [check, Verdict.quiet, hstate, hfiles, List.filter_append, hambiguous, List.length_map]
  rfl

end Lint

open Lint

/-- The report without the remarks that reading its texts made. -/
def Report.quiet (report : Report) : Report :=
  { report with verdict := report.verdict.quiet }

/-- A report without remarks is any report on the same texts with the remarks left out. -/
theorem Report.ofTexts_quiet (policy : Policy) (verbose : Bool) (snapshot : TextFile)
    (files : List TextFile) :
    ofTexts policy false snapshot files = (ofTexts policy verbose snapshot files).quiet := by
  let loudSnapshot := Snapshot.read { path := snapshot.path, verbose } snapshot.text
  let loudFiles := files.map fun file => File.read { path := file.path, verbose } file.text
  have hsnapshot : Snapshot.read { path := snapshot.path } snapshot.text = loudSnapshot.quiet :=
    Snapshot.read_quiet { path := snapshot.path, verbose } snapshot.text
  have hfiles : (files.map fun file => File.read { path := file.path } file.text) =
      loudFiles.map File.quiet := by
    rw [List.map_map]
    congr 1
    funext file
    exact File.read_quiet { path := file.path, verbose } file.text
  calc ofTexts policy false snapshot files
      = make policy snapshot.path loudSnapshot.quiet (loudFiles.map File.quiet) := by
        rw [← hsnapshot, ← hfiles]
        rfl
    _ = (make policy snapshot.path loudSnapshot loudFiles).quiet := by
        simp only [make, quiet, policy.check_quiet, List.map_map]
        rfl

/-- What is extracted from a text does not depend on how it is asked for: verbosity adds remarks to
the diagnostics and nothing else, the extraction by column and by index splits the events of a file,
and a report differs at most in the remarks among its diagnostics. -/
theorem extraction_up_to_remarks (path : Path) (text : List Char) (policy : Policy)
    (snapshot : TextFile) (files : List TextFile) :
    (let quiet := File.read { path, verbose := false } text
      let loud := File.read { path, verbose := true } text
      quiet.events = loud.events ∧
        quiet.diagnostics = loud.diagnostics.filter (·.kind ≠ .parseSkip) ∧
        ∀ verbose, (File.read { path, verbose } text).columnEvents = columnOperations path text ∧
          (File.read { path, verbose } text).indexEvents = indexOperations path text) ∧
    (let quiet := Report.ofTexts policy false snapshot files
      let loud := Report.ofTexts policy true snapshot files
      quiet.verdict.violations = loud.verdict.violations ∧
        quiet.verdict.stats = loud.verdict.stats ∧ quiet.files = loud.files ∧
        quiet.schemaVersion = loud.schemaVersion ∧
        quiet.verdict.diagnostics = loud.verdict.diagnostics.filter (·.kind ≠ .parseSkip)) := by
  have hremark (diagnostics : List Diagnostic) :
      (diagnostics.filter fun diagnostic => !diagnostic.isRemark) =
        diagnostics.filter (·.kind ≠ .parseSkip) := by
    congr 1
    funext diagnostic
    simp [Diagnostic.isRemark]
  have hread (verbose : Bool) : File.read { path, verbose := false } text =
      (File.read { path, verbose } text).quiet := File.read_quiet { path, verbose } text
  constructor
  · intro quiet loud
    have hquiet : quiet = loud.quiet := hread true
    refine ⟨by rw [hquiet]; rfl, by rw [hquiet, ← hremark]; rfl, ?_⟩
    intro verbose
    have hevents : (File.read { path, verbose } text).events =
        (File.read { path, verbose := false } text).events := by
      rw [hread verbose]
      rfl
    constructor
    · rw [File.columnEvents, hevents, File.read, List.filter_filterMap]
      rfl
    · rw [File.indexEvents, hevents, File.read, List.filter_filterMap]
      rfl
  · intro quiet loud
    have hquiet : quiet = loud.quiet := Report.ofTexts_quiet policy true snapshot files
    rw [hquiet, ← hremark]
    exact ⟨rfl, rfl, rfl, rfl, rfl⟩

end ForeignKeyLint
