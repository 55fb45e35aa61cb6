import ForeignKeyLint.Proofs.Migration.Fault
import ForeignKeyLint.Run
import ForeignKeyLint.World

/-!
Files that cannot be read. What a run makes of the disk is what an analysis makes of the same texts
in memory, with the empty text for each file that could not be read, and one complaint more for each
of these, right where the file would be told about. Nothing is found in the empty text, so the
complaint is all that is left of the file besides its name.

The run is written against a host. Beside reading, it does nothing to the host but tell log lines,
and this is part of the statement. That every result it returns is the right one would say nothing of
a run that stops half-way.
-/

namespace ForeignKeyLint

open Disk Lint Migration

/-- The complaint about a file that could not be read. -/
def readFailure? (path : Path) : ReadResult → Option Diagnostic
  | .ok _ => none
  | .error error => some {
      kind := .fileReadFailure
      location := { file := path, line := 0 }
      message := "failed to read: " ++ error.message }

/-- The file in memory, which is empty if it could not be read. -/
def TextFile.ofRead (path : Path) (read : ReadResult) : TextFile where
  path
  text := read.toOption.getD []

/-- What was found in the file. -/
def TextFile.found (verbose : Bool) (file : TextFile) : List Diagnostic :=
  (File.read { path := file.path, verbose } file.text).diagnostics

theorem statements_nil : Ruby.statements [] = [] := by
  rw [Ruby.statements, Ruby.Reader.statements, dif_pos]
  rfl

/-- Nothing is found in the empty text. -/
theorem read_nil (source : Source) :
    File.read source [] = { path := source.path, events := [], diagnostics := [] } := by
  rw [File.read, Source.scan, statements_nil]
  rfl

/-- A file as it was read is the file in memory, and the complaint if it could not be read. -/
theorem fileOfRead_eq (verbose : Bool) (path : Path) (read : ReadResult) :
    Report.fileOfRead verbose path read =
      { File.read { path, verbose } (TextFile.ofRead path read).text with
        diagnostics :=
          (readFailure? path read).toList ++ (TextFile.ofRead path read).found verbose } := by
  cases read with
  | ok text => rfl
  | error error =>
    have htext : (TextFile.ofRead path (.error error)).text = [] := rfl
    simp only [TextFile.found, htext, read_nil]
    rfl

/-- Complaints about files reach the diagnostics of a verdict and nothing else. -/
theorem check_of_complaints {α : Type} (policy : Policy) (snapshot : Snapshot) (items : List α)
    (file : α → File) (complaints : α → List Diagnostic) :
    policy.check snapshot (items.map fun item =>
        { file item with diagnostics := complaints item ++ (file item).diagnostics }) =
      { policy.check snapshot (items.map file) with
        diagnostics := snapshot.diagnostics ++
          items.flatMap (fun item => complaints item ++ (file item).diagnostics) ++
          (finalState snapshot (items.map file)).ambiguousRetypes.map ambiguity } := by
  have hstate : finalState snapshot (items.map fun item =>
      { file item with diagnostics := complaints item ++ (file item).diagnostics }) =
        finalState snapshot (items.map file) := by
    simp only [finalState, List.flatMap_map]
  simp only [Policy.check, hstate, List.flatMap_map, List.length_map]

/-- The report tells what the analysis tells, and complains besides about each file that could not
be read, where the analysis tells what it found in the file. -/
structure Report.AddsFailures (report : Report) (view : Path → ReadResult) (verbose : Bool)
    (snapshot : Snapshot) (analysis : Report) : Prop where
  rest : report = { analysis with
    verdict := { analysis.verdict with diagnostics := report.verdict.diagnostics } }
  placed : ∃ after,
    analysis.verdict.diagnostics = snapshot.diagnostics ++
      (analysis.files.flatMap fun path => (TextFile.ofRead path (view path)).found verbose) ++
      after ∧
    report.verdict.diagnostics = snapshot.diagnostics ++
      (analysis.files.flatMap fun path => (readFailure? path (view path)).toList ++
        (TextFile.ofRead path (view path)).found verbose) ++
      after
  /-- The analysis has no complaint of this kind, so the report has one for each such file. -/
  fresh : ∀ diagnostic ∈ analysis.verdict.diagnostics, diagnostic.kind ≠ .fileReadFailure

/-- An analysis in memory never complains about a file that could not be read. -/
theorem kind_ne_fileReadFailure {policy : Policy} {verbose : Bool} {snapshot : TextFile}
    {files : List TextFile} {diagnostic : Diagnostic}
    (h : diagnostic ∈ (Report.ofTexts policy verbose snapshot files).verdict.diagnostics) :
    diagnostic.kind ≠ .fileReadFailure := by
  have hscan {source : Source} {text : List Char}
      (hmem : diagnostic ∈ (File.read source text).diagnostics) :
      diagnostic.kind ≠ .fileReadFailure := by
    intro hkind
    have hread := isOfScan_of_mem_read hmem
    rw [hkind] at hread
    cases hread
  simp only [Report.ofTexts, Report.make, Policy.check, List.mem_append, List.flatMap_map,
    List.mem_flatMap, List.mem_map] at h
  rcases h with (hsnapshot | ⟨file, -, hfile⟩) | ⟨change, -, rfl⟩
  · exact hscan hsnapshot
  · exact hscan hfile
  · nofun

/-- The report on a view of the disk, given the text of the snapshot. -/
theorem ofView_eq_ok (policy : Policy) (verbose : Bool) {schema : Path} {view : Path → ReadResult}
    {text : List Char} (h : view schema = .ok text) (files : List Path) :
    ∃ report, Report.ofView policy verbose schema view files = .ok report ∧
      report.AddsFailures view verbose (Snapshot.read { path := schema, verbose } text)
        (Report.ofTexts policy verbose { path := schema, text }
          (files.map fun path => .ofRead path (view path))) := by
  let snapshot := Snapshot.read { path := schema, verbose } text
  let file (path : Path) : File :=
    File.read { path, verbose } (TextFile.ofRead path (view path)).text
  let complaints (path : Path) : List Diagnostic := (readFailure? path (view path)).toList
  have hfiles : (files.map fun path => Report.fileOfRead verbose path (view path)) =
      files.map fun path =>
        { file path with diagnostics := complaints path ++ (file path).diagnostics } :=
    List.map_congr_left fun path _ => fileOfRead_eq verbose path (view path)
  have hanalysis : Report.ofTexts policy verbose { path := schema, text }
      (files.map fun path => .ofRead path (view path)) =
        Report.make policy schema snapshot (files.map file) := by
    rw [Report.ofTexts, List.map_map]
    rfl
  have hpaths : (Report.make policy schema snapshot (files.map file)).files = files := by
    rw [Report.make, List.map_map]
    exact List.map_id files
  refine ⟨Report.make policy schema snapshot
    (files.map fun path => Report.fileOfRead verbose path (view path)), ?_, ?_⟩
  · rw [Report.ofView, h, Report.ofReads, List.map_map]
    rfl
  · let ambiguities := (finalState snapshot (files.map file)).ambiguousRetypes.map ambiguity
    have hfresh : ∀ diagnostic ∈
        (Report.make policy schema snapshot (files.map file)).verdict.diagnostics,
        diagnostic.kind ≠ .fileReadFailure := by
      rw [← hanalysis]
      exact fun _ => kind_ne_fileReadFailure
    rw [hanalysis, hfiles]
    refine ⟨?_, ⟨ambiguities, ?_, ?_⟩, hfresh⟩
    · simp only [Report.make, check_of_complaints, List.map_map]
      rfl
    · rw [hpaths]
      simp only [Report.make, Policy.check, List.flatMap_map]
      rfl
    · rw [hpaths]
      simp only [Report.make, check_of_complaints]
      rfl

section Run

variable {m : Type → Type} [Monad m] {α β : Type}

/-- The action tells log lines, one after the other, and then returns the result. -/
inductive TellsAndReturns (host : Host m) (result : α) : m α → Prop
  | done : TellsAndReturns host result (pure result)
  | info (line : Telemetry.LogLine) {rest : m α} (hrest : TellsAndReturns host result rest) :
    TellsAndReturns host result (do host.info line; rest)
  | warn (line : Telemetry.LogLine) {rest : m α} (hrest : TellsAndReturns host result rest) :
    TellsAndReturns host result (do host.warn line; rest)

variable [LawfulMonad m] {host : Host m}

theorem TellsAndReturns.bind {action : m α} {result : α} (h : TellsAndReturns host result action)
    {next : α → m β} {last : β} (hnext : TellsAndReturns host last (next result)) :
    TellsAndReturns host last (action >>= next) := by
  induction h with
  | done =>
    rw [pure_bind]
    exact hnext
  | info line hrest ih =>
    rw [bind_assoc]
    exact .info line ih
  | warn line hrest ih =>
    rw [bind_assoc]
    exact .warn line ih

variable {view : Path → ReadResult} (hview : ∀ path, host.readText path = pure (view path))

include hview

theorem readFile_of_view (path : Path) :
    TellsAndReturns host (path, view path) (Run.readFile host path) := by
  simp only [Run.readFile, hview, pure_bind]
  cases view path with
  | ok text => exact .done
  | error error => exact .warn _ .done

/-- The files are read in order, whichever of them fail. -/
theorem mapM_readFile_of_view (files : List Path) :
    TellsAndReturns host (files.map fun path => (path, view path))
      (files.mapM (Run.readFile host)) := by
  induction files with
  | nil =>
    rw [List.mapM_nil]
    exact .done
  | cons path files ih =>
    rw [List.mapM_cons]
    exact (readFile_of_view hview path).bind (ih.bind .done)

/-- A run reads and tells, and its result is the report on the view. -/
theorem lint_returns_ofView (config : Config) (verbose : Bool) (files : List Path) :
    TellsAndReturns host (Report.ofView config.policy verbose config.schemaPath view files)
      (Run.lint host config verbose files) := by
  simp only [Run.lint, hview, pure_bind, Report.ofView]
  cases view config.schemaPath with
  | error error => exact .info _ .done
  | ok text =>
    have hreads := mapM_readFile_of_view hview files
    exact .info _ (hreads.bind (.info _ .done))

/-- A run on any view of the disk returns the report of the analysis in memory, with a complaint for
each file that could not be read. It returns no report exactly if the snapshot cannot be read. -/
theorem lint_with_read_failures (config : Config) (verbose : Bool) (files : List Path) :
    ∃ result, TellsAndReturns host result (Run.lint host config verbose files) ∧
      match view config.schemaPath with
      | .error .notFound => result = .error (.missing config.schemaPath)
      | .error error => result = .error (.unreadable config.schemaPath error)
      | .ok text =>
        let snapshot : TextFile := { path := config.schemaPath, text }
        ∃ report, result = .ok report ∧
          report.AddsFailures view verbose (Snapshot.read { path := snapshot.path, verbose } text)
            (Report.ofTexts config.policy verbose snapshot
              (files.map fun path => .ofRead path (view path))) := by
  refine ⟨_, lint_returns_ofView hview config verbose files, ?_⟩
  split
  · next hread =>
    rw [Report.ofView, hread]
    rfl
  · next error hother hread =>
    rw [Report.ofView, hread]
    cases error <;> first | rfl | exact absurd rfl hother
  · next text hread => exact ofView_eq_ok config.policy verbose hread files

end Run

/-- A host in memory that shows the files of a view. -/
def viewHost (view : Path → ReadResult) : Host (StateM Transcript) :=
  { World.host { tree := { entries := [], workingDirectory := [] } } with
    readText := fun path => return view path }

/-- A disk with an empty schema, one migration, and one file that is no text. -/
def albumView (path : Path) : ReadResult :=
  match path.text with
  | "db/schema.rb" => .ok []
  | "1.rb" => .ok "add_column :albums, :artist_id, :bigint".toList
  | "2.rb" => .error .notText
  | _ => .error .notFound

/-- The file that is no text and the file that is not there leave the violation of the first file as
it is, and each has its complaint. -/
theorem lint_albumView :
    let files : List Path := [⟨"2.rb"⟩, ⟨"1.rb"⟩, ⟨"3.rb"⟩]
    ∃ report, TellsAndReturns (viewHost albumView) (.ok report)
        (Run.lint (viewHost albumView) {} false files) ∧
      report.files = files ∧ report.verdict.violations.map (·.column) = ["artist_id"] ∧
      report.verdict.diagnostics.map (fun diagnostic => (diagnostic.kind, diagnostic.location)) =
        [(.fileReadFailure, { file := ⟨"2.rb"⟩, line := 0 }),
          (.fileReadFailure, { file := ⟨"3.rb"⟩, line := 0 })] := by
  intro files
  have hview : ∀ path, (viewHost albumView).readText path = pure (albumView path) := fun _ => rfl
  obtain ⟨result, hreturns, report, rfl, hadds⟩ := lint_with_read_failures hview {} false files
  let analysis := Report.ofTexts ({} : Config).policy false
    { path := ⟨"db/schema.rb"⟩, text := [] } (files.map fun path => .ofRead path (albumView path))
  have hfiles : analysis.files = files := by decide +kernel
  have hviolations : analysis.verdict.violations.map (·.column) = ["artist_id"] := by
    decide +kernel
  have hquiet : analysis.verdict.diagnostics = [] := by decide +kernel
  refine ⟨report, hreturns, ?_, ?_, ?_⟩
  · rw [hadds.rest]
    exact hfiles
  · rw [hadds.rest]
    exact hviolations
  · obtain ⟨after, hanalysis, hreport⟩ := hadds.placed
    obtain ⟨-, rfl⟩ := List.append_eq_nil_iff.mp (hanalysis.symm.trans hquiet)
    rw [hreport]
    decide +kernel

end ForeignKeyLint
