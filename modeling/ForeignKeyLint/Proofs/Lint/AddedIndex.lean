import ForeignKeyLint.Proofs.Lint.Reported
import ForeignKeyLint.Proofs.Schema.Cover

/-!
What an index more does to a verdict. Wherever it is added, in the snapshot or in a file, and whatever
renames, removals and drops come after it, it takes violations away at most and changes nothing else
but the number of indexes. The indexes that the violations themselves suggest, added at the end, take
away exactly these violations.

The first part compares two runs whose schemas cover each other. The second part reads the indexes
after the end of the history, where nothing moves them any more, and needs that a column is reported
at most once.
-/

namespace ForeignKeyLint.Lint

open Migration Schema

/-- The second snapshot and files have one event more, somewhere in the snapshot or in a file. -/
inductive Inserted (event : Event) : Snapshot → List File → Snapshot → List File → Prop
  | intoSnapshot {snapshot : Snapshot} {files : List File} (before after : List Event)
      (hevents : snapshot.events = before ++ after) :
      Inserted event snapshot files { snapshot with events := before ++ event :: after } files
  | intoFile {snapshot : Snapshot} (earlier later : List File) (file : File)
      (before after : List Event) (hevents : file.events = before ++ after) :
      Inserted event snapshot (earlier ++ file :: later) snapshot
        (earlier ++ { file with events := before ++ event :: after } :: later)

/-- The first verdict has no violation that the second has not, and tells the same otherwise. -/
structure Verdict.Relieves (relieved verdict : Verdict) : Prop where
  violations : relieved.violations.Sublist verdict.violations
  diagnostics : relieved.diagnostics = verdict.diagnostics
  columnsTracked : relieved.stats.columnsTracked = verdict.stats.columnsTracked
  foreignKeys : relieved.stats.foreignKeys = verdict.stats.foreignKeys
  indexes : verdict.stats.indexes ≤ relieved.stats.indexes

/-- The index that a violation suggests, as an event. -/
def Violation.remedy (violation : Violation) (location : Location) : Event :=
  { operation := .addIndex violation.table [violation.column], location }

/-- Events at the end of the last file, or in a file of their own if there is none. -/
def appendToLast (path : Path) (events : List Event) : List File → List File
  | [] => [{ path, events, diagnostics := [] }]
  | [file] => [{ file with events := file.events ++ events }]
  | file :: next :: files => file :: appendToLast path events (next :: files)

theorem Inserted.history {event : Event} {snapshot longerSnapshot : Snapshot}
    {files longerFiles : List File}
    (h : Inserted event snapshot files longerSnapshot longerFiles) :
    ∃ before after origin, Lint.history snapshot files = before ++ after ∧
      Lint.history longerSnapshot longerFiles = before ++ { origin, event } :: after := by
  cases h with
  | intoSnapshot before after hevents =>
    refine ⟨occurrences .snapshot before,
      occurrences .snapshot after ++ occurrences .changeSet (files.flatMap (·.events)),
      .snapshot, ?_, ?_⟩
    · simp [Lint.history, occurrences, hevents]
    · simp [Lint.history, occurrences]
  | intoFile earlier later file before after hevents =>
    refine ⟨occurrences .snapshot snapshot.events ++
        occurrences .changeSet (earlier.flatMap (·.events) ++ before),
      occurrences .changeSet (after ++ later.flatMap (·.events)), .changeSet, ?_, ?_⟩
    · simp [Lint.history, occurrences, hevents]
    · simp [Lint.history, occurrences]

theorem Inserted.diagnostics {event : Event} {snapshot longerSnapshot : Snapshot}
    {files longerFiles : List File}
    (h : Inserted event snapshot files longerSnapshot longerFiles) :
    longerSnapshot.diagnostics = snapshot.diagnostics ∧
      longerFiles.flatMap (·.diagnostics) = files.flatMap (·.diagnostics) := by
  cases h with
  | intoSnapshot => exact ⟨rfl, rfl⟩
  | intoFile => simp

/-- An index added anywhere leaves a schema that covers the one without it. -/
theorem Inserted.covers {table : String} {columns : List String} {location : Location}
    {snapshot longerSnapshot : Snapshot} {files longerFiles : List File}
    (h : Inserted { operation := .addIndex table columns, location } snapshot files longerSnapshot
      longerFiles) :
    (finalState longerSnapshot longerFiles).Covers (finalState snapshot files) := by
  obtain ⟨before, after, origin, hhistory, hlonger⟩ := h.history
  rw [finalState_eq_replay, finalState_eq_replay, hhistory, hlonger, State.replay_append,
    State.replay_append]
  have hadded := State.covers_addIndex (State.replay {} before) { table, columns }
  exact hadded.replay after

theorem isViolation_of_covers {more less : State} (h : more.Covers less) {policy : Policy}
    {key : ColumnKey} {column : Column} (hviolation : policy.isViolation more key column = true) :
    policy.isViolation less key column = true := by
  obtain ⟨hsuffix, hkind, hprovides, hindexed, hrest⟩ := (isViolation_iff _ _ _ _).mp hviolation
  refine (isViolation_iff _ _ _ _).mpr ⟨hsuffix, hkind, hprovides, ?_, hrest⟩
  rintro ⟨index, hindex, hleads⟩
  exact hindexed ⟨index, h.indexes hindex, hleads⟩

/-- A schema that covers another one gives a verdict that relieves the other's. -/
theorem check_relieves {policy : Policy} {snapshot longerSnapshot : Snapshot}
    {files longerFiles : List File}
    (hcovers : (finalState longerSnapshot longerFiles).Covers (finalState snapshot files))
    (hsnapshot : longerSnapshot.diagnostics = snapshot.diagnostics)
    (hfiles : longerFiles.flatMap (·.diagnostics) = files.flatMap (·.diagnostics)) :
    (policy.check longerSnapshot longerFiles).Relieves (policy.check snapshot files) where
  violations := by
    simp only [Policy.check, violations_eq_map, hcovers.columns]
    apply List.Sublist.map
    apply List.monotone_filter_right
    intro entry hentry
    exact isViolation_of_covers hcovers hentry
  diagnostics := by
    simp only [Policy.check, hsnapshot, hfiles, hcovers.ambiguousRetypes]
  columnsTracked := by simp only [Policy.check, hcovers.columns]
  foreignKeys := by simp only [Policy.check, Policy.foreignKeys, hcovers.columns]
  indexes := countDistinct_le_of_subset hcovers.indexes

theorem events_appendToLast (path : Path) (events : List Event) (files : List File) :
    (appendToLast path events files).flatMap (·.events) = files.flatMap (·.events) ++ events := by
  fun_induction appendToLast path events files with
  | case1 => simp
  | case2 file => simp
  | case3 file next files ih =>
    rw [List.flatMap_cons, ih]
    simp

theorem diagnostics_appendToLast (path : Path) (events : List Event) (files : List File) :
    (appendToLast path events files).flatMap (·.diagnostics) = files.flatMap (·.diagnostics) := by
  fun_induction appendToLast path events files with
  | case1 => simp
  | case2 file => simp
  | case3 file next files ih =>
    rw [List.flatMap_cons, ih]
    simp

section Remedies

variable {place : Violation → Location} {remedied : List Violation}

/-- The schema after the indexes that violations suggest. -/
def remedy (place : Violation → Location) (remedied : List Violation) (state : State) : State :=
  state.applyAll .changeSet (remedied.map fun violation => violation.remedy (place violation))

theorem finalState_appendToLast (snapshot : Snapshot) (files : List File) (path : Path)
    (place : Violation → Location) (remedied : List Violation) :
    finalState snapshot (appendToLast path
      (remedied.map fun violation => violation.remedy (place violation)) files) =
        remedy place remedied (finalState snapshot files) := by
  rw [finalState, events_appendToLast]
  exact List.foldl_append

theorem remedy_cons (violation : Violation) (state : State) :
    remedy place (violation :: remedied) state =
      remedy place remedied (state.addIndex ⟨violation.table, [violation.column]⟩) := rfl

theorem covers_remedy (state : State) : (remedy place remedied state).Covers state := by
  induction remedied generalizing state with
  | nil => exact .refl state
  | cons violation remedied ih =>
    rw [remedy_cons]
    exact (ih _).trans (State.covers_addIndex state _)

theorem mem_indexes_remedy (state : State) (index : Index) :
    index ∈ (remedy place remedied state).indexes ↔ index ∈ state.indexes ∨
      ∃ violation ∈ remedied, index = ⟨violation.table, [violation.column]⟩ := by
  induction remedied generalizing state with
  | nil =>
    change index ∈ state.indexes ↔ _
    simp
  | cons violation remedied ih =>
    rw [remedy_cons, ih, State.mem_addIndex]
    simp [or_assoc]

/-- After the suggested indexes a column is at fault if it was before and none of them names it. -/
theorem isViolation_remedy_iff (policy : Policy) (state : State) (key : ColumnKey)
    (column : Column) :
    policy.isViolation (remedy place remedied state) key column = true ↔
      policy.isViolation state key column = true ∧
        ∀ violation ∈ remedied, ¬(violation.table = key.table ∧ violation.column = key.column) := by
  have hserved : (∃ index ∈ (remedy place remedied state).indexes,
      index.table = key.table ∧ index.leading? = some key.column) ↔
      (∃ index ∈ state.indexes, index.table = key.table ∧ index.leading? = some key.column) ∨
        ∃ violation ∈ remedied, violation.table = key.table ∧ violation.column = key.column := by
    constructor
    · rintro ⟨index, hindex, htable, hleading⟩
      rcases (mem_indexes_remedy state index).mp hindex with hknown | ⟨violation, hmem, rfl⟩
      · exact .inl ⟨index, hknown, htable, hleading⟩
      · exact .inr ⟨violation, hmem, htable, by simpa [Index.leading?] using hleading⟩
    · rintro (⟨index, hindex, hleads⟩ | ⟨violation, hmem, htable, hcolumn⟩)
      · exact ⟨index, (mem_indexes_remedy state index).mpr (.inl hindex), hleads⟩
      · let index : Index := { table := violation.table, columns := [violation.column] }
        have hindex : index ∈ (remedy place remedied state).indexes :=
          (mem_indexes_remedy state index).mpr (.inr ⟨violation, hmem, rfl⟩)
        exact ⟨index, hindex, htable, by simp [index, Index.leading?, hcolumn]⟩
  rw [isViolation_iff, isViolation_iff, hserved, not_or]
  constructor
  · rintro ⟨hsuffix, hkind, hprovides, ⟨hindexed, hremedied⟩, hrest⟩
    exact ⟨⟨hsuffix, hkind, hprovides, hindexed, hrest⟩, fun violation hmem hnames =>
      hremedied ⟨violation, hmem, hnames⟩⟩
  · rintro ⟨⟨hsuffix, hkind, hprovides, hindexed, hrest⟩, hremedied⟩
    refine ⟨hsuffix, hkind, hprovides, ⟨hindexed, ?_⟩, hrest⟩
    rintro ⟨violation, hmem, hnames⟩
    exact hremedied violation hmem hnames

/-- A violation is determined by its table and column, because a column is recorded once. -/
theorem eq_ofEntry_of_mem_violations {policy : Policy} {state : State}
    (hsorted : state.columns.Sorted) {violation : Violation}
    (hviolation : violation ∈ policy.violations state) {entry : ColumnKey × Column}
    (hentry : entry ∈ state.columns) (htable : violation.table = entry.1.table)
    (hcolumn : violation.column = entry.1.column) : violation = .ofEntry entry := by
  rw [violations_eq_map, List.mem_map] at hviolation
  obtain ⟨⟨key, column⟩, hmem, rfl⟩ := hviolation
  obtain ⟨otherKey, otherColumn⟩ := entry
  obtain ⟨table, name⟩ := key
  obtain ⟨otherTable, otherName⟩ := otherKey
  obtain rfl : table = otherTable := htable
  obtain rfl : name = otherName := hcolumn
  have hfound := (hsorted.mem_iff _ _).mp (List.mem_of_mem_filter hmem)
  have hother := (hsorted.mem_iff _ _).mp hentry
  obtain rfl : column = otherColumn := Option.some.inj (hfound.symm.trans hother)
  rfl

/-- The suggested indexes take away the violations that suggest them, and no other. -/
theorem violations_remedy {policy : Policy} {state : State} (hsorted : state.columns.Sorted)
    (hremedied : ∀ violation ∈ remedied, violation ∈ policy.violations state) :
    policy.violations (remedy place remedied state) =
      (policy.violations state).filter fun violation => violation ∉ remedied := by
  rw [violations_eq_map, violations_eq_map, List.filter_map, List.filter_filter,
    (covers_remedy state).columns]
  congr 1
  apply List.filter_congr
  intro entry hentry
  have hnamed : (∀ violation ∈ remedied,
      ¬(violation.table = entry.1.table ∧ violation.column = entry.1.column)) ↔
        Violation.ofEntry entry ∉ remedied := by
    constructor
    · intro hnone hmem
      exact hnone _ hmem ⟨rfl, rfl⟩
    · rintro hnot violation hmem ⟨htable, hcolumn⟩
      have heq := eq_ofEntry_of_mem_violations hsorted (hremedied violation hmem) hentry htable
        hcolumn
      exact hnot (heq ▸ hmem)
  rw [Bool.eq_iff_iff, isViolation_remedy_iff, hnamed]
  simp [and_comm]

end Remedies

/-- An index added anywhere relieves a verdict or leaves it as it is, and the indexes that some of its
violations suggest relieve it of these. -/
theorem check_with_added_indexes (policy : Policy) (snapshot : Snapshot) (files : List File) :
    (∀ (table : String) (columns : List String) (location : Location) (longerSnapshot : Snapshot)
      (longerFiles : List File),
      Inserted { operation := .addIndex table columns, location } snapshot files longerSnapshot
        longerFiles →
      (policy.check longerSnapshot longerFiles).Relieves (policy.check snapshot files)) ∧
    (∀ (remedied : List Violation) (place : Violation → Location) (path : Path),
      (∀ violation ∈ remedied, violation ∈ (policy.check snapshot files).violations) →
      let remedies := remedied.map fun violation => violation.remedy (place violation)
      let verdict := policy.check snapshot (appendToLast path remedies files)
      verdict.Relieves (policy.check snapshot files) ∧
        verdict.violations =
          (policy.check snapshot files).violations.filter fun violation => violation ∉ remedied) := by
  constructor
  · intro table columns location longerSnapshot longerFiles hinserted
    obtain ⟨hsnapshot, hfiles⟩ := hinserted.diagnostics
    exact check_relieves hinserted.covers hsnapshot hfiles
  · intro remedied place path hremedied remedies verdict
    have hstate := finalState_appendToLast snapshot files path place remedied
    have hsorted := sorted_finalState snapshot files
    constructor
    · apply check_relieves _ rfl (diagnostics_appendToLast path remedies files)
      rw [hstate]
      exact covers_remedy _
    · change policy.violations (finalState snapshot (appendToLast path remedies files)) = _
      rw [hstate]
      exact violations_remedy hsorted hremedied

def albumSnapshot : Snapshot where
  events := [
    { operation := .declareColumn "albums" "artist_id" .bigint .unspecified
      location := { file := ⟨"schema.rb"⟩, line := 1 } }]

/-- A file that renames the column and its table, and declares another column. -/
def movingFile : File where
  path := ⟨"1.rb"⟩
  events := [
    { operation := .renameColumn "albums" "artist_id" "performer_id"
      location := { file := ⟨"1.rb"⟩, line := 1 } },
    { operation := .renameTable "albums" "records"
      location := { file := ⟨"1.rb"⟩, line := 2 } },
    { operation := .declareColumn "records" "label_id" .integer .unspecified
      location := { file := ⟨"1.rb"⟩, line := 3 } }]
  diagnostics := []

def labelViolation : Violation where
  table := "records"
  column := "label_id"
  kind := .integer
  location := { file := ⟨"1.rb"⟩, line := 3 }
  firstSeen := { file := ⟨"1.rb"⟩, line := 3 }

/-- An index of the snapshot moves along with the column it serves, and the suggestion for the other
column leaves this one reported. -/
theorem check_records_with_added_indexes :
    let index : Event :=
      { operation := .addIndex "albums" ["artist_id"]
        location := { file := ⟨"schema.rb"⟩, line := 2 } }
    let verdict := Policy.check {} albumSnapshot [movingFile]
    let indexed := Policy.check {}
      { albumSnapshot with events := albumSnapshot.events ++ [index] } [movingFile]
    let remedied := Policy.check {} albumSnapshot (appendToLast ⟨"2.rb"⟩
      [labelViolation.remedy { file := ⟨"1.rb"⟩, line := 4 }] [movingFile])
    indexed.Relieves verdict ∧ indexed.violations = [labelViolation] ∧
      labelViolation ∈ verdict.violations ∧
      remedied.violations = verdict.violations.filter (· ∉ [labelViolation]) ∧
      remedied.violations.map (·.column) = ["performer_id"] := by
  intro index verdict indexed remedied
  obtain ⟨hinserted, hremedied⟩ := check_with_added_indexes {} albumSnapshot [movingFile]
  have hreported : ∀ violation ∈ [labelViolation], violation ∈ verdict.violations := by decide
  have hremedy := hremedied [labelViolation]
    (fun _ => { file := ⟨"1.rb"⟩, line := 4 }) ⟨"2.rb"⟩ hreported
  have hevents : albumSnapshot.events = albumSnapshot.events ++ [] := by rw [List.append_nil]
  refine ⟨hinserted _ _ _ _ _ (.intoSnapshot albumSnapshot.events [] hevents), by decide,
    hreported labelViolation List.mem_cons_self, hremedy.2, by decide⟩

end ForeignKeyLint.Lint
