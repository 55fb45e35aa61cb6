import ForeignKeyLint.Proofs.Lint.Reported
import ForeignKeyLint.Proofs.Schema.Lineage

/-!
Where the fields of a violation come from. Whatever renames, drops and removals a history holds, the
kind and the place of a violation are those of one declaration or change of type, and the place where
its column was first seen is that of the same event or of an earlier one. A column is reported at
most once. When only changed columns are reported, a change set that neither declares nor retypes nor
renames a column has no violation.

All of this is read off the lineage of the column, which is a part of the history.
-/

namespace ForeignKeyLint.Lint

open Migration Schema

/-- The violation tells of events that its column went through: `giver` is the declaration or change
of type that gave the column its kind, and `first` is the one that the column was first seen in. -/
def Violation.StemsFrom (violation : Violation) (history : List Occurrence) : Prop :=
  let events := lineage history { table := violation.table, column := violation.column }
  ∃ before first after giver, history = before ++ first :: after ∧ giver ∈ first :: after ∧
    first.operation.givenKind?.isSome = true ∧ first.event.location = violation.firstSeen ∧
    giver.operation.givenKind? = some violation.kind ∧ giver.event.location = violation.location ∧
    first ∈ events ∧ giver ∈ events

/-- The events of a lineage stand in the history from the first of them on. -/
theorem exists_split_of_lineage {history : List Occurrence} {key : ColumnKey} {first : Occurrence}
    (h : (lineage history key).head? = some first) :
    ∃ before after, history = before ++ first :: after ∧ lineage history key ⊆ first :: after := by
  obtain ⟨rest, hlineage⟩ := List.head?_eq_some_iff.mp h
  have hsublist : (first :: rest).Sublist history := by
    rw [← hlineage]
    exact (lineage_sublist history key).trans List.filter_sublist
  obtain ⟨upTo, others, rfl, hfirst, hrest⟩ := List.cons_sublist_iff.mp hsublist
  obtain ⟨before, between, rfl⟩ := List.append_of_mem hfirst
  refine ⟨before, between ++ others, by simp, ?_⟩
  rw [hlineage]
  apply List.cons_subset_cons
  exact List.subset_append_of_subset_right between hrest.subset

/-- A record that traces to its lineage stems from events of the history. -/
theorem stemsFrom_ofEntry {history : List Occurrence} {key : ColumnKey} {column : Column}
    (h : column.TracesTo (lineage history key)) :
    (Violation.ofEntry (key, column)).StemsFrom history := by
  obtain ⟨first, hhead, hgiven, hfirst⟩ := h.firstSeen
  obtain ⟨giver, hgiver, hkind, hlocation⟩ := h.kind
  obtain ⟨before, after, hsplit, hsubset⟩ := exists_split_of_lineage hhead
  exact ⟨before, first, after, giver, hsplit, hsubset hgiver, hgiven, hfirst, hkind, hlocation,
    List.mem_of_head? hhead, hgiver⟩

/-- A touched column has an event of the change set in its lineage. -/
theorem exists_changeSet_of_touched {history : List Occurrence} {key : ColumnKey} {column : Column}
    (h : column.TracesTo (lineage history key)) (htouched : column.touched = true) :
    ∃ occurrence ∈ history, occurrence.origin = .changeSet ∧
      occurrence.operation.touchesColumn = true := by
  rw [h.sumsUp.touched, exists_changeSet_iff] at htouched
  obtain ⟨occurrence, hmem, horigin⟩ := htouched
  have htouches := (lineage_sublist history key).subset hmem
  rw [List.mem_filter] at htouches
  exact ⟨occurrence, htouches.1, horigin, htouches.2⟩

/-- A violation is that of a recorded column that the policy finds at fault, and the record traces to
the lineage of the column. -/
theorem exists_entry_of_mem_violations {policy : Policy} {snapshot : Snapshot} {files : List File}
    {violation : Violation} (h : violation ∈ (policy.check snapshot files).violations) :
    ∃ key column, column.TracesTo (lineage (history snapshot files) key) ∧
      policy.isViolation (finalState snapshot files) key column = true ∧
      violation = .ofEntry (key, column) := by
  change violation ∈ policy.violations (finalState snapshot files) at h
  rw [violations_eq_map, List.mem_map] at h
  obtain ⟨⟨key, column⟩, hmem, rfl⟩ := h
  obtain ⟨hentry, hviolation⟩ := List.mem_filter.mp hmem
  have hfound := ((sorted_finalState snapshot files).mem_iff key column).mp hentry
  rw [finalState_eq_replay] at hfound
  exact ⟨key, column, tracesTo_lineage hfound, hviolation, rfl⟩

/-- The columns that violations name are distinct, because a column is recorded once. -/
theorem nodup_violations {state : State} (h : state.columns.Sorted) (policy : Policy) :
    ((policy.violations state).map fun violation => (violation.table, violation.column)).Nodup := by
  rw [violations_eq_map, List.map_map]
  refine List.pairwise_map.mpr ((h.filter _).imp ?_)
  rintro ⟨⟨table, name⟩, column⟩ ⟨⟨otherTable, otherName⟩, other⟩ hlt heq
  obtain ⟨rfl, rfl⟩ := Prod.mk.inj heq
  exact ColumnKey.ne_of_compare_lt hlt rfl

/-- Each violation stems from events of the history, no two name the same column, and a change set
that touches no column has none of its own. -/
theorem check_provenance (policy : Policy) (snapshot : Snapshot) (files : List File) :
    (∀ violation ∈ (policy.check snapshot files).violations,
      violation.StemsFrom (history snapshot files)) ∧
    ((policy.check snapshot files).violations.map fun violation =>
      (violation.table, violation.column)).Nodup ∧
    (policy.scope = .changed →
      (∀ file ∈ files, ∀ event ∈ file.events, event.operation.touchesColumn = false) →
      (policy.check snapshot files).violations = []) := by
  refine ⟨?_, nodup_violations (sorted_finalState snapshot files) policy, ?_⟩
  · intro violation hmem
    obtain ⟨key, column, htraces, -, rfl⟩ := exists_entry_of_mem_violations hmem
    exact stemsFrom_ofEntry htraces
  · intro hscope huntouched
    rw [List.eq_nil_iff_forall_not_mem]
    intro violation hmem
    obtain ⟨key, column, htraces, hviolation, -⟩ := exists_entry_of_mem_violations hmem
    obtain ⟨-, -, -, -, -, hinScope⟩ := (isViolation_iff _ _ _ _).mp hviolation
    have htouched : column.touched = true := hinScope.resolve_left (by simp [hscope])
    obtain ⟨occurrence, hoccurs, horigin, htouches⟩ := exists_changeSet_of_touched htraces htouched
    simp only [history, occurrences, List.mem_append, List.mem_map, List.mem_flatMap] at hoccurs
    rcases hoccurs with ⟨event, -, rfl⟩ | ⟨event, ⟨file, hfile, hevent⟩, rfl⟩
    · cases horigin
    · have hfalse := huntouched file hfile event hevent
      rw [Occurrence.operation] at htouches
      simp [hfalse] at htouches

/-- A snapshot with one foreign key, which no index serves. -/
def artistSnapshot : Snapshot where
  events := [
    { operation := .declareColumn "albums" "artist_id" .bigint .unspecified
      location := { file := ⟨"schema.rb"⟩, line := 1 } }]

/-- A file that renames the column and its table, with a change of type in between and a declaration
after it that does not count. -/
def performerFile : File where
  path := ⟨"1.rb"⟩
  events := [
    { operation := .renameColumn "albums" "artist_id" "performer_id"
      location := { file := ⟨"1.rb"⟩, line := 1 } },
    { operation := .retypeColumn "albums" "performer_id" .integer
      location := { file := ⟨"1.rb"⟩, line := 2 } },
    { operation := .renameTable "albums" "records"
      location := { file := ⟨"1.rb"⟩, line := 3 } },
    { operation := .declareColumn "records" "performer_id" .string .unspecified
      location := { file := ⟨"1.rb"⟩, line := 4 } }]
  diagnostics := []

/-- A file that renames the table and touches no column that is left. -/
def recordsFile : File where
  path := ⟨"2.rb"⟩
  events := [
    { operation := .renameTable "albums" "records"
      location := { file := ⟨"2.rb"⟩, line := 1 } },
    { operation := .removeColumn "records" "label_id"
      location := { file := ⟨"2.rb"⟩, line := 2 } },
    { operation := .addIndex "records" ["title", "artist_id"]
      location := { file := ⟨"2.rb"⟩, line := 3 } }]
  diagnostics := []

/-- The kind comes from the change of type between the renames, and the first sight from the
snapshot. The other file leaves a foreign key without an index that is not its own. -/
theorem check_renamed_artist :
    let violation : Violation :=
      { table := "records", column := "performer_id", kind := .integer
        location := { file := ⟨"1.rb"⟩, line := 2 }
        firstSeen := { file := ⟨"schema.rb"⟩, line := 1 } }
    (Policy.check {} artistSnapshot [performerFile]).violations = [violation] ∧
      violation.StemsFrom (history artistSnapshot [performerFile]) ∧
      (Policy.check {} artistSnapshot [recordsFile]).violations = [] ∧
      (Policy.check { scope := .all } artistSnapshot [recordsFile]).violations.map (·.column) =
        ["artist_id"] := by
  intro violation
  obtain ⟨hstems, -, -⟩ := check_provenance {} artistSnapshot [performerFile]
  obtain ⟨-, -, hnone⟩ := check_provenance {} artistSnapshot [recordsFile]
  exact ⟨by decide, hstems violation (by decide), hnone rfl (by decide), by decide⟩

end ForeignKeyLint.Lint
