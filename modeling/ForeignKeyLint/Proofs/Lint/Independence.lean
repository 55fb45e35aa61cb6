import ForeignKeyLint.Proofs.Lint.AddedIndex
import ForeignKeyLint.Proofs.Schema.Tables
import Mathlib.Data.Finset.Card

/-!
Tables are judged one by one. When tables are chosen and no rename leads out of the choice or into it,
the violations in the chosen tables are those of the events on these tables alone, and the counts are
those for the chosen tables and for the others, added up. Files that mention no table in common can
be folded in any order.

All tables share one list of columns and one list of indexes. The first statement needs that a column
is judged by the indexes of its own table, and that indexes of different tables are different. The
second needs that a verdict looks at the indexes without regard to their order.
-/

namespace ForeignKeyLint

open Schema

/-- The snapshot without the events that mention other tables. -/
def Snapshot.onTables (snapshot : Snapshot) (chosen : String → Bool) : Snapshot :=
  { snapshot with events := snapshot.events.filter fun event => event.operation.isOn chosen }

namespace Migration

/-- The file without the events that mention other tables. -/
def File.onTables (file : File) (chosen : String → Bool) : File :=
  { file with events := file.events.filter fun event => event.operation.isOn chosen }

/-- The tables that the events of a file mention. -/
def File.tables (file : File) : List String :=
  file.events.flatMap fun event => event.operation.tables

end Migration

namespace Lint

open Migration

/-- The verdicts have the same violations and the same counts of columns, foreign keys and indexes. -/
structure Verdict.Agrees (first second : Verdict) : Prop where
  violations : first.violations = second.violations
  columnsTracked : first.stats.columnsTracked = second.stats.columnsTracked
  foreignKeys : first.stats.foreignKeys = second.stats.foreignKeys
  indexes : first.stats.indexes = second.stats.indexes

/-- Verdicts that agree on the same number of files have the same counts throughout. -/
theorem Verdict.Agrees.stats {first second : Verdict} (h : first.Agrees second)
    (hfiles : first.stats.files = second.stats.files) : first.stats = second.stats := by
  obtain ⟨_, _, ⟨files, columnsTracked, foreignKeys, indexes⟩⟩ := first
  obtain ⟨_, hcolumns, hforeignKeys, hindexes⟩ := h
  simp only at hfiles hcolumns hforeignKeys hindexes
  rw [hfiles, hcolumns, hforeignKeys, hindexes]

/-- A column is judged alike in states whose indexes on its table are the same. -/
theorem isViolation_congr (policy : Policy) {first second : State} {key : ColumnKey} (column : Column)
    (h : ∀ index, index.table = key.table → (index ∈ first.indexes ↔ index ∈ second.indexes)) :
    policy.isViolation first key column = policy.isViolation second key column := by
  have hserved : (∃ index ∈ first.indexes,
      index.table = key.table ∧ index.leading? = some key.column) ↔
      ∃ index ∈ second.indexes, index.table = key.table ∧ index.leading? = some key.column := by
    apply exists_congr
    intro index
    constructor
    · rintro ⟨hmem, htable, hleads⟩
      exact ⟨(h index htable).mp hmem, htable, hleads⟩
    · rintro ⟨hmem, htable, hleads⟩
      exact ⟨(h index htable).mpr hmem, htable, hleads⟩
  rw [Bool.eq_iff_iff, isViolation_iff, isViolation_iff, hserved]

/-- Schemas that are alike get the same verdict, their diagnostics aside. -/
theorem agrees_of_alike (policy : Policy) {snapshot other : Snapshot} {files others : List File}
    (h : Alike (finalState snapshot files) (finalState other others)) :
    (policy.check snapshot files).Agrees (policy.check other others) where
  violations := by
    simp only [Policy.check, violations_eq_map, h.columns]
    congr 1
    apply List.filter_congr
    intro entry _
    exact isViolation_congr policy entry.2 fun index _ => h.indexes index
  columnsTracked := by simp only [Policy.check, h.columns]
  foreignKeys := by simp only [Policy.check, Policy.foreignKeys, h.columns]
  indexes := by
    apply Nat.le_antisymm
    · exact countDistinct_le_of_subset fun index hindex => (h.indexes index).mp hindex
    · exact countDistinct_le_of_subset fun index hindex => (h.indexes index).mpr hindex

section Chosen

variable {chosen : String → Bool} {whole rest : State}

/-- The violations in chosen tables are those of the schema cut down to these tables. -/
theorem violations_of_restricts (policy : Policy) (h : Restricts (.ofTables chosen) whole rest)
    (hwhole : whole.columns.Sorted) (hrest : rest.columns.Sorted) :
    policy.violations rest =
      (policy.violations whole).filter fun violation => chosen violation.table := by
  rw [violations_eq_map, violations_eq_map, h.columns_eq hwhole hrest, List.filter_map,
    List.filter_filter, List.filter_filter]
  congr 1
  apply List.filter_congr
  intro entry _
  cases hchosen : chosen entry.1.table with
  | false => simp [Part.ofTables, Violation.ofEntry, hchosen]
  | true =>
    have hjudged : policy.isViolation rest entry.1 entry.2 =
        policy.isViolation whole entry.1 entry.2 := by
      apply isViolation_congr
      intro index htable
      rw [h.indexes, List.mem_filter]
      simp [Part.ofTables, htable, hchosen]
    simp [Part.ofTables, Violation.ofEntry, hchosen, hjudged]

/-- Columns are counted apart in chosen tables and in the others, whichever columns count. -/
theorem length_filter_of_restricts {others : State} (hwhole : whole.columns.Sorted)
    (hrest : rest.columns.Sorted) (hothers : others.columns.Sorted)
    (hinside : Restricts (.ofTables chosen) whole rest)
    (houtside : Restricts (.ofTables fun table => !chosen table) whole others)
    (counts : ColumnKey × Column → Bool) :
    (whole.columns.filter counts).length =
      (rest.columns.filter counts).length + (others.columns.filter counts).length := by
  have hcomm (test : String → Bool) :
      (whole.columns.filter fun entry => test entry.1.table).filter counts =
        (whole.columns.filter counts).filter fun entry => test entry.1.table :=
    List.filter_comm _ _ _
  rw [hinside.columns_eq hwhole hrest, houtside.columns_eq hwhole hothers]
  simp only [Part.ofTables]
  rw [hcomm chosen, hcomm fun table => !chosen table]
  exact List.length_eq_length_filter_add _

end Chosen

/-- The number of different indexes, as that of a finite set. -/
theorem countDistinct_eq_card (indexes : List Index) :
    countDistinct indexes = (indexes.map Index.identity).toFinset.card := by
  rw [countDistinct, ← List.toFinset_card_of_nodup (nodup_eraseDups _)]
  congr 1
  ext identity
  simp

/-- Indexes of chosen tables differ from those of the others. -/
theorem countDistinct_filter_add (chosen : String → Bool) (indexes : List Index) :
    countDistinct indexes = countDistinct (indexes.filter fun index => chosen index.table) +
      countDistinct (indexes.filter fun index => !chosen index.table) := by
  have hpart (test : String → Bool) :
      ((indexes.filter fun index => test index.table).map Index.identity).toFinset =
        (indexes.map Index.identity).toFinset.filter fun identity => test identity.1 = true := by
    rw [← List.toFinset_filter, List.filter_map]
    rfl
  rw [countDistinct_eq_card, countDistinct_eq_card, countDistinct_eq_card, hpart,
    hpart fun table => !chosen table,
    ← Finset.card_filter_add_card_filter_not fun identity => chosen identity.1 = true]
  simp

theorem history_onTables (snapshot : Snapshot) (files : List File) (chosen : String → Bool) :
    history (snapshot.onTables chosen) (files.map fun file => file.onTables chosen) =
      (history snapshot files).filter fun occurrence => occurrence.operation.isOn chosen := by
  simp only [history, occurrences, Snapshot.onTables, File.onTables, List.flatMap_map,
    List.filter_append, List.filter_map, List.filter_flatMap]
  rfl

/-- The schema of the events on chosen tables is the part of these tables. -/
theorem restricts_onTables (snapshot : Snapshot) (files : List File) {chosen : String → Bool}
    (hundivided : ∀ occurrence ∈ history snapshot files,
      occurrence.operation.isUndivided chosen = true) :
    Restricts (.ofTables chosen) (finalState snapshot files)
      (finalState (snapshot.onTables chosen) (files.map fun file => file.onTables chosen)) := by
  rw [finalState_eq_replay, finalState_eq_replay, history_onTables]
  exact (Restricts.empty _).replay_ofTables List.Pairwise.nil List.Pairwise.nil hundivided

theorem finalState_append (snapshot : Snapshot) (first second : List File) :
    finalState snapshot (first ++ second) =
      (finalState snapshot first).replay
        (second.map fun file => occurrences .changeSet file.events).flatten := by
  rw [finalState_eq_replay, finalState_eq_replay, ← State.replay_append]
  simp [history, occurrences, List.flatMap, List.map_flatten, Function.comp_def]

/-- Files in the middle that mention no table in common can be folded in another order. -/
theorem alike_finalState_of_perm (snapshot : Snapshot) (earlier later : List File)
    {files reordered : List File} (hperm : files.Perm reordered)
    (hdisjoint : files.Pairwise fun first second => first.tables.Disjoint second.tables) :
    Alike (finalState snapshot (earlier ++ files ++ later))
      (finalState snapshot (earlier ++ reordered ++ later)) := by
  have htables (file : File) :
      tablesOf (occurrences .changeSet file.events) = file.tables := by
    rw [tablesOf, occurrences, List.flatMap_map]
    rfl
  simp only [finalState_append]
  apply Alike.replay
  apply alike_replay_of_perm (hperm.map _) _ (sorted_finalState snapshot earlier)
  rw [List.pairwise_map]
  simpa only [htables] using hdisjoint

/-- A verdict judges tables one by one: the violations in chosen tables are those of the events on
these tables, the counts add up, and files that mention no table in common can be folded in any
order. -/
theorem check_by_tables (policy : Policy) (snapshot : Snapshot) (files : List File) :
    (∀ chosen : String → Bool,
      (∀ occurrence ∈ history snapshot files, occurrence.operation.isUndivided chosen = true) →
      let verdict := policy.check snapshot files
      let inside := policy.check (snapshot.onTables chosen)
        (files.map fun file => file.onTables chosen)
      let outside := policy.check (snapshot.onTables fun table => !chosen table)
        (files.map fun file => file.onTables fun table => !chosen table)
      inside.violations = (verdict.violations.filter fun violation => chosen violation.table) ∧
        verdict.stats.columnsTracked =
          inside.stats.columnsTracked + outside.stats.columnsTracked ∧
        verdict.stats.foreignKeys = inside.stats.foreignKeys + outside.stats.foreignKeys ∧
        verdict.stats.indexes = inside.stats.indexes + outside.stats.indexes) ∧
    (∀ earlier movable later reordered : List File, files = earlier ++ movable ++ later →
      movable.Perm reordered →
      (movable.Pairwise fun first second => first.tables.Disjoint second.tables) →
      let verdict := policy.check snapshot files
      let other := policy.check snapshot (earlier ++ reordered ++ later)
      other.violations = verdict.violations ∧ other.stats = verdict.stats) := by
  constructor
  · intro chosen hundivided verdict inside outside
    have hinside := restricts_onTables snapshot files hundivided
    have houtside := restricts_onTables snapshot files fun occurrence hmem =>
      (Operation.isUndivided_not occurrence.operation chosen).trans (hundivided occurrence hmem)
    have hwhole := sorted_finalState snapshot files
    have hrest := sorted_finalState (snapshot.onTables chosen)
      (files.map fun file => file.onTables chosen)
    have hothers := sorted_finalState (snapshot.onTables fun table => !chosen table)
      (files.map fun file => file.onTables fun table => !chosen table)
    have hlength := length_filter_of_restricts hwhole hrest hothers hinside houtside
    refine ⟨violations_of_restricts policy hinside hwhole hrest, ?_, hlength _, ?_⟩
    · have hcolumns := hlength fun _ => true
      simp only [List.filter_true] at hcolumns
      exact hcolumns
    · change countDistinct (finalState snapshot files).indexes = _
      rw [countDistinct_filter_add chosen]
      exact congrArg₂ (countDistinct · + countDistinct ·) hinside.indexes.symm houtside.indexes.symm
  · rintro earlier movable later reordered rfl hperm hdisjoint verdict other
    have hagrees := agrees_of_alike policy
      (alike_finalState_of_perm snapshot earlier later hperm hdisjoint)
    have hfiles : verdict.stats.files = other.stats.files := by
      simp [other, verdict, Policy.check, hperm.length_eq]
    exact ⟨hagrees.violations.symm, (hagrees.stats hfiles).symm⟩

/-- A file about a table of its own, whose only index falls with the column it leads with. -/
def postsFile : File where
  path := ⟨"2.rb"⟩
  events := [
    { operation := .declareColumn "posts" "author_id" .integer .unspecified
      location := { file := ⟨"2.rb"⟩, line := 1 } },
    { operation := .addIndex "posts" ["author_id", "title"]
      location := { file := ⟨"2.rb"⟩, line := 2 } },
    { operation := .removeColumn "posts" "title"
      location := { file := ⟨"2.rb"⟩, line := 3 } }]
  diagnostics := []

/-- The table that another file renames is judged apart from the one that this file declares. -/
theorem check_albums_and_posts :
    let chosen (table : String) : Bool := table = "albums" || table = "records"
    let verdict := Policy.check {} albumSnapshot [movingFile, postsFile]
    let inside := Policy.check {} (albumSnapshot.onTables chosen)
      ([movingFile, postsFile].map fun file => file.onTables chosen)
    let other := Policy.check {} albumSnapshot [postsFile, movingFile]
    inside.violations = (verdict.violations.filter fun violation => chosen violation.table) ∧
      inside.violations.map (·.column) = ["label_id", "performer_id"] ∧
      verdict.violations.map (·.table) = ["posts", "records", "records"] ∧
      other.violations = verdict.violations ∧ other.stats = verdict.stats := by
  intro chosen verdict inside other
  obtain ⟨hchosen, hreordered⟩ := check_by_tables {} albumSnapshot [movingFile, postsFile]
  have hfolded := hreordered [] [movingFile, postsFile] [] [postsFile, movingFile] rfl
    (.swap _ _ _) (by simp [movingFile, postsFile, File.tables, Operation.tables])
  exact ⟨(hchosen chosen (by decide)).1, by decide, by decide, hfolded⟩

end Lint

end ForeignKeyLint
