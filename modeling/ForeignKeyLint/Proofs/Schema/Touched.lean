import ForeignKeyLint.Proofs.Schema.Replay

/-!
What a schema keeps of the origin of its events. An event of the change set marks the column it
shapes or renames as touched, and nothing else that an event does depends on where it comes from or
on the marks there are. So two histories of the same events lead to the same schema up to the marks.
-/

namespace ForeignKeyLint.Schema

/-- The column without the mark of the change set. -/
def Column.untouched (column : Column) : Column :=
  { column with touched := false }

namespace ColumnTable

/-- The table without the marks of the change set. -/
def untouched (columns : ColumnTable) : ColumnTable :=
  columns.map fun entry => (entry.1, entry.2.untouched)

theorem find?_untouched (columns : ColumnTable) (key : ColumnKey) :
    columns.untouched.find? key = (columns.find? key).map Column.untouched := by
  induction columns with
  | nil => rfl
  | cons entry rest ih =>
    rw [untouched, List.map_cons, ← untouched, find?_cons, find?_cons, ih]
    split <;> rfl

theorem untouched_insert (columns : ColumnTable) (key : ColumnKey) (column : Column) :
    untouched (insert key column columns) = insert key column.untouched columns.untouched := by
  induction columns with
  | nil => rfl
  | cons entry rest ih =>
    simp only [insert, untouched, List.map_cons]
    split
    · rfl
    · rfl
    · rw [List.map_cons, ← untouched, ih]
      rfl

/-- The marks take no part in a choice of entries by their keys. -/
theorem untouched_filter (columns : ColumnTable) (keep : ColumnKey → Bool) :
    untouched (columns.filter fun entry => keep entry.1) =
      columns.untouched.filter fun entry => keep entry.1 := by
  rw [untouched, untouched, List.filter_map]
  rfl

theorem untouched_move (columns : ColumnTable) (source target : ColumnKey) (column : Column) :
    (columns.move source target column).untouched =
      columns.untouched.move source target column.untouched := by
  rw [move, untouched_insert, erase, untouched_filter columns fun key => key ≠ source]
  rfl

theorem untouched_renameTable (columns : ColumnTable) (source target : String) :
    (columns.renameTable source target).untouched =
      columns.untouched.renameTable source target := by
  unfold renameTable
  rw [← untouched_filter columns fun key => key.table = source]
  generalize columns.filter (fun entry => decide (entry.1.table = source)) = moved
  induction moved generalizing columns with
  | nil => rfl
  | cons entry moved ih =>
    rw [List.foldl_cons, ih, untouched_move]
    rfl

end ColumnTable

namespace State

/-- The schema without the marks of the change set. -/
def untouched (state : State) : State :=
  { state with columns := state.columns.untouched }

/-- An event of any origin does to a schema what an event of the snapshot does to it without its
marks. -/
theorem untouched_apply (state : State) (origin : Origin) (event : Event) :
    (state.apply origin event).untouched = state.untouched.apply .snapshot event := by
  obtain ⟨operation, location⟩ := event
  cases operation with
  | defineTable table => rfl
  | dropTable table =>
    have hcolumns := ColumnTable.untouched_filter state.columns fun key => key.table ≠ table
    simp only [State.apply, dropTable, untouched, ColumnTable.eraseTable]
    rw [hcolumns]
  | renameTable source target =>
    simp only [State.apply, renameTable, untouched, ColumnTable.untouched_renameTable]
  | declareColumn table column kind inlineIndex =>
    simp only [State.apply, declare, untouched, ColumnTable.find?_untouched,
      ColumnTable.untouched_insert]
    cases state.columns.find? { table, column } <;> rfl
  | retypeColumn table column kind =>
    simp only [State.apply, retype, untouched, ColumnTable.find?_untouched]
    cases state.columns.find? { table, column } with
    | none =>
      simp only [ColumnTable.untouched_insert, Option.map_none]
      rfl
    | some known =>
      simp only [ColumnTable.untouched_insert, Option.map_some]
      rfl
  | renameColumn table source target =>
    simp only [State.apply, renameColumn, untouched, ColumnTable.find?_untouched]
    cases state.columns.find? { table, column := source } with
    | none => rfl
    | some known =>
      simp only [ColumnTable.untouched_move, Option.map_some]
      rfl
  | removeColumn table column =>
    have hcolumns := ColumnTable.untouched_filter state.columns fun key => key ≠ { table, column }
    simp only [State.apply, removeColumn, untouched, ColumnTable.erase]
    rw [hcolumns]
  | addIndex table columns =>
    simp only [State.apply, addIndex]
    by_cases hknown : state.indexes.contains { table, columns } = true
    · rw [if_pos hknown, if_pos]
      exact hknown
    · rw [if_neg hknown, if_neg]
      · rfl
      · exact hknown

/-- Histories of the same events, whatever the origins, lead to the same schema up to the marks. -/
theorem untouched_replay_congr {first second : State} (h : first.untouched = second.untouched)
    {history other : List Occurrence}
    (hevents : history.map (·.event) = other.map (·.event)) :
    (first.replay history).untouched = (second.replay other).untouched := by
  induction history generalizing first second other with
  | nil =>
    obtain rfl : other = [] := by simpa using hevents.symm
    exact h
  | cons occurrence history ih =>
    obtain ⟨next, others, rfl, hevent, hrest⟩ := List.map_eq_cons_iff.mp hevents.symm
    have hstep : (first.apply occurrence.origin occurrence.event).untouched =
        (second.apply next.origin next.event).untouched := by
      rw [untouched_apply, untouched_apply, h, hevent]
    exact ih hstep hrest.symm

end State

end ForeignKeyLint.Schema
