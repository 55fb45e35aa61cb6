import ForeignKeyLint.Proofs.Schema.Renaming

/-!
Parts of a schema. A part holds some columns and some indexes. An operation can act within a part,
so that it does to the part what it does to the whole, or outside of it, so that it leaves the part
alone. A history in which every operation does one or the other leads, restricted to the part, to
where the operations within the part lead alone. Of use are the
part of chosen tables, and the part of all columns but one.
-/

namespace ForeignKeyLint.Schema

/-- Some of the columns and some of the indexes that a schema can have. -/
structure Part where
  column : ColumnKey → Bool
  index : Index → Bool

namespace Operation

/-- What the operation adds lies in the part, and what it renames stays inside or outside. -/
def ActsWithin (part : Part) : Operation → Prop
  | .defineTable _ | .dropTable _ | .removeColumn .. => True
  | .renameTable source target =>
    (∀ column, part.column { table := source, column } = part.column { table := target, column }) ∧
      ∀ columns, part.index { table := source, columns } = part.index { table := target, columns }
  | .declareColumn table column .. | .retypeColumn table column _ =>
    part.column { table, column } = true
  | .renameColumn table source target =>
    part.column { table, column := source } = part.column { table, column := target } ∧
      ∀ columns, part.index { table, columns } =
        part.index {
          table
          columns := columns.map fun column => if column = source then target else column }
  | .addIndex table columns => part.index { table, columns } = true

/-- Nothing that the operation adds, moves or takes away lies in the part. -/
def ActsOutside (part : Part) : Operation → Prop
  | .defineTable _ => True
  | .dropTable table =>
    (∀ column, part.column { table, column } = false) ∧
      ∀ columns, part.index { table, columns } = false
  | .renameTable source target =>
    (∀ column, part.column { table := source, column } = false ∧
      part.column { table := target, column } = false) ∧
      ∀ columns, part.index { table := source, columns } = false ∧
        part.index { table := target, columns } = false
  | .declareColumn table column .. | .retypeColumn table column _ =>
    part.column { table, column } = false
  | .renameColumn table source target =>
    (part.column { table, column := source } = false ∧
      part.column { table, column := target } = false) ∧
      ∀ columns, part.index { table, columns } = false
  | .removeColumn table column =>
    part.column { table, column } = false ∧
      ∀ columns, column ∈ columns → part.index { table, columns } = false
  | .addIndex table columns => part.index { table, columns } = false

end Operation

/-- The second state has those columns and indexes of the first that lie in the part. -/
structure Restricts (part : Part) (whole rest : State) : Prop where
  columns : ∀ key,
    rest.columns.find? key = if part.column key then whole.columns.find? key else none
  indexes : rest.indexes = whole.indexes.filter part.index

namespace Restricts

variable {part : Part} {whole rest : State}

/-- A column is written in the part and in the whole. -/
private theorem find?_insert_within (h : Restricts part whole rest) {key : ColumnKey}
    (hkey : part.column key = true) (column : Column) (other : ColumnKey) :
    (rest.columns.insert key column).find? other =
      if part.column other then (whole.columns.insert key column).find? other else none := by
  rw [ColumnTable.find?_insert, ColumnTable.find?_insert, h.columns]
  by_cases hother : other = key
  · subst hother
    simp [hkey]
  · simp [hother]

theorem declare_within (h : Restricts part whole rest) (origin : Origin) {key : ColumnKey}
    (hkey : part.column key = true) (kind : Kind) (inlineIndex : InlineIndex) (location : Location) :
    Restricts part (whole.declare origin key kind inlineIndex location)
      (rest.declare origin key kind inlineIndex location) where
  columns other := by
    have hknown : rest.columns.find? key = whole.columns.find? key := by simp [h.columns, hkey]
    rw [State.columns_declare, State.columns_declare, hknown]
    exact h.find?_insert_within hkey _ other
  indexes := h.indexes

theorem retype_within (h : Restricts part whole rest) (origin : Origin) (change : Retype)
    (hkey : part.column change.key = true) :
    Restricts part (whole.retype origin change) (rest.retype origin change) where
  columns other := by
    have hknown : rest.columns.find? change.key = whole.columns.find? change.key := by
      simp [h.columns, hkey]
    rw [State.columns_retype, State.columns_retype, hknown]
    exact h.find?_insert_within hkey _ other
  indexes := by
    rw [State.indexes_retype, State.indexes_retype, h.indexes]

theorem dropTable_within (h : Restricts part whole rest) (table : String) :
    Restricts part (whole.dropTable table) (rest.dropTable table) where
  columns key := by
    simp only [State.dropTable, ColumnTable.find?_eraseTable, h.columns]
    by_cases hkey : key.table = table <;> simp [hkey]
  indexes := by
    simp only [State.dropTable, h.indexes, List.filter_filter, Bool.and_comm]

theorem removeColumn_within (h : Restricts part whole rest) (table column : String) :
    Restricts part (whole.removeColumn table column) (rest.removeColumn table column) where
  columns key := by
    simp only [State.removeColumn, ColumnTable.find?_erase, h.columns]
    by_cases hkey : key = { table, column } <;> simp [hkey]
  indexes := by
    simp only [State.removeColumn, h.indexes, List.filter_filter, Bool.and_comm]

/-- The part knows an index of its own exactly when the whole does. -/
theorem addIndex_within (h : Restricts part whole rest) {index : Index}
    (hindex : part.index index = true) :
    Restricts part (whole.addIndex index) (rest.addIndex index) where
  columns key := by
    rw [State.columns_addIndex, State.columns_addIndex, h.columns]
  indexes := by
    have hknown : rest.indexes.contains index = whole.indexes.contains index := by
      rw [h.indexes, Bool.eq_iff_iff]
      simp [hindex]
    unfold State.addIndex
    rw [hknown]
    split
    · exact h.indexes
    · simp [h.indexes, hindex]

theorem renameColumn_within (h : Restricts part whole rest) (origin : Origin)
    {table source target : String}
    (hwithin : (Operation.renameColumn table source target).ActsWithin part) :
    Restricts part (whole.renameColumn origin table source target)
      (rest.renameColumn origin table source target) where
  columns key := by
    obtain ⟨hcolumn, -⟩ := hwithin
    rw [State.columns_renameColumn, State.columns_renameColumn, h.columns]
    by_cases hsource : part.column { table, column := source } = true
    · rw [if_pos hsource]
      cases whole.columns.find? { table, column := source } with
      | none => exact h.columns key
      | some known =>
        simp only [ColumnTable.find?_move, h.columns]
        by_cases htarget : key = { table, column := target }
        · simp [htarget, ← hcolumn, hsource]
        · by_cases hkey : key = { table, column := source }
          · simp only [if_neg htarget, if_pos hkey, ite_self]
          · simp only [if_neg htarget, if_neg hkey]
    · -- Neither name lies in the part, so the move is not seen in it.
      rw [if_neg hsource]
      have hother : part.column key = true →
          key ≠ { table, column := source } ∧ key ≠ { table, column := target } := by
        intro hkey
        constructor
        · rintro rfl
          exact hsource hkey
        · rintro rfl
          exact hsource (hcolumn.trans hkey)
      cases whole.columns.find? { table, column := source } with
      | none => exact h.columns key
      | some known =>
        simp only [ColumnTable.find?_move, h.columns]
        by_cases hkey : part.column key = true
        · obtain ⟨hnotSource, hnotTarget⟩ := hother hkey
          simp [hkey, hnotSource, hnotTarget]
        · simp [hkey]
  indexes := by
    obtain ⟨-, hindex⟩ := hwithin
    simp only [State.renameColumn, h.indexes, List.filter_map]
    congr 1
    apply List.filter_congr
    intro index _
    by_cases htable : index.table = table
    · subst htable
      simpa using hindex index.columns
    · simp [htable]

theorem renameTable_within (h : Restricts part whole rest) (hwhole : whole.columns.Sorted)
    (hrest : rest.columns.Sorted) {source target : String}
    (hwithin : (Operation.renameTable source target).ActsWithin part) :
    Restricts part (whole.renameTable source target) (rest.renameTable source target) where
  columns key := by
    obtain ⟨hcolumn, -⟩ := hwithin
    simp only [State.renameTable, ColumnTable.find?_renameTable hwhole,
      ColumnTable.find?_renameTable hrest, h.columns]
    by_cases htarget : key.table = target
    · have hkey : part.column { table := source, column := key.column } = part.column key := by
        rw [hcolumn, ← htarget]
      by_cases hpart : part.column key = true <;> simp [htarget, hkey, hpart]
    · by_cases hsource : key.table = source
      · simp only [if_neg htarget, if_pos hsource, ite_self]
      · simp only [if_neg htarget, if_neg hsource]
  indexes := by
    obtain ⟨-, hindex⟩ := hwithin
    simp only [State.renameTable, h.indexes, List.filter_map]
    congr 1
    apply List.filter_congr
    intro index _
    by_cases htable : index.table = source
    · subst htable
      simpa using hindex index.columns
    · simp [htable]

/-- An operation within the part does to it what it does to the whole. -/
theorem apply_within (h : Restricts part whole rest) (hwhole : whole.columns.Sorted)
    (hrest : rest.columns.Sorted) (origin : Origin) (event : Event)
    (hwithin : event.operation.ActsWithin part) :
    Restricts part (whole.apply origin event) (rest.apply origin event) := by
  obtain ⟨operation, location⟩ := event
  cases operation with
  | defineTable table => exact h
  | dropTable table => exact h.dropTable_within table
  | renameTable source target => exact h.renameTable_within hwhole hrest hwithin
  | declareColumn table column kind inlineIndex =>
    exact h.declare_within origin hwithin kind inlineIndex location
  | retypeColumn table column kind =>
    exact h.retype_within origin { key := { table, column }, kind, location } hwithin
  | renameColumn table source target => exact h.renameColumn_within origin hwithin
  | removeColumn table column => exact h.removeColumn_within table column
  | addIndex table columns => exact h.addIndex_within hwithin

end Restricts

section Outside

variable {part : Part} {state : State}

/-- An operation outside of the part is not seen in the columns of the part. -/
theorem find?_apply_of_outside (hsorted : state.columns.Sorted) (origin : Origin) {event : Event}
    (houtside : event.operation.ActsOutside part) {key : ColumnKey}
    (hkey : part.column key = true) :
    (state.apply origin event).columns.find? key = state.columns.find? key := by
  have hne {other : ColumnKey} (hother : part.column other = false) : key ≠ other := by
    rintro rfl
    rw [hkey] at hother
    cases hother
  have htable {table : String} (hcolumns : ∀ column, part.column { table, column } = false) :
      key.table ≠ table := by
    rintro rfl
    exact hne (hcolumns key.column) rfl
  obtain ⟨operation, location⟩ := event
  cases operation with
  | defineTable table => rfl
  | dropTable table =>
    simp only [State.apply, State.dropTable, ColumnTable.find?_eraseTable,
      if_neg (htable houtside.1)]
  | renameTable source target =>
    simp only [State.apply, State.renameTable, ColumnTable.find?_renameTable hsorted,
      if_neg (htable fun column => (houtside.1 column).1),
      if_neg (htable fun column => (houtside.1 column).2)]
  | declareColumn table column kind inlineIndex =>
    simp only [State.apply, State.columns_declare, ColumnTable.find?_insert,
      if_neg (hne houtside)]
  | retypeColumn table column kind =>
    simp only [State.apply, State.columns_retype, ColumnTable.find?_insert, if_neg (hne houtside)]
  | renameColumn table source target =>
    simp only [State.apply, State.columns_renameColumn]
    cases state.columns.find? { table, column := source } with
    | none => rfl
    | some known =>
      simp only [ColumnTable.find?_move, if_neg (hne houtside.1.1), if_neg (hne houtside.1.2)]
  | removeColumn table column =>
    simp only [State.apply, State.removeColumn, ColumnTable.find?_erase, if_neg (hne houtside.1)]
  | addIndex table columns => simp only [State.apply, State.columns_addIndex]

/-- What is taken away or moved outside of a test is not seen by the test. -/
private theorem filter_filter_of_imp {indexes : List Index} {test keep : Index → Bool}
    (h : ∀ index, test index = true → keep index = true) :
    (indexes.filter keep).filter test = indexes.filter test := by
  rw [List.filter_filter]
  apply List.filter_congr
  intro index _
  cases htest : test index with
  | false => rfl
  | true => simp [h index htest]

private theorem filter_map_of_ne {indexes : List Index} {test : Index → Bool} {move : Index → Index}
    (h : ∀ index, move index ≠ index → test index = false ∧ test (move index) = false) :
    (indexes.map move).filter test = indexes.filter test := by
  induction indexes with
  | nil => rfl
  | cons index rest ih =>
    by_cases hmove : move index = index
    · rw [List.map_cons, hmove, List.filter_cons, List.filter_cons, ih]
    · obtain ⟨hbefore, hafter⟩ := h index hmove
      simp [hbefore, hafter, ih]

/-- An operation outside of the part is not seen in the indexes of the part. -/
theorem filter_indexes_apply_of_outside (origin : Origin) {event : Event}
    (houtside : event.operation.ActsOutside part) :
    (state.apply origin event).indexes.filter part.index = state.indexes.filter part.index := by
  obtain ⟨operation, location⟩ := event
  cases operation with
  | defineTable table => rfl
  | dropTable table =>
    apply filter_filter_of_imp
    intro index hindex
    rw [decide_eq_true_iff]
    rintro rfl
    rw [houtside.2 index.columns] at hindex
    cases hindex
  | renameTable source target =>
    apply filter_map_of_ne
    intro index hmove
    by_cases htable : index.table = source
    · subst htable
      rw [if_pos rfl]
      exact houtside.2 index.columns
    · rw [if_neg htable] at hmove
      exact absurd rfl hmove
  | declareColumn table column kind inlineIndex => rfl
  | retypeColumn table column kind => simp only [State.apply, State.indexes_retype]
  | renameColumn table source target =>
    apply filter_map_of_ne
    intro index hmove
    by_cases htable : index.table = table
    · subst htable
      rw [if_pos rfl]
      exact ⟨houtside.2 index.columns, houtside.2 _⟩
    · rw [if_neg htable] at hmove
      exact absurd rfl hmove
  | removeColumn table column =>
    apply filter_filter_of_imp
    intro index hindex
    rw [Bool.not_eq_true', decide_eq_false_iff_not]
    rintro ⟨rfl, hcolumn⟩
    have hmem : column ∈ index.columns := by simpa [Index.contains] using hcolumn
    rw [houtside.2 index.columns hmem] at hindex
    cases hindex
  | addIndex table columns =>
    have hindex : part.index { table, columns } = false := houtside
    simp only [State.apply, State.addIndex]
    split
    · rfl
    · simp [hindex]

end Outside

namespace Restricts

variable {part : Part} {whole rest : State}

/-- An operation outside of the part leaves it alone. -/
theorem apply_outside (h : Restricts part whole rest) (hwhole : whole.columns.Sorted)
    (origin : Origin) (event : Event) (houtside : event.operation.ActsOutside part) :
    Restricts part (whole.apply origin event) rest where
  columns key := by
    by_cases hkey : part.column key = true
    · rw [find?_apply_of_outside hwhole origin houtside hkey]
      exact h.columns key
    · rw [h.columns, if_neg hkey, if_neg hkey]
  indexes := by
    rw [filter_indexes_apply_of_outside origin houtside]
    exact h.indexes

/-- A history of operations within and outside of the part leads, in the part, to where those within
lead alone. -/
theorem replay (h : Restricts part whole rest) (hwhole : whole.columns.Sorted)
    (hrest : rest.columns.Sorted) (within : Occurrence → Bool) (history : List Occurrence)
    (hhistory : ∀ occurrence ∈ history,
      (within occurrence = true → occurrence.operation.ActsWithin part) ∧
        (within occurrence = false → occurrence.operation.ActsOutside part)) :
    Restricts part (whole.replay history) (rest.replay (history.filter within)) := by
  induction history generalizing whole rest with
  | nil => exact h
  | cons occurrence history ih =>
    obtain ⟨hwithin, houtside⟩ := hhistory occurrence List.mem_cons_self
    have hlater := fun later hlater => hhistory later (List.mem_cons_of_mem occurrence hlater)
    have hnext := State.sorted_apply hwhole occurrence.origin occurrence.event
    cases hkept : within occurrence with
    | true =>
      rw [List.filter_cons_of_pos hkept]
      exact ih (h.apply_within hwhole hrest _ _ (hwithin hkept)) hnext
        (State.sorted_apply hrest _ _) hlater
    | false =>
      rw [List.filter_cons_of_neg (by simp [hkept])]
      exact ih (h.apply_outside hwhole _ _ (houtside hkept)) hnext hrest hlater

theorem empty (part : Part) : Restricts part {} {} where
  columns key := by simp
  indexes := rfl

/-- A state cut down to a part. -/
theorem filtered (part : Part) (state : State) :
    Restricts part state
      { state with
        columns := state.columns.filter fun entry => part.column entry.1
        indexes := state.indexes.filter part.index } where
  columns key := ColumnTable.find?_filter state.columns part.column key
  indexes := rfl

/-- The columns of the restricted state are those of the whole that lie in the part. -/
theorem columns_eq (h : Restricts part whole rest) (hwhole : whole.columns.Sorted)
    (hrest : rest.columns.Sorted) :
    rest.columns = whole.columns.filter fun entry => part.column entry.1 := by
  apply hrest.ext (hwhole.filter _)
  intro key
  rw [h.columns, ColumnTable.find?_filter]

end Restricts

end ForeignKeyLint.Schema
