import ForeignKeyLint.Proofs.Schema.Life
import Mathlib.Data.Fintype.EquivFin
import Mathlib.Logic.Equiv.Basic

/-!
Renaming is transport. A naming gives tables and columns other names. When it confuses no two names,
replaying renamed events leads to the renamed state, step by step. Exchanging two names is such a
naming, and it acts on a history that does not mention the second name as the plain replacement of
the first by the second does. So a rename at the end of a history amounts to having used the new
name all along.
-/

namespace ForeignKeyLint.Schema

/-- Other names for tables, and for the columns of each table. -/
structure Naming where
  table : String → String
  /-- The new name of a column, given the old names of its table and of the column. -/
  column : String → String → String

namespace Naming

def key (naming : Naming) (key : ColumnKey) : ColumnKey :=
  { table := naming.table key.table, column := naming.column key.table key.column }

def index (naming : Naming) (index : Index) : Index :=
  { table := naming.table index.table, columns := index.columns.map (naming.column index.table) }

/-- One column of one table is called `target` in the place of `source`. -/
def ofColumn (table source target : String) : Naming where
  table := id
  column owner name := if owner = table ∧ name = source then target else name

/-- One table is called `target` in the place of `source`. -/
def ofTable (source target : String) : Naming where
  table name := if name = source then target else name
  column _ := id

/-- Two columns of one table exchange their names. -/
def swapColumns (table first second : String) : Naming where
  table := id
  column owner := if owner = table then Equiv.swap first second else id

/-- Two tables exchange their names. -/
def swapTables (first second : String) : Naming where
  table := Equiv.swap first second
  column _ := id

/-- No two names become one. -/
structure Faithful (naming : Naming) : Prop where
  table : Function.Injective naming.table
  column (owner : String) : Function.Injective (naming.column owner)

theorem swapColumns_faithful (table first second : String) :
    (swapColumns table first second).Faithful where
  table := Function.injective_id
  column owner := by
    by_cases howner : owner = table
    · simpa [swapColumns, howner] using (Equiv.swap first second).injective
    · simpa [swapColumns, howner] using Function.injective_id

theorem swapTables_faithful (first second : String) : (swapTables first second).Faithful where
  table := (Equiv.swap first second).injective
  column _ := Function.injective_id

namespace Faithful

variable {naming : Naming} (h : naming.Faithful)
include h

theorem table_eq_iff {a b : String} : naming.table a = naming.table b ↔ a = b :=
  h.table.eq_iff

theorem column_eq_iff {owner a b : String} : naming.column owner a = naming.column owner b ↔ a = b :=
  (h.column owner).eq_iff

theorem key_eq_iff {a b : ColumnKey} : naming.key a = naming.key b ↔ a = b := by
  constructor
  · intro heq
    obtain ⟨table, column⟩ := a
    obtain ⟨otherTable, otherColumn⟩ := b
    simp only [key, ColumnKey.mk.injEq] at heq
    obtain rfl := h.table heq.1
    rw [h.column _ heq.2]
  · exact congrArg naming.key

theorem key_eq_mk_iff {a : ColumnKey} {table column : String} :
    naming.key a = { table := naming.table table, column := naming.column table column } ↔
      a = { table, column } :=
  h.key_eq_iff (b := { table, column })

theorem index_injective : Function.Injective naming.index := by
  rintro ⟨table, columns⟩ ⟨otherTable, otherColumns⟩ heq
  simp only [index, Index.mk.injEq] at heq
  obtain rfl := h.table heq.1
  rw [(h.column table).list_map heq.2]

end Faithful

end Naming

namespace Operation

/-- The operation under other names. -/
def rename (naming : Naming) : Operation → Operation
  | .defineTable table => .defineTable (naming.table table)
  | .dropTable table => .dropTable (naming.table table)
  | .renameTable source target => .renameTable (naming.table source) (naming.table target)
  | .declareColumn table column kind inlineIndex =>
    .declareColumn (naming.table table) (naming.column table column) kind inlineIndex
  | .retypeColumn table column kind =>
    .retypeColumn (naming.table table) (naming.column table column) kind
  | .renameColumn table source target =>
    .renameColumn (naming.table table) (naming.column table source) (naming.column table target)
  | .removeColumn table column => .removeColumn (naming.table table) (naming.column table column)
  | .addIndex table columns =>
    .addIndex (naming.table table) (columns.map (naming.column table))

/-- The tables that the operation mentions. -/
def tables : Operation → List String
  | .defineTable table | .dropTable table => [table]
  | .renameTable source target => [source, target]
  | .declareColumn table .. | .retypeColumn table .. => [table]
  | .renameColumn table .. | .removeColumn table _ | .addIndex table _ => [table]

/-- The columns that the operation mentions, each with its table. -/
def columns : Operation → List ColumnKey
  | .defineTable _ | .dropTable _ | .renameTable .. => []
  | .declareColumn table column .. | .retypeColumn table column _ => [{ table, column }]
  | .renameColumn table source target => [{ table, column := source }, { table, column := target }]
  | .removeColumn table column => [{ table, column }]
  | .addIndex table columns => columns.map fun column => { table, column }

/-- The operation gives a table another name. -/
def isTableRename : Operation → Bool
  | .renameTable .. => true
  | _ => false

/-- Columns keep their new names when they move from one table to the other. -/
def Respects (naming : Naming) : Operation → Prop
  | .renameTable source target => naming.column source = naming.column target
  | _ => True

/-- Namings that agree on what an operation mentions rename it alike. -/
theorem rename_congr {naming other : Naming} (operation : Operation)
    (htables : ∀ table ∈ operation.tables, naming.table table = other.table table)
    (hcolumns : ∀ key ∈ operation.columns,
      naming.column key.table key.column = other.column key.table key.column) :
    operation.rename naming = operation.rename other := by
  cases operation <;> simp_all [rename, tables, columns]

theorem rename_eq_self {naming : Naming} (operation : Operation)
    (htables : ∀ table ∈ operation.tables, naming.table table = table)
    (hcolumns : ∀ key ∈ operation.columns, naming.column key.table key.column = key.column) :
    operation.rename naming = operation := by
  let same : Naming := { table := id, column := fun _ => id }
  have hsame : operation.rename same = operation := by
    cases operation <;> simp [rename, same]
  exact (rename_congr operation htables hcolumns : _ = operation.rename same).trans hsame

theorem respects_of_isTableRename_eq_false (naming : Naming) {operation : Operation}
    (h : operation.isTableRename = false) : operation.Respects naming := by
  cases operation <;> simp_all [isTableRename, Respects]

theorem respects_swapTables (first second : String) (operation : Operation) :
    operation.Respects (Naming.swapTables first second) := by
  cases operation <;> simp [Respects, Naming.swapTables]

end Operation

def Occurrence.rename (naming : Naming) (occurrence : Occurrence) : Occurrence :=
  { occurrence with
    event := { occurrence.event with operation := occurrence.operation.rename naming } }

/-- The second state is the first one under other names. -/
structure Renamed (naming : Naming) (state other : State) : Prop where
  columns : ∀ key, other.columns.find? (naming.key key) = state.columns.find? key
  indexes : other.indexes = state.indexes.map naming.index

namespace Renamed

variable {naming : Naming} {state other : State} (hnaming : naming.Faithful)
  (h : Renamed naming state other)
include hnaming h

/-- Writing one column under its old and its new name. -/
private theorem find?_insert (key : ColumnKey) (column : Column) (target : ColumnKey) :
    (other.columns.insert (naming.key key) column).find? (naming.key target) =
      (state.columns.insert key column).find? target := by
  rw [ColumnTable.find?_insert, ColumnTable.find?_insert, h.columns]
  simp only [hnaming.key_eq_iff]

theorem declare (origin : Origin) (key : ColumnKey) (kind : Kind) (inlineIndex : InlineIndex)
    (location : Location) :
    Renamed naming (state.declare origin key kind inlineIndex location)
      (other.declare origin (naming.key key) kind inlineIndex location) where
  columns target := by
    rw [State.columns_declare, State.columns_declare, h.columns]
    exact h.find?_insert hnaming key _ target
  indexes := h.indexes

theorem retype (origin : Origin) (key : ColumnKey) (kind : Kind) (location : Location) :
    Renamed naming (state.retype origin { key, kind, location })
      (other.retype origin { key := naming.key key, kind, location }) where
  columns target := by
    rw [State.columns_retype, State.columns_retype, h.columns]
    exact h.find?_insert hnaming key _ target
  indexes := by
    rw [State.indexes_retype, State.indexes_retype, h.indexes]

theorem dropTable (table : String) :
    Renamed naming (state.dropTable table) (other.dropTable (naming.table table)) where
  columns key := by
    simp only [State.dropTable, ColumnTable.find?_eraseTable, h.columns]
    simp only [Naming.key, hnaming.table_eq_iff]
  indexes := by
    simp only [State.dropTable, h.indexes, List.filter_map]
    congr 2
    funext index
    simp [Naming.index, hnaming.table_eq_iff]

theorem removeColumn (table column : String) :
    Renamed naming (state.removeColumn table column)
      (other.removeColumn (naming.table table) (naming.column table column)) where
  columns key := by
    simp only [State.removeColumn, ColumnTable.find?_erase, h.columns, hnaming.key_eq_mk_iff]
  indexes := by
    simp only [State.removeColumn, h.indexes, List.filter_map]
    congr 2
    funext index
    by_cases htable : index.table = table
    · subst htable
      simp [Naming.index, Index.contains, hnaming.column_eq_iff]
    · simp [Naming.index, hnaming.table_eq_iff, htable]

theorem addIndex (index : Index) :
    Renamed naming (state.addIndex index) (other.addIndex (naming.index index)) where
  columns key := by
    rw [State.columns_addIndex, State.columns_addIndex, h.columns]
  indexes := by
    have hcontains : other.indexes.contains (naming.index index) = state.indexes.contains index := by
      rw [h.indexes, Bool.eq_iff_iff]
      simp [hnaming.index_injective.eq_iff]
    unfold State.addIndex
    rw [hcontains]
    split
    · exact h.indexes
    · simp [h.indexes]

theorem renameColumn (origin : Origin) (table source target : String) :
    Renamed naming (state.renameColumn origin table source target)
      (other.renameColumn origin (naming.table table) (naming.column table source)
        (naming.column table target)) where
  columns key := by
    have hsource := h.columns { table, column := source }
    rw [State.columns_renameColumn, State.columns_renameColumn]
    simp only [Naming.key] at hsource
    rw [hsource]
    cases state.columns.find? { table, column := source } with
    | none => exact h.columns key
    | some known => simp only [ColumnTable.find?_move, h.columns, hnaming.key_eq_mk_iff]
  indexes := by
    simp only [State.renameColumn, h.indexes, List.map_map]
    refine List.map_congr_left ?_
    intro index _
    by_cases htable : index.table = table
    · subst htable
      simp only [Function.comp_apply, Naming.index, if_true, List.map_map, Index.mk.injEq, true_and]
      refine List.map_congr_left ?_
      intro column _
      by_cases hcolumn : column = source <;> simp [hcolumn, hnaming.column_eq_iff]
    · simp [Naming.index, hnaming.table_eq_iff, htable]

theorem renameTable (hstate : state.columns.Sorted) (hother : other.columns.Sorted)
    {source target : String} (hcolumn : naming.column source = naming.column target) :
    Renamed naming (state.renameTable source target)
      (other.renameTable (naming.table source) (naming.table target)) where
  columns key := by
    simp only [State.renameTable, ColumnTable.find?_renameTable hstate,
      ColumnTable.find?_renameTable hother, h.columns]
    simp only [Naming.key, hnaming.table_eq_iff]
    by_cases htable : key.table = target
    · have hmoved := h.columns { table := source, column := key.column }
      simp only [Naming.key, hcolumn] at hmoved
      simp [htable, hmoved]
    · simp [htable]
  indexes := by
    simp only [State.renameTable, h.indexes, List.map_map]
    refine List.map_congr_left ?_
    intro index _
    by_cases htable : index.table = source
    · simp [Naming.index, htable, hcolumn]
    · simp [Naming.index, hnaming.table_eq_iff, htable]

/-- One event and the renamed event lead to states that still differ by the names alone. -/
theorem apply (hstate : state.columns.Sorted) (hother : other.columns.Sorted)
    (occurrence : Occurrence) (hrespects : occurrence.operation.Respects naming) :
    Renamed naming (state.apply occurrence.origin occurrence.event)
      (other.apply (occurrence.rename naming).origin (occurrence.rename naming).event) := by
  obtain ⟨origin, operation, location⟩ := occurrence
  cases operation with
  | defineTable table => exact h
  | dropTable table => exact h.dropTable hnaming table
  | renameTable source target => exact h.renameTable hnaming hstate hother hrespects
  | declareColumn table column kind inlineIndex =>
    exact h.declare hnaming origin { table, column } kind inlineIndex location
  | retypeColumn table column kind =>
    exact h.retype hnaming origin { table, column } kind location
  | renameColumn table source target => exact h.renameColumn hnaming origin table source target
  | removeColumn table column => exact h.removeColumn hnaming table column
  | addIndex table columns => exact h.addIndex hnaming { table, columns }

end Renamed

/-- A history and the renamed history lead to states that differ by the names alone. -/
theorem renamed_replay {naming : Naming} (hnaming : naming.Faithful) (history : List Occurrence)
    (hrespects : ∀ occurrence ∈ history, occurrence.operation.Respects naming) :
    Renamed naming (State.replay {} history)
      (State.replay {} (history.map (Occurrence.rename naming))) := by
  induction history using List.reverseRecOn with
  | nil => exact { columns := fun _ => rfl, indexes := rfl }
  | append_singleton history last ih =>
    rw [List.map_append, List.map_singleton, State.replay_concat, State.replay_concat]
    exact (ih fun o ho => hrespects o (by simp [ho])).apply hnaming
      (State.sorted_replay_empty _) (State.sorted_replay_empty _) last (hrespects last (by simp))

theorem renamed_self {naming : Naming} (hnaming : naming.Faithful) (history : List Occurrence)
    (hrespects : ∀ occurrence ∈ history, occurrence.operation.Respects naming)
    (hself : ∀ occurrence ∈ history, occurrence.operation.rename naming = occurrence.operation) :
    Renamed naming (State.replay {} history) (State.replay {} history) := by
  have hmap : history.map (Occurrence.rename naming) = history.map id := by
    refine List.map_congr_left ?_
    intro occurrence hmem
    rw [Occurrence.rename, hself occurrence hmem]
    rfl
  rw [List.map_id] at hmap
  simpa only [hmap] using renamed_replay hnaming history hrespects

/-- A column that no event mentions has no record and is in no index. Otherwise an exchange with any
other such column, which changes no event, would give that one a record or an index too. -/
theorem absent_of_column_not_mem (history : List Occurrence) (table name : String)
    (htable : ∀ occurrence ∈ history, occurrence.operation.isTableRename = false)
    (hname : ∀ occurrence ∈ history, { table, column := name } ∉ occurrence.operation.columns) :
    (State.replay {} history).columns.find? { table, column := name } = none ∧
      ∀ index ∈ (State.replay {} history).indexes, index.table = table → name ∉ index.columns := by
  let state := State.replay {} history
  let used : List String :=
    state.columns.map (·.1.column) ++ state.indexes.flatMap (·.columns) ++
      history.flatMap fun occurrence => occurrence.operation.columns.map (·.column)
  obtain ⟨fresh, hfresh⟩ := Infinite.exists_notMem_finset used.toFinset
  simp only [used, List.mem_toFinset, List.mem_append, List.mem_map, List.mem_flatMap, not_or,
    not_exists, not_and] at hfresh
  obtain ⟨⟨hrecords, hindexes⟩, hevents⟩ := hfresh
  have hself : Renamed (Naming.swapColumns table name fresh) state state := by
    refine renamed_self (Naming.swapColumns_faithful _ _ _) history ?_ ?_
    · intro occurrence hmem
      exact Operation.respects_of_isTableRename_eq_false _ (htable occurrence hmem)
    · intro occurrence hmem
      refine Operation.rename_eq_self _ (fun _ _ => rfl) ?_
      intro key hkey
      by_cases howner : key.table = table
      · subst howner
        have hne : key.column ≠ name := by
          rintro rfl
          exact hname occurrence hmem hkey
        simp only [Naming.swapColumns, if_true]
        exact Equiv.swap_apply_of_ne_of_ne hne (hevents occurrence hmem key hkey)
      · simp [Naming.swapColumns, howner]
  constructor
  · have hrecord := hself.columns { table, column := name }
    simp only [Naming.key, Naming.swapColumns, if_true, Equiv.swap_apply_left, id] at hrecord
    rw [← hrecord]
    cases hfound : state.columns.find? { table, column := fresh } with
    | none => rfl
    | some column =>
      exact absurd rfl
        (hrecords _ (((State.sorted_replay_empty history).mem_iff _ column).mpr hfound))
  · rintro index hindex rfl hcolumn
    have hmoved : (Naming.swapColumns index.table name fresh).index index ∈ state.indexes := by
      rw [hself.indexes]
      exact List.mem_map_of_mem hindex
    refine hindexes _ hmoved ?_
    simp only [Naming.index, Naming.swapColumns, if_true]
    exact List.mem_map.mpr ⟨name, hcolumn, Equiv.swap_apply_left _ _⟩

/-- A table that no event mentions has no columns and no indexes, for the same reason. -/
theorem absent_of_table_not_mem (history : List Occurrence) (table : String)
    (htable : ∀ occurrence ∈ history, table ∉ occurrence.operation.tables) :
    (∀ name, (State.replay {} history).columns.find? { table, column := name } = none) ∧
      ∀ index ∈ (State.replay {} history).indexes, index.table ≠ table := by
  let state := State.replay {} history
  let used : List String :=
    state.columns.map (·.1.table) ++ state.indexes.map (·.table) ++
      history.flatMap fun occurrence => occurrence.operation.tables
  obtain ⟨fresh, hfresh⟩ := Infinite.exists_notMem_finset used.toFinset
  simp only [used, List.mem_toFinset, List.mem_append, List.mem_map, List.mem_flatMap, not_or,
    not_exists, not_and] at hfresh
  obtain ⟨⟨hrecords, hindexes⟩, hevents⟩ := hfresh
  have hself : Renamed (Naming.swapTables table fresh) state state := by
    refine renamed_self (Naming.swapTables_faithful _ _) history
      (fun occurrence _ => Operation.respects_swapTables _ _ _) ?_
    intro occurrence hmem
    refine Operation.rename_eq_self _ ?_ (fun _ _ => rfl)
    intro other hother
    refine Equiv.swap_apply_of_ne_of_ne ?_ ?_
    · rintro rfl
      exact htable occurrence hmem hother
    · rintro rfl
      exact hevents occurrence hmem hother
  constructor
  · intro name
    have hrecord := hself.columns { table, column := name }
    simp only [Naming.key, Naming.swapTables, Equiv.swap_apply_left, id] at hrecord
    rw [← hrecord]
    cases hfound : state.columns.find? { table := fresh, column := name } with
    | none => rfl
    | some column =>
      exact absurd rfl
        (hrecords _ (((State.sorted_replay_empty history).mem_iff _ column).mpr hfound))
  · rintro index hindex rfl
    have hmoved : (Naming.swapTables index.table fresh).index index ∈ state.indexes := by
      rw [hself.indexes]
      exact List.mem_map_of_mem hindex
    exact hindexes _ hmoved (Equiv.swap_apply_left _ _)

/-- The record of one column, if there is one, is marked as a rename of this origin marks it. -/
def ColumnTable.touch (columns : ColumnTable) (key : ColumnKey) (origin : Origin) : ColumnTable :=
  columns.map fun entry => if entry.1 = key then (entry.1, entry.2.touching origin) else entry

theorem ColumnTable.find?_touch (columns : ColumnTable) (key other : ColumnKey) (origin : Origin) :
    (columns.touch key origin).find? other =
      if other = key then (columns.find? other).map (Column.touching origin)
      else columns.find? other := by
  induction columns with
  | nil => simp [touch]
  | cons entry rest ih =>
    obtain ⟨first, column⟩ := entry
    simp only [touch] at ih
    by_cases hfirst : first = key
    · subst hfirst
      simp only [touch, List.map_cons, if_true, find?_cons, ih]
      by_cases hother : other = first <;> simp [hother]
    · simp only [touch, List.map_cons, hfirst, if_false, find?_cons, ih]
      by_cases hother : other = first
      · simp [hother, hfirst]
      · simp [hother]

theorem ColumnTable.Sorted.touch {columns : ColumnTable} (h : columns.Sorted) (key : ColumnKey)
    (origin : Origin) : (columns.touch key origin).Sorted := by
  refine List.pairwise_map.mpr (h.imp ?_)
  intro a b hlt
  by_cases ha : a.1 = key <;> by_cases hb : b.1 = key <;> simpa [ha, hb] using hlt

/-- The replacement of a column's name in a history that does not mention the new one is an
exchange. -/
theorem map_rename_ofColumn (history : List Occurrence) (table source target : String)
    (hname : ∀ occurrence ∈ history, { table, column := target } ∉ occurrence.operation.columns) :
    history.map (Occurrence.rename (.ofColumn table source target)) =
      history.map (Occurrence.rename (.swapColumns table source target)) := by
  refine List.map_congr_left ?_
  intro occurrence hmem
  rw [Occurrence.rename, Occurrence.rename, Operation.rename_congr]
  · exact fun _ _ => rfl
  · intro key hkey
    by_cases howner : key.table = table
    · subst howner
      have hne : key.column ≠ target := by
        rintro rfl
        exact hname occurrence hmem hkey
      by_cases hsource : key.column = source
      · simp [Naming.ofColumn, Naming.swapColumns, hsource]
      · simp [Naming.ofColumn, Naming.swapColumns, hsource,
          Equiv.swap_apply_of_ne_of_ne hsource hne]
    · simp [Naming.ofColumn, Naming.swapColumns, howner]

theorem map_rename_ofTable (history : List Occurrence) (source target : String)
    (hname : ∀ occurrence ∈ history, target ∉ occurrence.operation.tables) :
    history.map (Occurrence.rename (.ofTable source target)) =
      history.map (Occurrence.rename (.swapTables source target)) := by
  refine List.map_congr_left ?_
  intro occurrence hmem
  rw [Occurrence.rename, Occurrence.rename, Operation.rename_congr]
  · intro table htable
    have hne : table ≠ target := by
      rintro rfl
      exact hname occurrence hmem htable
    by_cases hsource : table = source
    · simp [Naming.ofTable, Naming.swapTables, hsource]
    · simp [Naming.ofTable, Naming.swapTables, hsource, Equiv.swap_apply_of_ne_of_ne hsource hne]
  · exact fun _ _ => rfl

/-- An exchange undoes itself, so the look-ups of the renamed state are those of the old one. -/
theorem Renamed.find?_of_involutive {naming : Naming} {state other : State}
    (h : Renamed naming state other) (hnaming : Function.Involutive naming.key) (key : ColumnKey) :
    other.columns.find? key = state.columns.find? (naming.key key) := by
  rw [← h.columns, hnaming key]

theorem Naming.swapColumns_involutive (table first second : String) :
    Function.Involutive (swapColumns table first second).key := by
  rintro ⟨owner, name⟩
  by_cases howner : owner = table <;> simp [Naming.key, swapColumns, howner]

theorem Naming.swapTables_involutive (first second : String) :
    Function.Involutive (swapTables first second).key := by
  rintro ⟨owner, name⟩
  simp [Naming.key, swapTables]

section Unused

variable {state : State} {table source target : String}

/-- A column takes a name that has no record: the look-ups are those of an exchange. -/
theorem State.find?_renameColumn (origin : Origin)
    (habsent : state.columns.find? { table, column := target } = none) (key : ColumnKey) :
    (state.renameColumn origin table source target).columns.find? key =
      let found := state.columns.find? ((Naming.swapColumns table source target).key key)
      if key = { table, column := target } then found.map (Column.touching origin) else found := by
  obtain ⟨owner, name⟩ := key
  rw [State.columns_renameColumn]
  by_cases howner : owner = table
  · subst howner
    by_cases htarget : name = target
    · subst htarget
      cases hknown : state.columns.find? { table := owner, column := source } <;>
        simp [Naming.key, Naming.swapColumns, ColumnTable.find?_move, hknown, habsent]
    · by_cases hsource : name = source
      · subst hsource
        cases hknown : state.columns.find? { table := owner, column := name } <;>
          simp [Naming.key, Naming.swapColumns, ColumnTable.find?_move, hknown, habsent, htarget]
      · cases state.columns.find? { table := owner, column := source } <;>
          simp [Naming.key, Naming.swapColumns, ColumnTable.find?_move, htarget, hsource,
            Equiv.swap_apply_of_ne_of_ne hsource htarget]
  · cases state.columns.find? { table, column := source } <;>
      simp [Naming.key, Naming.swapColumns, ColumnTable.find?_move, howner]

/-- A column takes a name that is in no index: the indexes are those of an exchange. -/
theorem State.indexes_renameColumn (origin : Origin)
    (hunindexed : ∀ index ∈ state.indexes, index.table = table → target ∉ index.columns) :
    (state.renameColumn origin table source target).indexes =
      state.indexes.map (Naming.swapColumns table source target).index := by
  refine List.map_congr_left ?_
  intro index hindex
  by_cases howner : index.table = table
  · subst howner
    simp only [Naming.index, Naming.swapColumns, if_true, Index.mk.injEq, id, true_and]
    refine List.map_congr_left ?_
    intro column hcolumn
    have hne : column ≠ target := by
      rintro rfl
      exact hunindexed index hindex rfl hcolumn
    by_cases hsource : column = source
    · simp [hsource]
    · simp [hsource, Equiv.swap_apply_of_ne_of_ne hsource hne]
  · simp [Naming.index, Naming.swapColumns, howner]

/-- A table takes a name that has no columns: the look-ups are those of an exchange. -/
theorem State.find?_renameTable (hsorted : state.columns.Sorted)
    (habsent : ∀ name, state.columns.find? { table := target, column := name } = none)
    (key : ColumnKey) :
    (state.renameTable source target).columns.find? key =
      state.columns.find? ((Naming.swapTables source target).key key) := by
  obtain ⟨owner, name⟩ := key
  simp only [State.renameTable]
  rw [ColumnTable.find?_renameTable hsorted]
  by_cases htarget : owner = target
  · subst htarget
    simp [Naming.key, Naming.swapTables, habsent]
  · by_cases hsource : owner = source
    · subst hsource
      simp [Naming.key, Naming.swapTables, htarget, habsent]
    · simp [Naming.key, Naming.swapTables, htarget, hsource,
        Equiv.swap_apply_of_ne_of_ne hsource htarget]

/-- A table takes a name that has no indexes: the indexes are those of an exchange. -/
theorem State.indexes_renameTable (hunindexed : ∀ index ∈ state.indexes, index.table ≠ target) :
    (state.renameTable source target).indexes =
      state.indexes.map (Naming.swapTables source target).index := by
  refine List.map_congr_left ?_
  intro index hindex
  have hne := hunindexed index hindex
  by_cases hsource : index.table = source
  · simp [Naming.index, Naming.swapTables, hsource]
  · simp [Naming.index, Naming.swapTables, hsource, Equiv.swap_apply_of_ne_of_ne hsource hne]

end Unused

/-- Renaming a column at the end of a history that mentions only its old name. -/
theorem renameColumn_replay (history : List Occurrence) (origin : Origin)
    (table source target : String)
    (htable : ∀ occurrence ∈ history, occurrence.operation.isTableRename = false)
    (hname : ∀ occurrence ∈ history, { table, column := target } ∉ occurrence.operation.columns) :
    let state := State.replay {} history
    let renamed := State.replay {} (history.map (Occurrence.rename (.ofColumn table source target)))
    (state.renameColumn origin table source target).columns =
        renamed.columns.touch { table, column := target } origin ∧
      (state.renameColumn origin table source target).indexes = renamed.indexes := by
  intro state renamed
  obtain ⟨habsent, hunindexed⟩ := absent_of_column_not_mem history table target htable hname
  have hrenamed : Renamed (.swapColumns table source target) state renamed := by
    have h := renamed_replay (Naming.swapColumns_faithful table source target) history
      fun occurrence hmem =>
        Operation.respects_of_isTableRename_eq_false _ (htable occurrence hmem)
    rwa [← map_rename_ofColumn history table source target hname] at h
  constructor
  · refine ColumnTable.Sorted.ext ?_ ((State.sorted_replay_empty _).touch _ _) ?_
    · exact State.sorted_apply (State.sorted_replay_empty history) origin
        { operation := .renameColumn table source target, location := default }
    · intro key
      rw [ColumnTable.find?_touch, State.find?_renameColumn origin habsent,
        hrenamed.find?_of_involutive (Naming.swapColumns_involutive table source target)]
  · rw [hrenamed.indexes, State.indexes_renameColumn origin hunindexed]

/-- Renaming a table at the end of a history that mentions only its old name. -/
theorem renameTable_replay (history : List Occurrence) (source target : String)
    (hname : ∀ occurrence ∈ history, target ∉ occurrence.operation.tables) :
    let state := State.replay {} history
    let renamed := State.replay {} (history.map (Occurrence.rename (.ofTable source target)))
    (state.renameTable source target).columns = renamed.columns ∧
      (state.renameTable source target).indexes = renamed.indexes := by
  intro state renamed
  obtain ⟨habsent, hunindexed⟩ := absent_of_table_not_mem history target hname
  have hsorted : state.columns.Sorted := State.sorted_replay_empty history
  have hrenamed : Renamed (.swapTables source target) state renamed := by
    have h := renamed_replay (Naming.swapTables_faithful source target) history
      fun occurrence _ => Operation.respects_swapTables _ _ _
    rwa [← map_rename_ofTable history source target hname] at h
  constructor
  · refine ColumnTable.Sorted.ext (hsorted.renameTable source target)
      (State.sorted_replay_empty _) ?_
    intro key
    rw [State.find?_renameTable hsorted habsent,
      hrenamed.find?_of_involutive (Naming.swapTables_involutive source target)]
  · rw [hrenamed.indexes, State.indexes_renameTable hunindexed]

/-- Renaming is transport. A column or a table that gets another name at the end of a history is
left as if it had had the new name all along, provided the history does not mention the new name.
A column that the change set renames is touched besides. -/
theorem replay_rename_eq_replay_renamed :
    (∀ (history : List Occurrence) (origin : Origin) (location : Location)
        (table source target : String),
      (∀ occurrence ∈ history, occurrence.operation.isTableRename = false) →
      (∀ occurrence ∈ history, { table, column := target } ∉ occurrence.operation.columns) →
      let last : Occurrence :=
        { origin, event := { operation := .renameColumn table source target, location } }
      let after := State.replay {} (history ++ [last])
      let renamed :=
        State.replay {} (history.map (Occurrence.rename (.ofColumn table source target)))
      after.columns = renamed.columns.touch { table, column := target } origin ∧
        after.indexes = renamed.indexes) ∧
    (∀ (history : List Occurrence) (origin : Origin) (location : Location)
        (source target : String),
      (∀ occurrence ∈ history, target ∉ occurrence.operation.tables) →
      let last : Occurrence :=
        { origin, event := { operation := .renameTable source target, location } }
      let after := State.replay {} (history ++ [last])
      let renamed := State.replay {} (history.map (Occurrence.rename (.ofTable source target)))
      after.columns = renamed.columns ∧ after.indexes = renamed.indexes) := by
  constructor
  · intro history origin location table source target htable hname last after renamed
    have hafter : after = (State.replay {} history).renameColumn origin table source target :=
      State.replay_concat {} history last
    rw [hafter]
    exact renameColumn_replay history origin table source target htable hname
  · intro history origin location source target hname last after renamed
    have hafter : after = (State.replay {} history).renameTable source target :=
      State.replay_concat {} history last
    rw [hafter]
    exact renameTable_replay history source target hname

/-- A history in which a column is renamed, indexed twice and retyped. -/
def ownedAlbums : List Occurrence :=
  let occurrence (origin : Origin) (operation : Operation) : Occurrence :=
    { origin, event := { operation, location := { file := ⟨"1.rb"⟩, line := 1 } } }
  [occurrence .snapshot (.declareColumn "albums" "user_id" .integer .unspecified),
    occurrence .snapshot (.addIndex "albums" ["user_id", "owner_id"]),
    occurrence .changeSet (.renameColumn "albums" "user_id" "owner_id"),
    occurrence .changeSet (.addIndex "albums" ["owner_id", "owner_id"]),
    occurrence .changeSet (.retypeColumn "albums" "owner_id" .bigint),
    occurrence .changeSet (.removeColumn "albums" "legacy_id")]

theorem replay_rename_ownedAlbums :
    let place : Location := { file := ⟨"2.rb"⟩, line := 1 }
    let columnRename : Occurrence :=
      { origin := .snapshot
        event := { operation := .renameColumn "albums" "owner_id" "creator_id", location := place } }
    let tableRename : Occurrence :=
      { origin := .snapshot
        event := { operation := .renameTable "albums" "records", location := place } }
    (State.replay {} (ownedAlbums ++ [columnRename])).indexes =
        [{ table := "albums", columns := ["creator_id", "creator_id"] }] ∧
      ((State.replay {} (ownedAlbums ++ [tableRename])).columns.find?
        { table := "records", column := "owner_id" }).map Column.kind = some .bigint := by
  intro place columnRename tableRename
  have hcolumn := replay_rename_eq_replay_renamed.1 ownedAlbums .snapshot place "albums" "owner_id"
    "creator_id" (by decide) (by decide)
  have htable := replay_rename_eq_replay_renamed.2 ownedAlbums .snapshot place "albums" "records"
    (by decide)
  refine ⟨hcolumn.2.trans (by decide), ?_⟩
  rw [htable.1]
  decide

end ForeignKeyLint.Schema
