import ForeignKeyLint.Proofs.Lint.Independence

/-!
Drops and removals erase history. A verdict on a history in which a table is dropped is that on the
history without the events before the drop that mention the table. A verdict on a history in which a
column is removed is that on the history without its earlier declarations, changes of type and
removals, and without the earlier indexes that contain it. What comes after the drop or the removal
may be anything.

A drop leaves the part of the schema that consists of the other tables, and a removal the part that
consists of the other columns. Since no earlier rename leads into or out of this part, the events
outside of it can be left out.
-/

namespace ForeignKeyLint

namespace Schema

/-- All columns but one, and the indexes that do not contain it. -/
def Part.without (key : ColumnKey) : Part where
  column other := other ≠ key
  index index := !(index.table = key.table ∧ index.contains key.column)

namespace Operation

/-- The operation gives the table another name, or another table its name. -/
def renamesTable (table : String) : Operation → Bool
  | .renameTable source target => source = table || target = table
  | _ => false

/-- The operation gives the column another name, or another column of the table its name. -/
def renamesColumn (key : ColumnKey) : Operation → Bool
  | .renameColumn table source target =>
    table = key.table && (source = key.column || target = key.column)
  | _ => false

/-- The operation declares, retypes or removes the column, or adds an index that contains it. -/
def concerns (key : ColumnKey) : Operation → Bool
  | .declareColumn table column .. | .retypeColumn table column _ | .removeColumn table column =>
    { table, column } = key
  | .addIndex table columns => table = key.table && columns.contains key.column
  | _ => false

variable {key : ColumnKey} {operation : Operation}

/-- A rename among other names leaves the column in a list or out of it. -/
theorem contains_map_rename {name source target : String} (hsource : source ≠ name)
    (htarget : target ≠ name) (columns : List String) :
    (columns.map fun column => if column = source then target else column).contains name =
      columns.contains name := by
  rw [Bool.eq_iff_iff, List.contains_iff_mem, List.contains_iff_mem, List.mem_map]
  constructor
  · rintro ⟨column, hmem, heq⟩
    by_cases hcolumn : column = source
    · exact absurd ((if_pos hcolumn).symm.trans heq) htarget
    · exact (if_neg hcolumn).symm.trans heq ▸ hmem
  · intro hmem
    exact ⟨name, hmem, if_neg hsource.symm⟩

theorem actsWithin_without (htable : operation.renamesTable key.table = false)
    (hcolumn : operation.renamesColumn key = false) (h : operation.concerns key = false) :
    operation.ActsWithin (.without key) := by
  obtain ⟨keyTable, keyColumn⟩ := key
  cases operation with
  | defineTable table => trivial
  | dropTable table => trivial
  | renameTable source target => simp_all [renamesTable, ActsWithin, Part.without]
  | declareColumn table column kind inlineIndex => exact decide_eq_true (of_decide_eq_false h)
  | retypeColumn table column kind => exact decide_eq_true (of_decide_eq_false h)
  | renameColumn table source target =>
    by_cases hsame : table = keyTable
    · subst hsame
      obtain ⟨hsource, htarget⟩ : source ≠ keyColumn ∧ target ≠ keyColumn := by
        simpa [renamesColumn] using hcolumn
      constructor
      · simp [Part.without, hsource, htarget]
      · intro columns
        simp only [Part.without, Index.contains, contains_map_rename hsource htarget]
    · simp [ActsWithin, Part.without, hsame]
  | removeColumn table column => trivial
  | addIndex table columns =>
    simpa [concerns, ActsWithin, Part.without, Index.contains, imp_iff_not_or] using h

theorem actsOutside_without (h : operation.concerns key = true) :
    operation.ActsOutside (.without key) := by
  obtain ⟨keyTable, keyColumn⟩ := key
  cases operation <;> simp_all [concerns, ActsOutside, Part.without, Index.contains]

theorem isUndivided_of_renamesTable {table : String} (h : operation.renamesTable table = false) :
    operation.isUndivided (fun other => other ≠ table) = true := by
  cases operation <;> simp_all [isUndivided, renamesTable]

theorem isOn_ne (operation : Operation) (table : String) :
    operation.isOn (fun other => other ≠ table) = decide (table ∉ operation.tables) := by
  rw [isOn, Bool.eq_iff_iff, List.all_eq_true, decide_eq_true_iff]
  constructor
  · intro h hmem
    exact of_decide_eq_true (h table hmem) rfl
  · intro h other hother
    exact decide_eq_true fun heq => h (heq ▸ hother)

end Operation

/-- A state cut down to a part, and another one that shows the part, are alike. -/
theorem Alike.of_filter {part : Part} {whole rest erased : State} (h : Restricts part whole rest)
    (hwhole : whole.columns.Sorted) (hrest : rest.columns.Sorted)
    (hcolumns : erased.columns = whole.columns.filter fun entry => part.column entry.1)
    (hindexes : erased.indexes = whole.indexes.filter part.index) : Alike erased rest where
  columns := hcolumns.trans (h.columns_eq hwhole hrest).symm
  indexes index := by rw [hindexes, h.indexes]

/-- Dropping a table leads to where the events that do not mention it lead. -/
theorem alike_dropTable (history : List Occurrence) (table : String)
    (hrename : ∀ occurrence ∈ history, occurrence.operation.renamesTable table = false) :
    Alike ((State.replay {} history).dropTable table)
      (State.replay {} (history.filter fun occurrence => table ∉ occurrence.operation.tables)) := by
  have hrestricts := (Restricts.empty (.ofTables fun other => other ≠ table)).replay_ofTables
    List.Pairwise.nil List.Pairwise.nil fun occurrence hmem =>
      Operation.isUndivided_of_renamesTable (hrename occurrence hmem)
  simp only [Operation.isOn_ne] at hrestricts
  exact .of_filter hrestricts (State.sorted_replay_empty _) (State.sorted_replay_empty _) rfl rfl

/-- Removing a column leads to where the events that do not concern it lead. -/
theorem alike_removeColumn (history : List Occurrence) (key : ColumnKey)
    (htable : ∀ occurrence ∈ history, occurrence.operation.renamesTable key.table = false)
    (hcolumn : ∀ occurrence ∈ history, occurrence.operation.renamesColumn key = false) :
    Alike ((State.replay {} history).removeColumn key.table key.column)
      (State.replay {} (history.filter fun occurrence => !occurrence.operation.concerns key)) := by
  have hrestricts : Restricts (.without key) (State.replay {} history)
      (State.replay {} (history.filter fun occurrence => !occurrence.operation.concerns key)) := by
    apply (Restricts.empty (.without key)).replay List.Pairwise.nil List.Pairwise.nil
    intro occurrence hmem
    constructor
    · intro hother
      rw [Bool.not_eq_true'] at hother
      exact Operation.actsWithin_without (htable occurrence hmem) (hcolumn occurrence hmem) hother
    · intro hconcerns
      rw [Bool.not_eq_false'] at hconcerns
      exact Operation.actsOutside_without hconcerns
  exact .of_filter hrestricts (State.sorted_replay_empty _) (State.sorted_replay_empty _) rfl rfl

end Schema

namespace Lint

open Migration Schema

/-- Two histories that go on alike after schemas that are alike get the same verdict. -/
theorem agrees_of_replay (policy : Policy) {snapshot shorter : Snapshot} {files fewer : List File}
    {before kept after : List Occurrence} {erasure : Occurrence}
    (hhistory : history snapshot files = before ++ erasure :: after)
    (hshorter : history shorter fewer = kept ++ after)
    (h : Alike ((State.replay {} before).apply erasure.origin erasure.event)
      (State.replay {} kept)) :
    (policy.check snapshot files).Agrees (policy.check shorter fewer) := by
  apply agrees_of_alike
  rw [finalState_eq_replay, finalState_eq_replay, hhistory, hshorter, State.replay_append,
    State.replay_append]
  exact h.replay after

/-- A drop erases what mentions the table before it, and a removal what concerns the column, when no
earlier rename leads to the table or the column or away from it. -/
theorem check_after_erasure (policy : Policy) (before after : List Occurrence) (table : String)
    (htable : ∀ occurrence ∈ before, occurrence.operation.renamesTable table = false)
    (origin : Origin) (location : Location) :
    (∀ (snapshot shorter : Snapshot) (files fewer : List File),
      history snapshot files =
        before ++ { origin, event := { operation := .dropTable table, location } } :: after →
      history shorter fewer =
        (before.filter fun occurrence => table ∉ occurrence.operation.tables) ++ after →
      (policy.check snapshot files).Agrees (policy.check shorter fewer)) ∧
    (∀ column : String,
      (∀ occurrence ∈ before, occurrence.operation.renamesColumn { table, column } = false) →
      ∀ (snapshot shorter : Snapshot) (files fewer : List File),
        history snapshot files =
          before ++
            { origin, event := { operation := .removeColumn table column, location } } :: after →
        history shorter fewer =
          (before.filter fun occurrence =>
            !occurrence.operation.concerns { table, column }) ++ after →
        (policy.check snapshot files).Agrees (policy.check shorter fewer)) := by
  constructor
  · intro snapshot shorter files fewer hhistory hshorter
    exact agrees_of_replay policy hhistory hshorter (alike_dropTable before table htable)
  · intro column hcolumn snapshot shorter files fewer hhistory hshorter
    exact agrees_of_replay policy hhistory hshorter
      (alike_removeColumn before { table, column } htable hcolumn)

/-- A file that erases something, and then declares a column. -/
def erasingFile (erasures : List Operation) : File where
  path := ⟨"1.rb"⟩
  events := erasures.map (fun operation =>
      { operation, location := { file := ⟨"1.rb"⟩, line := 1 } }) ++
    [{ operation := .declareColumn "albums" "comment_id" .integer .unspecified
       location := { file := ⟨"1.rb"⟩, line := 2 } }]
  diagnostics := []

/-- The declaration and the index of the snapshot are of no use to the column that comes back. -/
theorem check_after_erased_albums :
    let dropped := Policy.check {} servedSnapshot [erasingFile [.dropTable "albums"]]
    let removed := Policy.check {} servedSnapshot [erasingFile [.removeColumn "albums" "comment_id"]]
    let fresh := Policy.check {} {} [erasingFile []]
    dropped.Agrees fresh ∧ removed.Agrees fresh ∧
      fresh.violations.map (·.kind) = [.integer] ∧ fresh.stats.indexes = 0 := by
  intro dropped removed fresh
  obtain ⟨hdrop, hremoval⟩ := check_after_erasure {} (occurrences .snapshot servedSnapshot.events)
    (occurrences .changeSet (erasingFile []).events) "albums" (by decide) .changeSet
    { file := ⟨"1.rb"⟩, line := 1 }
  refine ⟨hdrop _ _ _ _ rfl (by decide), ?_, by decide, by decide⟩
  exact hremoval "comment_id" (by decide) _ _ _ _ rfl (by decide)

end Lint

end ForeignKeyLint
