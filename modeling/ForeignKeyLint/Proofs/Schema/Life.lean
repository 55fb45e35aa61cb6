import ForeignKeyLint.Proofs.Schema.Replay
import Mathlib.Data.List.DropRight

/-!
The life of a column, read off a history without renames. It holds the declarations and changes of
type after the last event that ends the column. The record that a replay keeps of a column sums up
its life and nothing else, and the indexes of the replayed state are exactly those that were added
and that nothing later takes away.
-/

namespace ForeignKeyLint.Schema

namespace Operation

/-- A table or a column gets another name. -/
def isRename : Operation → Bool
  | .renameTable .. | .renameColumn .. => true
  | _ => false

/-- The column that the operation declares or retypes. -/
def shapes? : Operation → Option ColumnKey
  | .declareColumn table column _ _ => some { table, column }
  | .retypeColumn table column _ => some { table, column }
  | _ => none

/-- The operation removes the column, alone or with its table. -/
def ends (key : ColumnKey) : Operation → Bool
  | .dropTable table => key.table = table
  | .removeColumn table column => key = { table, column }
  | _ => false

/-- The kind and the index option of a declaration. -/
def declaration? : Operation → Option (Kind × InlineIndex)
  | .declareColumn _ _ kind inlineIndex => some (kind, inlineIndex)
  | _ => none

/-- The kind that a change of type gives. -/
def newKind? : Operation → Option Kind
  | .retypeColumn _ _ kind => some kind
  | _ => none

/-- The operation takes the index away with its table or with one of its columns. -/
def destroys (index : Index) : Operation → Bool
  | .dropTable table => index.table = table
  | .removeColumn table column => index.table = table ∧ column ∈ index.columns
  | _ => false

end Operation

/-- The declarations and changes of type of a column after the last event that ends it. -/
def life (key : ColumnKey) (history : List Occurrence) : List Occurrence :=
  (history.rtakeWhile fun occurrence => !occurrence.operation.ends key).filter
    fun occurrence => occurrence.operation.shapes? = some key

/-- The declarations of a life, in order. -/
def declarations (life : List Occurrence) : List (Kind × InlineIndex) :=
  life.filterMap fun occurrence => occurrence.operation.declaration?

/-- The kinds that the changes of type of a life give, in order. -/
def newKinds (life : List Occurrence) : List Kind :=
  life.filterMap fun occurrence => occurrence.operation.newKind?

/-- The kind in force after a life: that of the last change of type, else of the last declaration. -/
def effectiveKind? (life : List Occurrence) : Option Kind :=
  (newKinds life).getLast?.or ((declarations life).getLast?.map Prod.fst)

/-- The last declaration of a life. A life without any counts its first change of type as one that
says nothing about an index. -/
def lastDeclaration? (life : List Occurrence) : Option (Kind × InlineIndex) :=
  (declarations life).getLast?.or ((newKinds life).head?.map fun kind => (kind, .unspecified))

/-- The index was added, and no later event takes it away. -/
def Survives (index : Index) (history : List Occurrence) : Prop :=
  ∃ before added after, history = before ++ added :: after ∧
    added.operation = .addIndex index.table index.columns ∧
    ∀ later ∈ after, later.operation.destroys index = false

theorem life_concat (key : ColumnKey) (history : List Occurrence) (last : Occurrence) :
    life key (history ++ [last]) =
      if last.operation.ends key then []
      else if last.operation.shapes? = some key then life key history ++ [last]
      else life key history := by
  unfold life
  rw [List.rtakeWhile_concat]
  by_cases hends : last.operation.ends key
  · simp [hends]
  · by_cases hshapes : last.operation.shapes? = some key <;> simp [hends, hshapes]

theorem survives_concat (index : Index) (history : List Occurrence) (last : Occurrence) :
    Survives index (history ++ [last]) ↔
      (Survives index history ∧ last.operation.destroys index = false) ∨
        last.operation = .addIndex index.table index.columns := by
  constructor
  · rintro ⟨before, added, after, hsplit, hadded, hlater⟩
    -- The added event is the last one, or an earlier one with the last among those after it.
    rcases List.eq_nil_or_concat after with rfl | ⟨middle, final, rfl⟩
    · obtain ⟨-, rfl⟩ := List.append_inj' hsplit rfl |>.imp_right List.singleton_inj.mp
      exact .inr hadded
    · have hsplit' : history ++ [last] = (before ++ added :: middle) ++ [final] := by
        simpa using hsplit
      obtain ⟨rfl, hlast⟩ := List.append_inj' hsplit' rfl
      obtain rfl := List.singleton_inj.mp hlast
      refine .inl ⟨⟨before, added, middle, rfl, hadded, ?_⟩, hlater last (by simp)⟩
      intro later hmem
      exact hlater later (by simp [hmem])
  · rintro (⟨⟨before, added, after, rfl, hadded, hlater⟩, hlast⟩ | hadded)
    · refine ⟨before, added, after ++ [last], by simp, hadded, ?_⟩
      intro later hmem
      rcases List.mem_append.mp hmem with hmem | hmem
      · exact hlater later hmem
      · rw [List.mem_singleton.mp hmem]
        exact hlast
    · exact ⟨history, last, [], rfl, hadded, by simp⟩

namespace State

/-- An event that ends a column leaves nothing of it. -/
theorem find?_apply_of_ends (state : State) (origin : Origin) (event : Event) (key : ColumnKey)
    (h : event.operation.ends key = true) :
    (state.apply origin event).columns.find? key = none := by
  unfold apply
  cases hop : event.operation with
  | dropTable table =>
    have hkey : key.table = table := by simpa [hop, Operation.ends] using h
    simp [dropTable, ColumnTable.find?_eraseTable, hkey]
  | removeColumn table column =>
    have hkey : key = { table, column } := by simpa [hop, Operation.ends] using h
    simp [removeColumn, ColumnTable.find?_erase, hkey]
  | _ => simp [hop, Operation.ends] at h

/-- An event that neither renames anything nor shapes or ends a column leaves the column alone. -/
theorem find?_apply_of_unrelated (state : State) (origin : Origin) (event : Event)
    (key : ColumnKey) (hrename : event.operation.isRename = false)
    (hends : event.operation.ends key = false) (hshapes : event.operation.shapes? ≠ some key) :
    (state.apply origin event).columns.find? key = state.columns.find? key := by
  unfold apply
  cases hop : event.operation with
  | defineTable table => rfl
  | dropTable table =>
    have hkey : key.table ≠ table := by simpa [hop, Operation.ends] using hends
    simp [dropTable, ColumnTable.find?_eraseTable, hkey]
  | renameTable source target => simp [hop, Operation.isRename] at hrename
  | declareColumn table column kind inlineIndex =>
    have hkey : key ≠ { table, column } := by simpa [hop, Operation.shapes?, eq_comm] using hshapes
    simp [columns_declare, ColumnTable.find?_insert, hkey]
  | retypeColumn table column kind =>
    have hkey : key ≠ { table, column } := by simpa [hop, Operation.shapes?, eq_comm] using hshapes
    simp [columns_retype, ColumnTable.find?_insert, hkey]
  | renameColumn table source target => simp [hop, Operation.isRename] at hrename
  | removeColumn table column =>
    have hkey : key ≠ { table, column } := by simpa [hop, Operation.ends] using hends
    simp [removeColumn, ColumnTable.find?_erase, hkey]
  | addIndex table columns => simp [columns_addIndex]

/-- A declaration shapes the column it names. -/
theorem find?_apply_of_declare (state : State) (origin : Origin) {event : Event}
    {table column : String} {kind : Kind} {inlineIndex : InlineIndex}
    (h : event.operation = .declareColumn table column kind inlineIndex) :
    (state.apply origin event).columns.find? { table, column } =
      some (Column.declaring (state.columns.find? { table, column }) origin kind inlineIndex
        event.location) := by
  simp [apply, h, columns_declare, ColumnTable.find?_insert]

/-- A change of type shapes the column it names. -/
theorem find?_apply_of_retype (state : State) (origin : Origin) {event : Event}
    {table column : String} {kind : Kind} (h : event.operation = .retypeColumn table column kind) :
    (state.apply origin event).columns.find? { table, column } =
      some (Column.retyping (state.columns.find? { table, column }) origin kind
        event.location) := by
  simp [apply, h, columns_retype, ColumnTable.find?_insert]

/-- The indexes after an event that renames nothing: those it does not take away, and the one it
adds. -/
theorem mem_indexes_apply (state : State) (origin : Origin) (event : Event) (index : Index)
    (hrename : event.operation.isRename = false) :
    index ∈ (state.apply origin event).indexes ↔
      (index ∈ state.indexes ∧ event.operation.destroys index = false) ∨
        event.operation = .addIndex index.table index.columns := by
  unfold apply
  cases hop : event.operation with
  | defineTable table => simp [Operation.destroys]
  | dropTable table => simp [dropTable, Operation.destroys]
  | renameTable source target => simp [hop, Operation.isRename] at hrename
  | declareColumn table column kind inlineIndex => simp [declare, Operation.destroys]
  | retypeColumn table column kind => simp [indexes_retype, Operation.destroys]
  | renameColumn table source target => simp [hop, Operation.isRename] at hrename
  | removeColumn table column =>
    simp [removeColumn, Operation.destroys, Index.contains, imp_iff_not_or]
  | addIndex table columns =>
    obtain ⟨indexTable, indexColumns⟩ := index
    simp [mem_addIndex, Operation.destroys, eq_comm]

end State

/-- What the record of a column has to do with its life. -/
structure Column.SumsUp (column : Column) (life : List Occurrence) : Prop where
  alive : life ≠ []
  retyped : column.retyped.map Prod.fst = (newKinds life).getLast?
  declared : lastDeclaration? life = some (column.declaredKind, column.inlineIndex)
  touched : column.touched = life.any (·.origin.isChangeSet)

/-- The record of a column, if it has one, sums up its life, and a column without a record has no
life. -/
def Recorded (known : Option Column) (life : List Occurrence) : Prop :=
  match known with
  | some column => column.SumsUp life
  | none => life = []

theorem Column.SumsUp.effectiveKind {column : Column} {life : List Occurrence}
    (h : column.SumsUp life) : effectiveKind? life = some column.kind := by
  have hretyped := h.retyped
  have hdeclared := h.declared
  unfold effectiveKind? Column.kind
  cases hchange : column.retyped with
  | some change =>
    obtain ⟨kind, location⟩ := change
    rw [hchange] at hretyped
    simp [← hretyped]
  | none =>
    -- Without a change of type the last declaration is a declaration proper.
    rw [hchange, Option.map_none] at hretyped
    have hnone : newKinds life = [] := List.getLast?_eq_none_iff.mp hretyped.symm
    rw [lastDeclaration?, hnone, List.head?_nil, Option.map_none, Option.or_none] at hdeclared
    simp [hnone, hdeclared]

/-- A declaration keeps a record true to the life it is added to. -/
theorem Recorded.declaring {known : Option Column} {life : List Occurrence}
    (h : Recorded known life) (last : Occurrence) {table column : String} {kind : Kind}
    {inlineIndex : InlineIndex}
    (hlast : last.operation = .declareColumn table column kind inlineIndex) :
    (Column.declaring known last.origin kind inlineIndex last.event.location).SumsUp
      (life ++ [last]) := by
  have hdeclarations : declarations (life ++ [last]) = declarations life ++ [(kind, inlineIndex)] := by
    simp [declarations, hlast, Operation.declaration?]
  have hkinds : newKinds (life ++ [last]) = newKinds life := by
    simp [newKinds, hlast, Operation.newKind?]
  have hdeclared : lastDeclaration? (life ++ [last]) = some (kind, inlineIndex) := by
    simp [lastDeclaration?, hdeclarations]
  cases known with
  | some known =>
    refine ⟨by simp, ?_, hdeclared, ?_⟩
    · rw [hkinds]
      exact h.retyped
    · simp [Column.declaring, h.touched]
  | none =>
    obtain rfl : life = [] := h
    refine ⟨by simp, ?_, hdeclared, ?_⟩
    · rw [hkinds]
      rfl
    · simp [Column.declaring]

/-- A change of type keeps a record true to the life it is added to. The declaration in force stays,
and a life that begins with the change counts it as one. -/
theorem Recorded.retyping {known : Option Column} {life : List Occurrence}
    (h : Recorded known life) (last : Occurrence) {table column : String} {kind : Kind}
    (hlast : last.operation = .retypeColumn table column kind) :
    (Column.retyping known last.origin kind last.event.location).SumsUp (life ++ [last]) := by
  have hdeclarations : declarations (life ++ [last]) = declarations life := by
    simp [declarations, hlast, Operation.declaration?]
  have hkinds : newKinds (life ++ [last]) = newKinds life ++ [kind] := by
    simp [newKinds, hlast, Operation.newKind?]
  cases known with
  | some known =>
    refine ⟨by simp, by simp [hkinds, Column.retyping], ?_, ?_⟩
    · have hdeclared := h.declared
      unfold lastDeclaration? at hdeclared ⊢
      rw [hdeclarations, hkinds]
      cases hkind : newKinds life with
      | nil =>
        simp only [hkind, List.head?_nil, Option.map_none, Option.or_none] at hdeclared
        simp [hdeclared, Column.retyping]
      | cons first rest => simpa [hkind, Column.retyping] using hdeclared
    · simp [Column.retyping, h.touched]
  | none =>
    obtain rfl : life = [] := h
    refine ⟨by simp, ?_, ?_, by simp [Column.retyping]⟩
    · rw [hkinds]
      rfl
    · rw [lastDeclaration?, hdeclarations, hkinds]
      rfl

/-- One event that renames nothing keeps every record true to the life it belongs to. -/
theorem recorded_apply {state : State} {key : ColumnKey} {history : List Occurrence}
    (h : Recorded (state.columns.find? key) (life key history)) (last : Occurrence)
    (hrename : last.operation.isRename = false) :
    Recorded ((state.apply last.origin last.event).columns.find? key)
      (life key (history ++ [last])) := by
  rw [life_concat]
  by_cases hends : last.operation.ends key = true
  · rw [state.find?_apply_of_ends last.origin last.event key hends, if_pos hends]
    rfl
  · rw [if_neg hends]
    by_cases hshapes : last.operation.shapes? = some key
    · rw [if_pos hshapes]
      cases hop : last.operation with
      | declareColumn table column kind inlineIndex =>
        obtain rfl : { table, column } = key := by simpa [hop, Operation.shapes?] using hshapes
        rw [state.find?_apply_of_declare last.origin hop]
        exact h.declaring last hop
      | retypeColumn table column kind =>
        obtain rfl : { table, column } = key := by simpa [hop, Operation.shapes?] using hshapes
        rw [state.find?_apply_of_retype last.origin hop]
        exact h.retyping last hop
      | _ => simp [hop, Operation.shapes?] at hshapes
    · rw [if_neg hshapes, state.find?_apply_of_unrelated last.origin last.event key hrename
        (Bool.eq_false_iff.mpr hends) hshapes]
      exact h

/-- After a history without renames the record of every column sums up its life. -/
theorem recorded_replay (history : List Occurrence)
    (hrename : ∀ occurrence ∈ history, occurrence.operation.isRename = false) (key : ColumnKey) :
    Recorded ((State.replay {} history).columns.find? key) (life key history) := by
  induction history using List.reverseRecOn with
  | nil => rfl
  | append_singleton history last ih =>
    rw [State.replay_concat]
    exact recorded_apply (ih fun o ho => hrename o (by simp [ho])) last (hrename last (by simp))

/-- After a history without renames the indexes are those that survive it. -/
theorem mem_indexes_replay_iff (history : List Occurrence)
    (hrename : ∀ occurrence ∈ history, occurrence.operation.isRename = false) (index : Index) :
    index ∈ (State.replay {} history).indexes ↔ Survives index history := by
  induction history using List.reverseRecOn with
  | nil => simp [Survives]
  | append_singleton history last ih =>
    rw [State.replay_concat, survives_concat, ← ih fun o ho => hrename o (by simp [ho])]
    exact State.mem_indexes_apply _ _ _ index (hrename last (by simp))

end ForeignKeyLint.Schema
