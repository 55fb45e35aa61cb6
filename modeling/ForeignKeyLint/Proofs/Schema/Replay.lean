import ForeignKeyLint.Proofs.Schema.Columns

/-!
Replaying a history of events. Events of the snapshot and of the change set are folded by one
function, so a history keeps the origin beside each event. What an event does is said here once: for
each operation the look-ups in the columns after it, and which indexes it leaves. The columns stay
ordered along every history.
-/

namespace ForeignKeyLint.Schema

/-- An event of a history, and where it comes from. -/
structure Occurrence where
  origin : Origin
  event : Event
deriving Repr, DecidableEq

/-- The operation that an occurrence carries out. -/
def Occurrence.operation (occurrence : Occurrence) : Operation :=
  occurrence.event.operation

/-- Events of one origin, as a part of a history. -/
def occurrences (origin : Origin) (events : List Event) : List Occurrence :=
  events.map fun event => { origin, event }

/-- What a declaration makes of a column that may be known. -/
def Column.declaring (known : Option Column) (origin : Origin) (kind : Kind)
    (inlineIndex : InlineIndex) (location : Location) : Column :=
  match known with
  | some known =>
    { known with
      declaredKind := kind, declaredAt := location, declared := true, inlineIndex
      touched := known.touched || origin.isChangeSet }
  | none =>
    { declaredKind := kind, declaredAt := location, declared := true, retyped := none, inlineIndex
      firstSeen := location, touched := origin.isChangeSet }

/-- What a change of type makes of a column that may be known. -/
def Column.retyping (known : Option Column) (origin : Origin) (kind : Kind) (location : Location) :
    Column :=
  match known with
  | some known =>
    { known with
      retyped := some (kind, location), touched := known.touched || origin.isChangeSet }
  | none =>
    { declaredKind := kind, declaredAt := location, declared := false
      retyped := some (kind, location), inlineIndex := .unspecified, firstSeen := location
      touched := origin.isChangeSet }

/-- The column after a rename, which counts as a change of the change set if it comes from there. -/
def Column.touching (origin : Origin) (column : Column) : Column :=
  { column with touched := column.touched || origin.isChangeSet }

namespace State

/-- The state after a history. -/
def replay (state : State) (history : List Occurrence) : State :=
  history.foldl (fun state occurrence => state.apply occurrence.origin occurrence.event) state

@[simp]
theorem replay_nil (state : State) : state.replay [] = state := rfl

theorem replay_append (state : State) (first second : List Occurrence) :
    state.replay (first ++ second) = (state.replay first).replay second :=
  List.foldl_append

theorem replay_concat (state : State) (history : List Occurrence) (last : Occurrence) :
    state.replay (history ++ [last]) = (state.replay history).apply last.origin last.event :=
  replay_append state history [last]

theorem applyAll_eq_replay (state : State) (origin : Origin) (events : List Event) :
    state.applyAll origin events = state.replay (occurrences origin events) := by
  rw [replay, occurrences, List.foldl_map]
  rfl

theorem columns_declare (state : State) (origin : Origin) (key : ColumnKey) (kind : Kind)
    (inlineIndex : InlineIndex) (location : Location) :
    (state.declare origin key kind inlineIndex location).columns =
      state.columns.insert key
        (Column.declaring (state.columns.find? key) origin kind inlineIndex location) := by
  unfold declare Column.declaring
  cases state.columns.find? key <;> rfl

theorem columns_retype (state : State) (origin : Origin) (change : Retype) :
    (state.retype origin change).columns =
      state.columns.insert change.key
        (Column.retyping (state.columns.find? change.key) origin change.kind change.location) := by
  unfold retype Column.retyping
  cases state.columns.find? change.key <;> rfl

theorem indexes_retype (state : State) (origin : Origin) (change : Retype) :
    (state.retype origin change).indexes = state.indexes := by
  unfold retype
  cases state.columns.find? change.key <;> rfl

theorem columns_renameColumn (state : State) (origin : Origin) (table source target : String) :
    (state.renameColumn origin table source target).columns =
      match state.columns.find? { table, column := source } with
      | some known =>
        state.columns.move { table, column := source } { table, column := target }
          (known.touching origin)
      | none => state.columns := rfl

theorem columns_addIndex (state : State) (index : Index) :
    (state.addIndex index).columns = state.columns := by
  unfold addIndex
  split <;> rfl

/-- An index is there after an addition if it was there or is the one added. -/
theorem mem_addIndex (state : State) (added index : Index) :
    index ∈ (state.addIndex added).indexes ↔ index ∈ state.indexes ∨ index = added := by
  unfold addIndex
  split
  · next hknown =>
    have hmem : added ∈ state.indexes := by simpa using hknown
    constructor
    · exact .inl
    · rintro (h | rfl)
      · exact h
      · exact hmem
  · simp

/-- One event keeps the columns in order. -/
theorem sorted_apply {state : State} (h : state.columns.Sorted) (origin : Origin) (event : Event) :
    (state.apply origin event).columns.Sorted := by
  unfold apply
  split
  · exact h
  · exact h.filter _
  · exact h.renameTable _ _
  · rw [columns_declare]
    exact h.insert _ _
  · rw [columns_retype]
    exact h.insert _ _
  · rw [columns_renameColumn]
    split
    · exact h.move _ _ _
    · exact h
  · exact h.filter _
  · rw [columns_addIndex]
    exact h

/-- A whole history keeps the columns in order. -/
theorem sorted_replay {state : State} (h : state.columns.Sorted) (history : List Occurrence) :
    (state.replay history).columns.Sorted := by
  induction history generalizing state with
  | nil => exact h
  | cons occurrence rest ih => exact ih (sorted_apply h _ _)

theorem sorted_replay_empty (history : List Occurrence) :
    (State.replay {} history).columns.Sorted := by
  apply sorted_replay
  exact List.Pairwise.nil

end State

end ForeignKeyLint.Schema
