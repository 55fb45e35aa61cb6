import ForeignKeyLint.Schema.Column
import ForeignKeyLint.Schema.Index

/-!
The state of a schema, and how an event changes it. Events are folded in one order: those of the
snapshot first, then those of the change set. The kind of a column comes from its last change of
type if it has one, and otherwise from its last declaration.
-/

namespace ForeignKeyLint.Schema

/-- Where an event comes from. -/
inductive Origin where
  | snapshot
  | changeSet
deriving Repr, DecidableEq

def Origin.isChangeSet : Origin → Bool
  | .snapshot => false
  | .changeSet => true

/-- A change of type, with the column and the place it applies to. -/
structure Retype where
  key : ColumnKey
  kind : Kind
  location : Location
deriving Repr, DecidableEq

structure State where
  columns : ColumnTable := []
  /-- The indexes in the order they were added. -/
  indexes : List Index := []
  /-- Every column that a declaration named, whatever happened to it later. -/
  declared : List ColumnKey := []
  /-- The changes of type that came before any declaration of their column. -/
  undeclaredRetypes : List Retype := []
deriving Repr, DecidableEq, Inhabited

namespace State

/-- Applies a declaration. -/
def declare (state : State) (origin : Origin) (key : ColumnKey) (kind : Kind)
    (inlineIndex : InlineIndex) (location : Location) : State :=
  let column : Column := match state.columns.find? key with
    | some known =>
      { known with
        declaredKind := kind, declaredAt := location, declared := true, inlineIndex
        touched := known.touched || origin.isChangeSet }
    | none =>
      { declaredKind := kind, declaredAt := location, declared := true, retyped := none, inlineIndex
        firstSeen := location, touched := origin.isChangeSet }
  { state with
    columns := state.columns.insert key column
    declared := state.declared ++ [key] }

/-- Applies a change of type, which makes the column known if it was not. -/
def retype (state : State) (origin : Origin) (change : Retype) : State :=
  let retyped := some (change.kind, change.location)
  match state.columns.find? change.key with
  | some known =>
    { state with
      columns := state.columns.insert change.key
        { known with retyped, touched := known.touched || origin.isChangeSet }
      undeclaredRetypes :=
        if known.declared then state.undeclaredRetypes else state.undeclaredRetypes ++ [change] }
  | none =>
    { state with
      columns := state.columns.insert change.key
        { declaredKind := change.kind, declaredAt := change.location, declared := false, retyped
          inlineIndex := .unspecified, firstSeen := change.location
          touched := origin.isChangeSet }
      undeclaredRetypes := state.undeclaredRetypes ++ [change] }

/-- Renames a column in the columns and in every index of its table. A column that is not known
leaves nothing to move. -/
def renameColumn (state : State) (origin : Origin) (table source target : String) : State :=
  { state with
    columns := match state.columns.find? { table, column := source } with
      | some known =>
        state.columns.move { table, column := source } { table, column := target }
          { known with touched := known.touched || origin.isChangeSet }
      | none => state.columns
    indexes := state.indexes.map fun index =>
      if index.table = table then
        { index with
          columns := index.columns.map fun column => if column = source then target else column }
      else index }

def renameTable (state : State) (source target : String) : State :=
  { state with
    columns := state.columns.renameTable source target
    indexes := state.indexes.map fun index =>
      if index.table = source then { index with table := target } else index }

/-- Removes a column and every index it takes part in. -/
def removeColumn (state : State) (table column : String) : State :=
  { state with
    columns := state.columns.erase { table, column }
    indexes := state.indexes.filter fun index => !(index.table = table ∧ index.contains column) }

def dropTable (state : State) (table : String) : State :=
  { state with
    columns := state.columns.eraseTable table
    indexes := state.indexes.filter fun index => index.table ≠ table }

/-- Adds an index unless one with the same columns in the same order is there. -/
def addIndex (state : State) (index : Index) : State :=
  if state.indexes.contains index then state
  else { state with indexes := state.indexes ++ [index] }

/-- The state after an event. A table exists only through its columns. -/
def apply (state : State) (origin : Origin) (event : Event) : State :=
  match event.operation with
  | .defineTable _ => state
  | .dropTable table => state.dropTable table
  | .renameTable source target => state.renameTable source target
  | .declareColumn table column kind inlineIndex =>
    state.declare origin { table, column } kind inlineIndex event.location
  | .retypeColumn table column kind =>
    state.retype origin { key := { table, column }, kind, location := event.location }
  | .renameColumn table source target => state.renameColumn origin table source target
  | .removeColumn table column => state.removeColumn table column
  | .addIndex table columns => state.addIndex { table, columns }

/-- The state after events in order. -/
def applyAll (state : State) (origin : Origin) (events : List Event) : State :=
  events.foldl (fun state event => state.apply origin event) state

/-- The changes of type whose column no declaration names, before or after. -/
def ambiguousRetypes (state : State) : List Retype :=
  state.undeclaredRetypes.filter fun change => !state.declared.contains change.key

/-- Some index of the table leads with the column. -/
def hasLeadingIndex (state : State) (key : ColumnKey) : Bool :=
  state.indexes.any fun index => index.table = key.table && index.leading? = some key.column

end State

end ForeignKeyLint.Schema
