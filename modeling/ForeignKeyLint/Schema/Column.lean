import ForeignKeyLint.Schema.Event

/-!
Columns and what is known of each. The columns of a schema are kept in increasing order of their
table and name, each once, so a report over them is in order without sorting.
-/

namespace ForeignKeyLint.Schema

/-- A column of a table. -/
structure ColumnKey where
  table : String
  column : String
deriving Repr, DecidableEq

namespace ColumnKey

def compare (a b : ColumnKey) : Ordering :=
  (Ord.compare a.table b.table).then (Ord.compare a.column b.column)

end ColumnKey

/-- What is known of a column. -/
structure Column where
  /-- The kind of the last declaration, or of the first change of type if none declares it. -/
  declaredKind : Kind
  declaredAt : Location
  /-- A declaration has been seen, and not only changes of type. -/
  declared : Bool
  /-- The last change of type, which outranks every declaration. -/
  retyped : Option (Kind × Location)
  /-- What the last declaration says about an index of its own. -/
  inlineIndex : InlineIndex
  firstSeen : Location
  /-- The change set declares, retypes or renames the column. -/
  touched : Bool
deriving Repr, DecidableEq

namespace Column

/-- The kind in force. -/
def kind (column : Column) : Kind :=
  match column.retyped with
  | some (kind, _) => kind
  | none => column.declaredKind

/-- The place of the statement that gave the column the kind in force. -/
def kindLocation (column : Column) : Location :=
  match column.retyped with
  | some (_, location) => location
  | none => column.declaredAt

end Column

/-- Columns in increasing order of their keys. -/
abbrev ColumnTable := List (ColumnKey × Column)

namespace ColumnTable

def find? (columns : ColumnTable) (key : ColumnKey) : Option Column :=
  columns.lookup key

/-- Sets the column of a key. -/
def insert (key : ColumnKey) (column : Column) : ColumnTable → ColumnTable
  | [] => [(key, column)]
  | (first, other) :: rest =>
    match key.compare first with
    | .lt => (key, column) :: (first, other) :: rest
    | .eq => (key, column) :: rest
    | .gt => (first, other) :: insert key column rest

def erase (columns : ColumnTable) (key : ColumnKey) : ColumnTable :=
  columns.filter fun entry => entry.1 ≠ key

/-- Removes all columns of a table. -/
def eraseTable (columns : ColumnTable) (table : String) : ColumnTable :=
  columns.filter fun entry => entry.1.table ≠ table

/-- Moves a column to another key, in the place of a column that may stand there. -/
def move (columns : ColumnTable) (source target : ColumnKey) (column : Column) : ColumnTable :=
  insert target column (columns.erase source)

/-- Moves all columns of a table to another table. -/
def renameTable (columns : ColumnTable) (source target : String) : ColumnTable :=
  let moved := columns.filter fun entry => entry.1.table = source
  moved.foldl
    (fun columns (key, column) => columns.move key { table := target, column := key.column } column)
    columns

end ColumnTable

end ForeignKeyLint.Schema
