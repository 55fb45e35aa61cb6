import ForeignKeyLint.Schema.Event

/-!
Indexes. Only the leading column of an index serves a look-up by a single column. Two indexes are
the same index when they are on the same table and have the same set of columns. An index does not keep
the place where it was added: that is told by its event, and nothing reads it from a schema.
-/

namespace ForeignKeyLint.Schema

structure Index where
  table : String
  /-- The columns in the order of the index. -/
  columns : List String
deriving Repr, DecidableEq

/-- Inserts a name into an increasing list, unless it is there. -/
def insertName (name : String) : List String → List String
  | [] => [name]
  | first :: others =>
    if name < first then name :: first :: others
    else if name = first then first :: others
    else first :: insertName name others

namespace Index

def leading? (index : Index) : Option String :=
  index.columns.head?

def contains (index : Index) (column : String) : Bool :=
  index.columns.contains column

/-- The table and the columns in increasing order, each once. -/
def identity (index : Index) : String × List String :=
  (index.table, index.columns.foldr insertName [])

end Index

/-- The number of indexes that differ in their identity. -/
def countDistinct (indexes : List Index) : Nat :=
  (indexes.map Index.identity).eraseDups.length

end ForeignKeyLint.Schema
