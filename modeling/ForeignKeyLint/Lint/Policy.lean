import ForeignKeyLint.Schema.State
import ForeignKeyLint.Text.Search

/-!
What counts as a violation: a column that is shaped like a foreign key, that no index serves, and
that the policy neither ignores nor leaves out of scope.
-/

namespace ForeignKeyLint.Lint

open Schema Text

/-- Which columns are reported. -/
inductive Scope where
  /-- Those the change set declares, retypes or renames. -/
  | changed
  | all
deriving Repr, DecidableEq

def Scope.name : Scope → String
  | .changed => "changed"
  | .all => "all"

def Scope.ofName? (name : String) : Option Scope :=
  [.changed, .all].find? fun scope => scope.name = name

structure Policy where
  /-- The ending of a column name that marks a foreign key. -/
  foreignKeySuffix : String := "_id"
  /-- A reference has an index unless its declaration declines one. -/
  referencesIndexedByDefault : Bool := false
  scope : Scope := .changed
  /-- Entries `table.column` or `*.column`. -/
  ignoredColumns : List String := []
deriving Repr, DecidableEq

/-- The parts of an entry before and after its first dot. -/
def splitEntry? (entry : String) : Option (List Char × List Char) :=
  splitAtFirst? ['.'] entry.toList

namespace Policy

def isForeignKey (policy : Policy) (name : String) (kind : Kind) : Bool :=
  endsWith policy.foreignKeySuffix.toList name.toList && kind.isKeyShaped

/-- An index serves the column. -/
def isServed (policy : Policy) (state : State) (key : ColumnKey) (column : Column) : Bool :=
  column.inlineIndex = .requested ||
    (policy.referencesIndexedByDefault && column.declaredKind = .reference &&
      column.inlineIndex ≠ .declined) ||
    state.hasLeadingIndex key

/-- Some entry names the column, with its table or with any. -/
def isIgnored (policy : Policy) (key : ColumnKey) : Bool :=
  policy.ignoredColumns.any fun entry =>
    match splitEntry? entry with
    | some (table, column) =>
      (table = ['*'] || table = key.table.toList) && column = key.column.toList
    | none => false

def inScope (policy : Policy) (column : Column) : Bool :=
  policy.scope = .all || column.touched

/-- The column lacks an index and is reported. -/
def isViolation (policy : Policy) (state : State) (key : ColumnKey) (column : Column) : Bool :=
  policy.isForeignKey key.column column.kind && !policy.isServed state key column &&
    !policy.isIgnored key && policy.inScope column

end Policy

end ForeignKeyLint.Lint
