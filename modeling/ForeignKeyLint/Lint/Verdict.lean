import ForeignKeyLint.Lint.Policy
import ForeignKeyLint.Snapshot

/-!
The verdict on a change set: the snapshot and every file are folded into one schema, and each
foreign key that no index serves is a violation, in the order of tables and columns.
-/

namespace ForeignKeyLint.Lint

open Migration Schema

/-- A foreign key without an index. -/
structure Violation where
  table : String
  column : String
  kind : Kind
  /-- The place of the statement that gave the column its kind. -/
  location : Location
  /-- The place where the column was first seen. -/
  firstSeen : Location
deriving Repr, DecidableEq

namespace Violation

/-- The statement that mends the violation. -/
def suggestion (violation : Violation) : String :=
  "add_index :" ++ violation.table ++ ", :" ++ violation.column

def text (violation : Violation) : String :=
  violation.location.text ++ " - Missing index on " ++ violation.table ++ "." ++ violation.column ++
    " (" ++ violation.kind.name ++ ")\n  Suggestion: " ++ violation.suggestion

end Violation

structure Stats where
  files : Nat := 0
  /-- The columns that exist in the end. -/
  columnsTracked : Nat := 0
  foreignKeys : Nat := 0
  /-- The indexes that differ in their table or set of columns. -/
  indexes : Nat := 0
deriving Repr, DecidableEq

structure Verdict where
  violations : List Violation
  /-- Those of the snapshot, those of each file in order, and those of the fold. -/
  diagnostics : List Diagnostic
  stats : Stats
deriving Repr, DecidableEq

/-- The schema after the snapshot and the files, in this order. -/
def finalState (snapshot : Snapshot) (files : List File) : State :=
  (State.applyAll {} .snapshot snapshot.events).applyAll .changeSet (files.flatMap (·.events))

/-- The complaint about a change of type of a column that is declared nowhere. -/
def ambiguity (change : Retype) : Diagnostic :=
  { kind := .ambiguousRetype
    location := change.location
    message := change.key.table ++ "." ++ change.key.column ++
      " changes type but was never declared; assuming " ++ change.kind.name }

namespace Policy

/-- The violations in a schema. -/
def violations (policy : Policy) (state : State) : List Violation :=
  (state.columns.filter fun (key, column) => policy.isViolation state key column).map
    fun (key, column) =>
      { table := key.table, column := key.column, kind := column.kind
        location := column.kindLocation, firstSeen := column.firstSeen }

def foreignKeys (policy : Policy) (state : State) : Nat :=
  (state.columns.filter fun (key, column) => policy.isForeignKey key.column column.kind).length

/-- The verdict on a change set whose files are folded in the order given. -/
def check (policy : Policy) (snapshot : Snapshot) (files : List File) : Verdict :=
  let state := finalState snapshot files
  { violations := policy.violations state
    diagnostics := snapshot.diagnostics ++ files.flatMap (·.diagnostics) ++
      state.ambiguousRetypes.map ambiguity
    stats := {
      files := files.length
      columnsTracked := state.columns.length
      foreignKeys := policy.foreignKeys state
      indexes := countDistinct state.indexes } }

end Policy

end ForeignKeyLint.Lint
