import ForeignKeyLint.Migration.Meaning

/-!
Statements that add an index: one that stands alone and names its table, and one of a table block.
Options do not matter for what an index covers.
-/

namespace ForeignKeyLint.Migration

open Ruby Schema

/-- A plain column name, which an expression is not. -/
def isColumnName (name : String) : Bool :=
  !name.isEmpty && name.toList.all isWordChar

/-- An index on `table` over what the argument names. -/
def indexOn (table : String) (argument : Option Value) : Meaning :=
  match argument with
  | none => .malformed "index without columns"
  | some value =>
    match value.asNames? with
    | some [] => .malformed "index with an empty column list"
    | names =>
      match names.filter fun names => names.all isColumnName with
      | some names => .operations [.addIndex table names]
      | none =>
        .fault .unsupportedIndexExpression ("index on " ++ table ++ " is not a plain column list")

/-- What a call says about indexes, inside the given table block if there is one. -/
def indexMeaning (block : Option TableBlock) (call : Call) : Meaning :=
  match block.filter fun block => call.receiver = some block.parameter && call.method = "index" with
  | some block => indexOn block.name call.positionals[0]?
  | none =>
    if call.receiver = none ∧ call.method = "add_index" then
      match call.name? 0 with
      | some table => indexOn table call.positionals[1]?
      | none => .malformed "add_index without a table name"
    else .unrelated

end ForeignKeyLint.Migration
