import ForeignKeyLint.Migration.JoinTable
import ForeignKeyLint.Migration.Meaning

/-!
Statements about tables and columns: those that stand alone and name their table, and those of a
table block, whose receiver stands for the table. The `index:` option of a declaration is read
here and carried along with it.
-/

namespace ForeignKeyLint.Migration

open Ruby Schema Text

/-- The kind of a type argument. Only its first word counts, so a cast after the type does not
matter. -/
def kindOf (type : String) : Kind :=
  let token := match words type.toList with
    | [] => type
    | first :: _ => String.ofList first
  (Kind.ofToken? token).getD .other

def inlineIndexOf (option : Option Value) : InlineIndex :=
  match option with
  | none => .unspecified
  | some value => if value.isTruthy then .requested else .declined

def declaration (table column : String) (kind : Kind) (call : Call) : Operation :=
  .declareColumn table column kind (inlineIndexOf (call.option? "index"))

def isPolymorphic (call : Call) : Bool :=
  (call.option? "polymorphic").any Value.isTruthy

/-- The kind of the column a reference adds. The `type:` option narrows it to the two integer
kinds, and no other type changes what it is. -/
def referenceKind (call : Call) : Kind :=
  match ((call.option? "type").bind Value.asName?).map kindOf with
  | some .bigint => .bigint
  | some .integer => .integer
  | _ => .reference

/-- The columns of a reference: its identifier, and its type if it is polymorphic. -/
def reference (table : String) (call : Call) (name : String) : List Operation :=
  declaration table (name ++ "_id") (referenceKind call) call ::
    if isPolymorphic call then
      [.declareColumn table (name ++ "_type") .string .unspecified]
    else []

def referenceRemoval (table : String) (call : Call) (name : String) : List Operation :=
  .removeColumn table (name ++ "_id") ::
    if isPolymorphic call then [.removeColumn table (name ++ "_type")] else []

/-- The name of the join table a call is about. -/
def joinTableOf (call : Call) (a b : String) : String :=
  ((call.option? "table_name").bind Value.asName?).getD (joinTableName a b)

/-- The column of a join table that refers to one side. -/
def joinColumn (table side : String) (call : Call) : Operation :=
  .declareColumn table (singular side ++ "_id") .bigint
    (inlineIndexOf ((call.option? "column_options").bind fun options => options.get? "index"))

/-- The statements that stand alone. -/
inductive Command where
  | createTable
  | createJoinTable
  | changeTable
  | addColumn
  | changeColumn
  | addReference
  | renameColumn
  | removeColumn
  | removeColumns
  | removeReference
  | dropTable
  | dropJoinTable
  | renameTable
deriving Repr, DecidableEq

def Command.ofMethod? (method : String) : Option Command :=
  match method with
  | "create_table" => some .createTable
  | "create_join_table" => some .createJoinTable
  | "change_table" => some .changeTable
  | "add_column" => some .addColumn
  | "change_column" => some .changeColumn
  | "add_reference" | "add_belongs_to" => some .addReference
  | "rename_column" => some .renameColumn
  | "remove_column" => some .removeColumn
  | "remove_columns" => some .removeColumns
  | "remove_reference" | "remove_belongs_to" | "remove_references" => some .removeReference
  | "drop_table" => some .dropTable
  | "drop_join_table" => some .dropJoinTable
  | "rename_table" => some .renameTable
  | _ => none

/-- Opens the block of `table` if the call has a block. -/
def opening (call : Call) (table : String) : Option (String × TableMode) :=
  if call.block.isSome then some (table, .create) else none

/-- The operations found, of which there must be one at least. -/
def someOf (found : List Operation) (fault : String) : Meaning :=
  if found.isEmpty then .malformed fault else .operations found

def Command.meaning (command : Command) (call : Call) : Meaning :=
  match command with
  | .createTable =>
    match call.name? 0 with
    | some table => .effect [.defineTable table] (opening call table)
    | none => .malformed "create_table without a table name"
  | .createJoinTable =>
    match call.name? 0, call.name? 1 with
    | some a, some b =>
      let table := joinTableOf call a b
      .effect [.defineTable table, joinColumn table a call, joinColumn table b call]
        (opening call table)
    | _, _ => .malformed "create_join_table needs two table names"
  | .changeTable =>
    match call.name? 0 with
    | some table => .effect [] (some (table, .change))
    | none => .malformed "change_table without a table name"
  | .addColumn =>
    match call.name? 0, call.name? 1, call.name? 2 with
    | some table, some column, some type =>
      .operations [declaration table column (kindOf type) call]
    | _, _, _ => .malformed "add_column needs a table, a column and a type"
  | .changeColumn =>
    match call.name? 0, call.name? 1, call.name? 2 with
    | some table, some column, some type => .operations [.retypeColumn table column (kindOf type)]
    | _, _, _ => .malformed "change_column needs a table, a column and a type"
  | .addReference =>
    match call.name? 0, call.name? 1 with
    | some table, some name => .operations (reference table call name)
    | _, _ => .malformed (call.method ++ " needs a table and a reference name")
  | .renameColumn =>
    match call.name? 0, call.name? 1, call.name? 2 with
    | some table, some source, some target => .operations [.renameColumn table source target]
    | _, _, _ => .malformed "rename_column needs a table and two names"
  | .removeColumn =>
    -- A third argument may give the type the column had.
    match call.name? 0 with
    | some table =>
      someOf ((call.name? 1).toList.map fun column => .removeColumn table column)
        (call.method ++ " without a column name")
    | none => .malformed (call.method ++ " without a table name")
  | .removeColumns =>
    match call.name? 0 with
    | some table =>
      someOf ((call.namesFrom 1).map fun column => .removeColumn table column)
        (call.method ++ " without a column name")
    | none => .malformed (call.method ++ " without a table name")
  | .removeReference =>
    match call.name? 0 with
    | some table =>
      someOf ((call.namesFrom 1).flatMap (referenceRemoval table call))
        (call.method ++ " without a reference name")
    | none => .malformed (call.method ++ " without a table name")
  | .dropTable =>
    match call.name? 0 with
    | some table => .operations [.dropTable table]
    | none => .malformed "drop_table without a table name"
  | .dropJoinTable =>
    match call.name? 0, call.name? 1 with
    | some a, some b => .operations [.dropTable (joinTableOf call a b)]
    | _, _ => .malformed "drop_join_table needs two table names"
  | .renameTable =>
    match call.name? 0, call.name? 1 with
    | some source, some target => .operations [.renameTable source target]
    | _, _ => .malformed "rename_table needs two table names"

/-- The statements of a table block. -/
inductive BlockCommand where
  /-- A declaration that names its type. -/
  | declare
  | references
  | change
  | rename
  | remove
  | removeReferences
  /-- A declaration whose method is the type. -/
  | typed (kind : Kind)
deriving Repr, DecidableEq

/-- The statement a method stands for in a block of this mode. Columns are changed, renamed and
removed only where the table exists. -/
def BlockCommand.ofMethod? (mode : TableMode) (method : String) : Option BlockCommand :=
  match mode, method with
  | _, "column" => some .declare
  | _, "references" | _, "belongs_to" => some .references
  | .change, "change" => some .change
  | .change, "rename" => some .rename
  | .change, "remove" => some .remove
  | .change, "remove_references" | .change, "remove_belongs_to" => some .removeReferences
  | _, _ => (Kind.ofToken? method).map .typed

def BlockCommand.meaning (command : BlockCommand) (table : String) (call : Call) : Meaning :=
  match command with
  | .declare =>
    match call.name? 0, call.name? 1 with
    | some column, some type => .operations [declaration table column (kindOf type) call]
    | _, _ => .malformed "column needs a name and a type"
  | .references =>
    someOf ((call.namesFrom 0).flatMap (reference table call))
      (call.method ++ " without a reference name")
  | .change =>
    match call.name? 0, call.name? 1 with
    | some column, some type => .operations [.retypeColumn table column (kindOf type)]
    | _, _ => .malformed "change needs a column and a type"
  | .rename =>
    match call.name? 0, call.name? 1 with
    | some source, some target => .operations [.renameColumn table source target]
    | _, _ => .malformed "rename needs two column names"
  | .remove =>
    someOf ((call.namesFrom 0).map fun column => .removeColumn table column)
      "remove without a column name"
  | .removeReferences =>
    someOf ((call.namesFrom 0).flatMap (referenceRemoval table call))
      (call.method ++ " without a reference name")
  | .typed kind =>
    someOf ((call.namesFrom 0).map fun column => declaration table column kind call)
      (call.method ++ " column without a name")

/-- What a call says about tables and columns, inside the given table block if there is one. -/
def columnMeaning (block : Option TableBlock) (call : Call) : Meaning :=
  match block.filter fun block => call.receiver = some block.parameter with
  | some block =>
    match BlockCommand.ofMethod? block.mode call.method with
    | some command => command.meaning block.name call
    | none => .unrelated
  | none =>
    match call.receiver, Command.ofMethod? call.method with
    | none, some command => command.meaning call
    | _, _ => .unrelated

end ForeignKeyLint.Migration
