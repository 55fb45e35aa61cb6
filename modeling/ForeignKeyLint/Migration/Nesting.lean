import ForeignKeyLint.Ruby.Call

/-!
The blocks that enclose a statement. Of these a reader of migrations needs to know the table whose
block is innermost, and whether one of them describes how to undo the migration. Blocks are
entered and left by statements, never by indentation.
-/

namespace ForeignKeyLint.Migration

open Ruby

/-- How a table block is opened. -/
inductive TableMode where
  | create
  | change
deriving Repr, DecidableEq

/-- A block that describes a table. -/
structure TableBlock where
  name : String
  /-- The parameter that stands for the table inside the block. -/
  parameter : String
  mode : TableMode
  /-- The line of the statement that opens the block. -/
  openedAt : Nat
deriving Repr, DecidableEq

inductive Frame where
  | table (block : TableBlock)
  | rollback
  | other
deriving Repr, DecidableEq

def Frame.table? : Frame → Option TableBlock
  | .table block => some block
  | _ => none

/-- The frame a call opens with its block. `table` is the table it names, if it opens a table
block. -/
def Frame.ofCall (call : Call) (table : Option (String × TableMode)) (line : Nat) : Frame :=
  match table with
  | some (name, mode) =>
    .table { name, mode, parameter := (call.block.bind List.head?).getD "t", openedAt := line }
  | none => if call.method = "down" then .rollback else .other

/-- The open blocks, innermost first. -/
abbrev Nesting := List Frame

namespace Nesting

/-- The innermost table block. -/
def table? (nesting : Nesting) : Option TableBlock :=
  nesting.findSome? Frame.table?

def inRollback (nesting : Nesting) : Bool :=
  nesting.contains .rollback

/-- The open table blocks, outermost first. -/
def tables (nesting : Nesting) : List TableBlock :=
  (nesting.filterMap Frame.table?).reverse

/-- The blocks left after the innermost one is closed; a stray end closes nothing. -/
def pop (nesting : Nesting) : Nesting :=
  nesting.tail

end Nesting

end ForeignKeyLint.Migration
