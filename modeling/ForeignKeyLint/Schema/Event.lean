import ForeignKeyLint.Decimal.Binary
import ForeignKeyLint.Path
import ForeignKeyLint.Schema.Kind

/-!
What a source file says about the schema: tables and columns that come, change and go, and indexes
that are added. Each event carries the place of the statement it comes from.
-/

namespace ForeignKeyLint.Schema

/-- A place in a source file. Lines count from one, and line zero stands for the whole file. -/
structure Location where
  file : Path
  line : Nat
deriving Repr, DecidableEq, Inhabited

namespace Location

def text (location : Location) : String :=
  location.file.text ++ ":" ++ Decimal.text location.line

/-- The same line of the same file, however the file is spelled. -/
def equivalent (a b : Location) : Bool :=
  a.file.equivalent b.file && a.line == b.line

end Location

/-- What a declaration says about an index of its own. -/
inductive InlineIndex where
  | requested
  | declined
  | unspecified
deriving Repr, DecidableEq

def InlineIndex.name : InlineIndex → String
  | .requested => "requested"
  | .declined => "declined"
  | .unspecified => "unspecified"

/-- A single operation on the schema. -/
inductive Operation where
  | defineTable (table : String)
  | dropTable (table : String)
  | renameTable (source target : String)
  | declareColumn (table column : String) (kind : Kind) (inlineIndex : InlineIndex)
  | retypeColumn (table column : String) (kind : Kind)
  | renameColumn (table source target : String)
  | removeColumn (table column : String)
  | addIndex (table : String) (columns : List String)
deriving Repr, DecidableEq

/-- The operation adds an index. -/
def Operation.isIndex : Operation → Bool
  | .addIndex .. => true
  | _ => false

/-- An operation and the place of its statement. -/
structure Event where
  operation : Operation
  location : Location
deriving Repr, DecidableEq

end ForeignKeyLint.Schema
