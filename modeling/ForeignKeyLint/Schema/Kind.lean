/-!
Column kinds, as far as foreign keys are concerned, and the type tokens of migrations that stand
for them.
-/

namespace ForeignKeyLint.Schema

inductive Kind where
  | bigint
  | integer
  | string
  | text
  /-- A column that a reference adds. -/
  | reference
  | other
deriving Repr, DecidableEq

namespace Kind

/-- The type tokens of each kind. -/
def tokens : Kind → List String
  | .bigint => ["bigint", "bigserial"]
  | .integer => ["integer", "serial", "smallint"]
  | .string => ["string", "citext"]
  | .text => ["text"]
  | .reference => ["references", "belongs_to"]
  | .other => [
      "primary_key", "float", "decimal", "numeric", "datetime", "time", "date", "timestamp",
      "timestamptz", "binary", "blob", "boolean", "json", "jsonb", "uuid", "hstore", "inet",
      "cidr", "macaddr", "ltree", "virtual", "enum", "tsvector", "xml", "point", "line", "money",
      "interval", "bit", "bit_varying", "oid", "daterange", "numrange", "tsrange", "tstzrange",
      "int4range", "int8range"]

/-- Every kind, once. -/
def all : List Kind :=
  [.bigint, .integer, .string, .text, .reference, .other]

/-- The kind a type token stands for, colons before it and the case of its letters aside. A token
that is no column type stands for none. -/
def ofToken? (token : String) : Option Kind :=
  let word := String.ofList ((token.toList.dropWhile (· == ':')).map Char.toLower)
  all.find? fun kind => kind.tokens.contains word

/-- A column of this kind can hold the identifier of a row elsewhere. -/
def isKeyShaped : Kind → Bool
  | .bigint | .integer | .reference => true
  | .string | .text | .other => false

def name : Kind → String
  | .bigint => "bigint"
  | .integer => "integer"
  | .string => "string"
  | .text => "text"
  | .reference => "reference"
  | .other => "other"

end Kind

end ForeignKeyLint.Schema
