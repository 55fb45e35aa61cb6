import ForeignKeyLint.Config
import ForeignKeyLint.Json.Value
import ForeignKeyLint.Yaml.Node

/-!
Reading a configuration from a document. Every setting may be absent and then has its default,
settings of other names are passed over, and a setting that occurs twice or has the wrong type makes
the document malformed. JSON and YAML documents differ only in what they take for a text, a list, a
truth value, a count and a word.
-/

namespace ForeignKeyLint.Config

open Lint Text

/-- What the values of a kind of document can be taken for. -/
structure Reading (α : Type) where
  text? : α → Option String
  list? : α → Option (List α)
  flag? : α → Option Bool
  /-- A count, or nothing where the value says that there is none. -/
  optionalCount? : α → Option (Option Nat)
  /-- One of a fixed choice of words. -/
  word? : α → Option String

/-- The greatest count that is accepted. -/
def maxCount : Nat := Nat.pow 2 64 - 1

/-- The value of a setting among the members of a document, or its default. -/
def setting? {α β : Type} (members : List (String × α)) (name : String) (default : β)
    (read : α → Option β) : Option β :=
  match members.filter (·.1 == name) with
  | [] => some default
  | [(_, value)] => read value
  | _ => none

/-- The configuration that the members of a document give. -/
def ofMembers? {α : Type} (reading : Reading α) (members : List (String × α)) : Option Config := do
  let standard : Config := {}
  let path? (value : α) : Option Path := (reading.text? value).map Path.ofText
  let texts? (value : α) : Option (List String) :=
    (reading.list? value).bind fun items => items.mapM reading.text?
  some {
    schemaPath := ← setting? members "schema_path" standard.schemaPath path?
    migrationsDir := ← setting? members "migrations_dir" standard.migrationsDir path?
    foreignKeySuffix :=
      ← setting? members "foreign_key_suffix" standard.foreignKeySuffix reading.text?
    excludedFiles := ← setting? members "excluded_files" standard.excludedFiles texts?
    checkAfter := ← setting? members "check_after" standard.checkAfter reading.optionalCount?
    ignoredColumns := ← setting? members "ignored_columns" standard.ignoredColumns texts?
    fileOrder := ← setting? members "file_order" standard.fileOrder
      fun value => (reading.word? value).bind FileOrder.ofName?
    reportScope := ← setting? members "report_scope" standard.reportScope
      fun value => (reading.word? value).bind Scope.ofName?
    referencesIndexedByDefault :=
      ← setting? members "references_indexed_by_default" standard.referencesIndexedByDefault
        reading.flag?
    emitEvents := ← setting? members "emit_events" standard.emitEvents reading.flag? }

/-- JSON values are what they look like. A word may also be written as the name of the only member
of an object, with nothing for its value. -/
def jsonReading : Reading Json where
  text? := Json.asString?
  list? := Json.asList?
  flag? := Json.asBool?
  optionalCount? json := if json.isNull then some none else json.asCount?.map some
  word?
    | .str word => some word
    | .obj [(word, .null)] => some word
    | _ => none

/-- The configuration in a JSON value, which must be an object. -/
def ofJson? : Json → Option Config
  | .obj members => ofMembers? jsonReading members
  | _ => none

/-- A count as a plain scalar: decimal without a leading zero, or in base 16, 8 or 2 after a mark,
with an optional plus sign. -/
def countOfText? (text : List Char) : Option Nat := do
  let unsigned := match text with
    | '+' :: rest => rest
    | _ => text
  let value ← match unsigned with
    | '0' :: 'x' :: digits => numeral? 16 digits
    | '0' :: 'o' :: digits => numeral? 8 digits
    | '0' :: 'b' :: digits => numeral? 2 digits
    | ['0'] => some 0
    | '0' :: _ => none
    | digits => numeral? 10 digits
  if value ≤ maxCount then some value else none

/-- YAML scalars are texts, whatever they look like, until another type is wanted of a plain one.
Nothing at all is the empty list. -/
def yamlReading : Reading Yaml.Node where
  text?
    | .scalar text _ => some text
    | _ => none
  list?
    | .list items => some items
    | .scalar "" true => some []
    | _ => none
  flag?
    | .scalar text true =>
      if ["true", "True", "TRUE"].contains text then some true
      else if ["false", "False", "FALSE"].contains text then some false
      else none
    | _ => none
  optionalCount?
    | .scalar text true =>
      if ["", "~", "null", "Null", "NULL"].contains text then some none
      else (countOfText? text.toList).map some
    | _ => none
  word?
    | .scalar text _ => some text
    | _ => none

/-- The configuration in a YAML node: a mapping whose keys are scalars, or nothing at all. -/
def ofNode? : Yaml.Node → Option Config
  | .mapping entries => do
    let members ← entries.mapM fun (key, value) =>
      (yamlReading.text? key).map fun name => (name, value)
    ofMembers? yamlReading members
  | .scalar "" true => some {}
  | _ => none

/-- The valid configuration in a text. A blank text gives the default configuration. -/
def ofText (text : List Char) : Except ConfigError Config := do
  if isAllBlank text then return {}
  match (Yaml.Node.parse? text).bind ofNode? with
  | some config =>
    config.validate
    return config
  | none => throw .malformed

end ForeignKeyLint.Config
