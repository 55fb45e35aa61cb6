import ForeignKeyLint.Disk.Failure
import ForeignKeyLint.Glob
import ForeignKeyLint.Lint.Policy
import ForeignKeyLint.Text.Blank

/-!
The configuration of a run, and what makes its values valid.
-/

namespace ForeignKeyLint

open Lint Text

/-- The order in which the files of a change set are folded. -/
inductive FileOrder where
  /-- By path. -/
  | lexical
  /-- By the number their name starts with, then by path. -/
  | timestamp
  /-- As they were given. -/
  | given
deriving Repr, DecidableEq

def FileOrder.name : FileOrder → String
  | .lexical => "lexical"
  | .timestamp => "timestamp"
  | .given => "given"

def FileOrder.ofName? (name : String) : Option FileOrder :=
  [.lexical, .timestamp, .given].find? fun order => order.name = name

structure Config where
  schemaPath : Path := ⟨"db/schema.rb"⟩
  migrationsDir : Path := ⟨"db/migrate"⟩
  foreignKeySuffix : String := "_id"
  /-- Patterns or exact names of files that are left out of the change set. -/
  excludedFiles : List String := []
  /-- Migrations whose timestamp is below this are left out. -/
  checkAfter : Option Nat := none
  /-- Entries `table.column` or `*.column` that are never reported. -/
  ignoredColumns : List String := []
  fileOrder : FileOrder := .lexical
  reportScope : Scope := .changed
  referencesIndexedByDefault : Bool := false
  emitEvents : Bool := false
deriving Repr, DecidableEq, Inhabited

inductive ConfigError where
  | notFound (path : Path)
  | unreadable (path : Path) (error : Disk.ReadError)
  /-- The text is no configuration. -/
  | malformed
  | invalidValue (field value : String)
  | missingField (field : String)
deriving Repr, DecidableEq

def ConfigError.message : ConfigError → String
  | .notFound path => "Config file not found: " ++ path.text
  | .unreadable path error =>
    "Failed to parse config: failed to read " ++ path.text ++ ": " ++ error.message
  | .malformed => "Failed to parse config"
  | .invalidValue field value => "Invalid configuration value for " ++ field ++ ": " ++ value
  | .missingField field => "Required configuration missing: " ++ field

namespace Config

/-- What the configuration says about violations. -/
def policy (config : Config) : Policy :=
  { foreignKeySuffix := config.foreignKeySuffix
    referencesIndexedByDefault := config.referencesIndexedByDefault
    scope := config.reportScope
    ignoredColumns := config.ignoredColumns }

/-- A table and a column, neither empty, with a single dot between them. -/
def isColumnEntry (entry : String) : Bool :=
  match splitEntry? entry with
  | some (table, column) => !table.isEmpty && !column.isEmpty && !column.contains '.'
  | none => false

/-- The first value that fails its test makes an error of the field. -/
def checkAll (field : String) (isValid : String → Bool) (values : List String) :
    Except ConfigError Unit :=
  match values.find? fun value => !isValid value with
  | some value => .error (.invalidValue field value)
  | none => .ok ()

def checkPresent (field : String) (path : Path) : Except ConfigError Unit :=
  if path.raw.isEmpty then .error (.missingField field) else .ok ()

/-- The suffix is not blank, neither path is empty, every pattern is one by the test given, and every
ignored column has its table. The first fault in this order is told. -/
def validateBy (isPattern : String → Bool) (config : Config) : Except ConfigError Unit := do
  checkAll "foreign_key_suffix" (fun suffix => !isAllBlank suffix.toList) [config.foreignKeySuffix]
  checkPresent "schema_path" config.schemaPath
  checkPresent "migrations_dir" config.migrationsDir
  checkAll "excluded_files" isPattern config.excludedFiles
  checkAll "ignored_columns" isColumnEntry config.ignoredColumns

/-- Every pattern has to be well formed. -/
def validate (config : Config) : Except ConfigError Unit :=
  config.validateBy fun pattern => (Glob.parse? pattern).isSome

end Config

end ForeignKeyLint
