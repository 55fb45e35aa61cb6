import ForeignKeyLint.Schema.Event

/-!
Diagnostics: what a reader of sources or the check has to tell without changing the verdict.
-/

namespace ForeignKeyLint

open Schema

inductive DiagnosticKind where
  /-- A statement that means nothing to the reader; told on request only. -/
  | parseSkip
  /-- A statement that lacks a name or a type, or never closes. -/
  | malformedDeclaration
  /-- A table block still open at the end of the file. -/
  | unterminatedBlock
  | fileReadFailure
  /-- A change of type of a column that is declared nowhere. -/
  | ambiguousRetype
  /-- An index on something other than named columns. -/
  | unsupportedIndexExpression
deriving Repr, DecidableEq

/-- The words of a kind. -/
def DiagnosticKind.words : DiagnosticKind → List String
  | .parseSkip => ["parse", "skip"]
  | .malformedDeclaration => ["malformed", "declaration"]
  | .unterminatedBlock => ["unterminated", "block"]
  | .fileReadFailure => ["file", "read", "failure"]
  | .ambiguousRetype => ["ambiguous", "retype"]
  | .unsupportedIndexExpression => ["unsupported", "index", "expression"]

/-- The name of a kind in a text. -/
def DiagnosticKind.name (kind : DiagnosticKind) : String :=
  String.intercalate "-" kind.words

/-- The name of a kind in structured data. -/
def DiagnosticKind.key (kind : DiagnosticKind) : String :=
  String.intercalate "_" kind.words

structure Diagnostic where
  kind : DiagnosticKind
  location : Location
  message : String
deriving Repr, DecidableEq

def Diagnostic.text (diagnostic : Diagnostic) : String :=
  diagnostic.location.text ++ " - [" ++ diagnostic.kind.name ++ "] " ++ diagnostic.message

end ForeignKeyLint
