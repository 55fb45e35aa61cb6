import ForeignKeyLint.Diagnostic
import ForeignKeyLint.Migration.Nesting

/-!
What a statement means to the schema. A statement either does not concern it, or has an effect, or
is at fault; a faulty statement has no effect at all.
-/

namespace ForeignKeyLint.Migration

open Schema

inductive Meaning where
  | unrelated
  /-- Operations in order, and the table whose block the statement opens. -/
  | effect (operations : List Operation) (opens : Option (String × TableMode))
  | fault (kind : DiagnosticKind) (message : String)
deriving Repr, DecidableEq

namespace Meaning

/-- Operations that open no table block. -/
def operations (found : List Operation) : Meaning :=
  .effect found none

/-- A statement that lacks something it needs. -/
def malformed (message : String) : Meaning :=
  .fault .malformedDeclaration message

def isRelated : Meaning → Bool
  | .unrelated => false
  | _ => true

def found : Meaning → List Operation
  | .effect found _ => found
  | _ => []

def opens? : Meaning → Option (String × TableMode)
  | .effect _ opens => opens
  | _ => none

def fault? : Meaning → Option (DiagnosticKind × String)
  | .fault kind message => some (kind, message)
  | _ => none

end Meaning

end ForeignKeyLint.Migration
