import ForeignKeyLint.Migration.Scan

/-!
The schema snapshot. It is written in the same table blocks as migrations and scanned like one.
Beyond that it tells its version and its tables in order, and each declaration that asks for an
index of its own counts as an index added right after it.
-/

namespace ForeignKeyLint

open Migration Schema Text

structure Snapshot where
  version : Option String := none
  /-- The tables defined, in order. -/
  tables : List (String × Location) := []
  events : List Event := []
  diagnostics : List Diagnostic := []
deriving Repr, DecidableEq, Inhabited

namespace Snapshot

/-- The version in the arguments of a definition whose opening parenthesis has been read. -/
def versionArgument? (text : List Char) : Option (List Char) :=
  match afterPrefix? "version:".toList (trimStart text) with
  | some rest =>
    let isDigitOrUnderscore (c : Char) := c.isDigit || c == '_'
    let value := (trimStart rest).takeWhile isDigitOrUnderscore
    let after := (trimStart rest).dropWhile isDigitOrUnderscore
    if !value.isEmpty && beginsWith [')'] (trimStart after) then some value else none
  | none => none

/-- The version at the first place of the text that defines one. -/
def findVersion? : List Char → Option (List Char)
  | [] => none
  | c :: rest =>
    match (afterPrefix? "define(".toList (c :: rest)).bind versionArgument? with
    | some value => some value
    | none => findVersion? rest

/-- The version a text defines, without the underscores that divide it. -/
def versionOf? (text : List Char) : Option String :=
  (findVersion? text).map fun value => String.ofList (value.filter (· != '_'))

/-- An event, and the index it asks for if it is a declaration that does. -/
def withInlineIndex (event : Event) : List Event :=
  match event.operation with
  | .declareColumn table column _ .requested =>
    [event, { operation := .addIndex table [column], location := event.location }]
  | _ => [event]

def tableOf? (event : Event) : Option (String × Location) :=
  match event.operation with
  | .defineTable table => some (table, event.location)
  | _ => none

def read (source : Source) (text : List Char) : Snapshot :=
  let file := File.read source text
  { version := versionOf? text
    tables := file.events.filterMap tableOf?
    events := file.events.flatMap withInlineIndex
    diagnostics := file.diagnostics }

def indexCount (snapshot : Snapshot) : Nat :=
  (snapshot.events.filter fun event => event.operation.isIndex).length

end Snapshot

end ForeignKeyLint
