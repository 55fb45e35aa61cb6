import ForeignKeyLint.Ruby.Value

/-!
Statements that close a block, and statements that open one by starting with a keyword.
-/

namespace ForeignKeyLint.Ruby

open Text

/-- `end`, alone or followed by anything that does not continue the word. -/
def isBlockEnd (text : List Char) : Bool :=
  match afterPrefix? "end".toList (trim text) with
  | some (c :: _) => !isWordChar c
  | some [] => true
  | none => false

/-- The blocks a keyword opens. -/
inductive KeywordBlock where
  /-- The method that undoes a migration. -/
  | rollback
  | other
deriving Repr, DecidableEq

/-- The keywords that open a block when a statement starts with them. -/
def openingKeywords : List String :=
  ["class", "module", "def", "if", "unless", "case", "while", "until", "begin", "for"]

/-- The text ends in the word `end`. -/
def endsWithEnd (text : List Char) : Bool :=
  match beforeSuffix? "end".toList text with
  | some before =>
    match before.getLast? with
    | none => true
    | some c => c == ';' || isBlank c
  | none => false

/-- A method name without the `self.` before it, however often it stands there. -/
def dropSelf : List Char → List Char
  | 's' :: 'e' :: 'l' :: 'f' :: '.' :: rest => dropSelf rest
  | text => text

/-- The block a statement opens by its keyword. A block closed within the statement and a method
defined by an equals sign open none. -/
def keywordBlock? (text : List Char) : Option KeywordBlock :=
  let text := trim text
  let word := text.takeWhile isWordChar
  let rest := text.dropWhile isWordChar
  if !openingKeywords.contains (String.ofList word) then none
  else if !(rest.isEmpty || startsBlank rest || beginsWith ['('] rest) then none
  else if endsWithEnd text then none
  else if word = "def".toList then
    let signature := trim rest
    if includes " = ".toList signature || endsWith ['='] signature then none
    else
      let name := (dropSelf signature).takeWhile isWordChar
      if name = "down".toList then some .rollback else some .other
  else some .other

end ForeignKeyLint.Ruby
