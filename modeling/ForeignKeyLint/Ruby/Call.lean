import ForeignKeyLint.Ruby.Value

/-!
Method calls of Ruby source: an optional receiver, a method name, positional and keyword arguments
and perhaps a block opened at the end. A statement that begins differently is no call.
-/

namespace ForeignKeyLint.Ruby

open Text

inductive Argument where
  | positional (value : Value)
  | keyword (key : String) (value : Value)
deriving Repr

structure Call where
  receiver : Option String
  method : String
  arguments : List Argument
  /-- The parameters of the block the call opens. -/
  block : Option (List String)
deriving Repr

namespace Argument

def positional? : Argument → Option Value
  | .positional value => some value
  | .keyword .. => none

/-- The argument a text stands for. -/
def parse (text : List Char) : Argument :=
  match splitKeyword? text with
  | some (key, value) => .keyword key (Value.parse value)
  | none => .positional (Value.parse text)

end Argument

namespace Call

def positionals (call : Call) : List Value :=
  call.arguments.filterMap Argument.positional?

/-- The name in this place among the positional arguments. -/
def name? (call : Call) (index : Nat) : Option String :=
  (call.positionals[index]?).bind Value.asName?

/-- The names among the positional arguments from this place on, up to the first that is none. -/
def namesFrom (call : Call) (index : Nat) : List String :=
  (((call.positionals.drop index).map Value.asName?).takeWhile Option.isSome).filterMap id

/-- The first keyword argument with this key. -/
def option? (call : Call) (key : String) : Option Value :=
  call.arguments.findSome? fun argument =>
    match argument with
    | .keyword k value => if k = key then some value else none
    | .positional _ => none

end Call

/-- The parameters of a block, from the text after its `do` up to the end of the statement. -/
def blockParameters? (text : List Char) : Option (List String) :=
  match trimStart text with
  | [] => some []
  | '|' :: rest =>
    match splitAtFirst? ['|'] rest with
    | some (names, after) =>
      if isAllBlank after then
        some ((((splitOn ',' names).map trim).filter (!·.isEmpty)).map String.ofList)
      else none
    | none => none
  | _ => none

/-- The parameters of the block whose opener is the whole text. -/
def openerAt? : List Char → Option (List String)
  | 'd' :: 'o' :: rest => blockParameters? rest
  | _ => none

/-- The text before the first blank that an opener follows, and the parameters of the block. -/
def openerAfterBlank? : List Char → Option (List Char × List String)
  | [] => none
  | c :: rest =>
    match if isBlank c then openerAt? rest else none with
    | some parameters => some ([], parameters)
    | none => (openerAfterBlank? rest).map fun (before, parameters) => (c :: before, parameters)

/-- The text before the block opener that ends a statement, and the parameters of the block. -/
def blockOpener? (text : List Char) : Option (List Char × List String) :=
  match openerAt? text with
  | some parameters => some ([], parameters)
  | none => openerAfterBlank? text

/-- A statement without blanks around it and without the semicolons at its end. -/
def bareStatement (text : List Char) : List Char :=
  trimEnd (dropEndWhile (· == ';') (trim text))

/-- The statement ends by opening a block, whether it is a call or not. -/
def opensBlock (text : List Char) : Bool :=
  (blockOpener? (bareStatement text)).isSome

/-- The first space outside brackets, of which `depth` are open, that precedes a modifier. -/
def modifierFrom? : (depth : Int) → List Visit → Option Visit
  | _, [] => none
  | depth, visit :: visits =>
    if visit.char = ' ' ∧ depth = 0 ∧
        (beginsWith "if ".toList visit.rest || beginsWith "unless ".toList visit.rest) then
      some visit
    else modifierFrom? (depth + bracketStep visit.char) visits

/-- A statement without the condition that may end it. -/
def stripModifier (text : List Char) : List Char :=
  match modifierFrom? 0 (code text) with
  | some visit => trimEnd (visit.before text)
  | none => text

/-- The parenthesis that closes the first bracket, when `depth` brackets are open. -/
def closingFrom? : (depth : Int) → List Visit → Option Visit
  | _, [] => none
  | depth, visit :: visits =>
    let step := bracketStep visit.char
    if step = -1 ∧ depth = 1 then if visit.char = ')' then some visit else none
    else closingFrom? (depth + step) visits

/-- A name that starts with a letter or an underscore, and the text after it. -/
def identifier? : List Char → Option (List Char × List Char)
  | [] => none
  | first :: rest =>
    if first.isAlpha ∨ first = '_' then
      some (first :: rest.takeWhile isWordChar, rest.dropWhile isWordChar)
    else none

/-- A method name, which starts with no capital and may end in a mark, and the text after it. -/
def methodName? (text : List Char) : Option (List Char × List Char) :=
  match identifier? text with
  | some (first :: name, rest) =>
    if first.isUpper then none
    else
      match rest with
      | '!' :: rest => some (first :: name ++ ['!'], rest)
      | '?' :: rest => some (first :: name ++ ['?'], rest)
      | _ => some (first :: name, rest)
  | _ => none

/-- The receiver, the method name and the text after them. -/
def callHead? (text : List Char) : Option (Option (List Char) × List Char × List Char) :=
  let received := match identifier? text with
    | some (receiver, '.' :: rest) =>
      (methodName? rest).map fun (method, rest) => (some receiver, method, rest)
    | _ => none
  received <|> (methodName? text).map fun (method, rest) => (none, method, rest)

/-- The text of the arguments, from the text after the method name. -/
def argumentText? (rest : List Char) : Option (List Char) :=
  match rest with
  | '(' :: _ =>
    match closingFrom? 0 (code rest) with
    | some visit => if isAllBlank visit.rest then some ((visit.before rest).drop 1) else none
    | none => none
  | _ => if rest.isEmpty || startsBlank rest then some rest else none

/-- The call a statement stands for. -/
def Call.parse? (text : List Char) : Option Call :=
  let (text, block) := match blockOpener? (bareStatement text) with
    | some (before, parameters) => (trimEnd before, some parameters)
    | none => (bareStatement text, none)
  match callHead? (stripModifier text) with
  | some (receiver, method, rest) =>
    (argumentText? rest).map fun arguments =>
      { receiver := receiver.map String.ofList
        method := String.ofList method
        arguments := (splitOutside ',' arguments).map Argument.parse
        block }
  | none => none

end ForeignKeyLint.Ruby
