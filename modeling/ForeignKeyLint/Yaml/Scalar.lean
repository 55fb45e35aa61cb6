import ForeignKeyLint.Text.Hex
import ForeignKeyLint.Yaml.Cell

/-!
Scalars of a YAML document: plain, or between single or double quotes. A scalar may run over
several lines, and the line breaks in it are folded: a single one becomes a space, and of several
the first is dropped. What has been read of a scalar is kept with its latest character first.
-/

namespace ForeignKeyLint.Yaml

/-- Spaces and line breaks inside a scalar whose fate is open until its next character. -/
inductive Gap where
  /-- Spaces on one line, the latest first. -/
  | spaces (latest : List Char)
  /-- Line breaks: the first one, unless a backslash hides it, and the others, the latest first. -/
  | lines (first : Option Char) (others : List Char)
deriving Repr, DecidableEq, Inhabited

namespace Gap

def none : Gap :=
  .spaces []

def crossesLine : Gap → Bool
  | .spaces _ => false
  | .lines _ _ => true

/-- A space adds nothing after a line break. -/
def add (c : Char) : Gap → Gap
  | .spaces latest => if isBreak c then .lines (some c) [] else .spaces (c :: latest)
  | .lines first others => .lines first (if isBreak c then c :: others else others)

/-- What has been read of a scalar, with what the gap amounts to after it. -/
def appendTo (read : List Char) : Gap → List Char
  | .spaces latest => latest ++ read
  | .lines (some '\n') [] => ' ' :: read
  | .lines (some '\n') others => others ++ read
  | .lines (some first) others => others ++ first :: read
  | .lines Option.none others => others ++ read

end Gap

/-- A scalar as read: its text, and where the reader stands after it. -/
structure ScalarText where
  text : List Char
  next : Position
deriving Repr, DecidableEq

/-- Characters that structure a collection between brackets. -/
def isBracketSign (c : Char) : Bool :=
  c == ',' || c == '[' || c == ']' || c == '{' || c == '}'

/-- Characters that a plain scalar never starts with, whatever follows them. -/
def isReserved (c : Char) : Bool :=
  isBracketSign c || c == '#' || c == '&' || c == '*' || c == '!' || c == '|' || c == '>' ||
    c == '\'' || c == '"' || c == '%' || c == '@' || c == '\x60'

/-- A plain scalar can start here. -/
def startsPlain (bracketed : Bool) (cell : Cell) (rest : List Cell) : Bool :=
  let c := cell.char
  if isSpace c || isBreak c || isReserved c then false
  else if c == '-' then !atSpace rest
  else if c == '?' || c == ':' then !bracketed && !atSpace rest
  else true

/-- A character that is no space ends a plain scalar, given the gap before it. -/
def endsPlain (bracketed : Bool) (limit : Nat) (gap : Gap) (cell : Cell) (rest : List Cell) : Bool :=
  atBoundary (cell :: rest) || (!bracketed && gap.crossesLine && cell.column < limit) ||
    (gap != .none && cell.char == '#') || (cell.char == ':' && atSpace rest) ||
    (bracketed && isBracketSign cell.char)

/-- A colon between brackets that is neither part of a scalar nor set apart from what follows. -/
def isStrayColon (bracketed : Bool) (cell : Cell) (rest : List Cell) : Bool :=
  bracketed && cell.char == ':' &&
    rest.head?.any fun next => isBracketSign next.char || next.char == '?'

/-- Reads a plain scalar. Outside of brackets its further lines are indented by `limit` at least,
and a tab is never part of that indentation. The gap after the scalar is skipped. -/
def plainFrom? (bracketed : Bool) (limit : Nat) (read : List Char) (gap : Gap) :
    List Cell → Option ScalarText
  | [] => some { text := read.reverse, next := { cells := [], keyAllowed := gap.crossesLine } }
  | cell :: rest =>
    if isSpace cell.char || isBreak cell.char then
      if cell.char = '\t' ∧ gap.crossesLine ∧ cell.column < limit then none
      else plainFrom? bracketed limit read (gap.add cell.char) rest
    else if endsPlain bracketed limit gap cell rest then
      some { text := read.reverse,
             next := { cells := cell :: rest, keyAllowed := gap.crossesLine } }
    else if isStrayColon bracketed cell rest then none
    else plainFrom? bracketed limit (cell.char :: gap.appendTo read) .none rest

/-- Reads a scalar after its opening single quote. Two single quotes stand for one. -/
def singleQuotedFrom? (read : List Char) (gap : Gap) : List Cell → Option ScalarText
  | [] => none
  | cell :: rest =>
    if isSpace cell.char || isBreak cell.char then singleQuotedFrom? read (gap.add cell.char) rest
    else if atBoundary (cell :: rest) then none
    else
      let read := gap.appendTo read
      if cell.char = '\'' then
        match rest with
        | quote :: rest =>
          if quote.char = '\'' then singleQuotedFrom? ('\'' :: read) .none rest
          else some { text := read.reverse,
                      next := { cells := quote :: rest, keyAllowed := false } }
        | [] => some { text := read.reverse, next := { cells := [], keyAllowed := false } }
      else singleQuotedFrom? (cell.char :: read) .none rest

/-- The character an escape of one letter stands for. -/
def escaped? (c : Char) : Option Char :=
  match c with
  | '0' => some '\x00'
  | 'a' => some '\x07'
  | 'b' => some '\x08'
  | 't' | '\t' => some '\t'
  | 'n' => some '\n'
  | 'v' => some '\x0b'
  | 'f' => some '\x0c'
  | 'r' => some '\r'
  | 'e' => some '\x1b'
  | ' ' => some ' '
  | '"' => some '"'
  | '/' => some '/'
  | '\\' => some '\\'
  | 'N' => some '\u0085'
  | '_' => some '\u00a0'
  | 'L' => some '\u2028'
  | 'P' => some '\u2029'
  | _ => none

/-- The number of hexadecimal digits after the letter of a numeric escape. -/
def escapeWidth? (c : Char) : Option Nat :=
  match c with
  | 'x' => some 2
  | 'u' => some 4
  | 'U' => some 8
  | _ => none

/-- The character with the number that hexadecimal digits give, if there is one. -/
def charOfHex? (digits : List Char) : Option Char := do
  let n ← Text.numeral? 16 digits
  if n.isValidChar then some (Char.ofNat n) else none

/-- Reads a scalar after its opening double quote. A backslash starts an escape, and hides the line
break it stands before. -/
def doubleQuotedFrom? (read : List Char) (gap : Gap) (cells : List Cell) : Option ScalarText :=
  match cells with
  | [] => none
  | cell :: rest =>
    if isSpace cell.char || isBreak cell.char then doubleQuotedFrom? read (gap.add cell.char) rest
    else if atBoundary (cell :: rest) then none
    else
      let read := gap.appendTo read
      if cell.char = '"' then
        some { text := read.reverse, next := { cells := rest, keyAllowed := false } }
      else if cell.char = '\\' then
        match rest with
        | [] => none
        | letter :: rest =>
          if isBreak letter.char then doubleQuotedFrom? read (.lines none []) rest
          else
            match escapeWidth? letter.char with
            | some width =>
              match charOfHex? ((rest.take width).map (·.char)) with
              | some c =>
                if rest.length < width then none
                else doubleQuotedFrom? (c :: read) .none (rest.drop width)
              | none => none
            | none =>
              match escaped? letter.char with
              | some c => doubleQuotedFrom? (c :: read) .none rest
              | none => none
      else doubleQuotedFrom? (cell.char :: read) .none rest
termination_by cells.length
decreasing_by
  all_goals simp only [List.length_cons, List.length_drop]
  all_goals omega

end ForeignKeyLint.Yaml
