/-!
The characters of a YAML document with their places. Indentation carries structure, so a reader
works on cells, each a character with its line and column, and never counts by itself. Only
printable characters may occur, and every line break is one character.
-/

namespace ForeignKeyLint.Yaml

/-- A character and its place, all of it counted from zero. -/
structure Cell where
  char : Char
  line : Nat
  column : Nat
  /-- How many bytes stand before the character. -/
  offset : Nat
deriving Repr, DecidableEq

/-- Ends a line. The two separators beyond the line feed keep their identity in a scalar. -/
def isBreak (c : Char) : Bool :=
  c == '\n' || c == '\u2028' || c == '\u2029'

def isSpace (c : Char) : Bool :=
  c == ' ' || c == '\t'

/-- Marks the order of bytes. It may start any line, where it counts as a column and nothing else;
in every other place it is a letter like any. -/
def byteOrderMark : Char := '\uFEFF'

/-- May occur in a document. -/
def isPrintable (c : Char) : Bool :=
  let n := c.toNat
  n == 0x09 || n == 0x0A || n == 0x0D || (0x20 ≤ n && n ≤ 0x7E) || n == 0x85 ||
    (0xA0 ≤ n && n ≤ 0xFFFD) || 0x10000 ≤ n

/-- Gives each character its place, the first one being at the place given. A carriage return and
the line feed after it are one line break, and so is the control character for a next line. The
cells found so far come latest first. -/
def cellsFrom (found : List Cell) (line column offset : Nat) : List Char → List Cell
  | [] => found.reverse
  | '\r' :: '\n' :: rest =>
    cellsFrom ({ char := '\n', line, column, offset } :: found) (line + 1) 0 (offset + 2) rest
  | c :: rest =>
    let char := if c = '\r' ∨ c = '\u0085' then '\n' else c
    let cell : Cell := { char, line, column, offset }
    if isBreak char then cellsFrom (cell :: found) (line + 1) 0 (offset + c.utf8Size) rest
    else cellsFrom (cell :: found) line (column + 1) (offset + c.utf8Size) rest

/-- The cells of a document, unless it holds a character that may not occur. -/
def cells? (text : List Char) : Option (List Cell) :=
  if text.all isPrintable then some (cellsFrom [] 0 0 0 text) else none

/-- The text has ended, or a space or a line break comes next. -/
def atSpace : List Cell → Bool
  | [] => true
  | cell :: _ => isSpace cell.char || isBreak cell.char

/-- Three equal characters that fill the start of a line mark a boundary between documents. -/
def atMarker (mark : Char) : List Cell → Bool
  | a :: b :: c :: rest =>
    a.column == 0 && a.char == mark && b.char == mark && c.char == mark && atSpace rest
  | _ => false

/-- A boundary between documents comes next. -/
def atBoundary (cells : List Cell) : Bool :=
  atMarker '-' cells || atMarker '.' cells

/-- Where a reader stands between two tokens. `keyAllowed` says that a token read now may be the
key of a mapping. -/
structure Position where
  cells : List Cell
  keyAllowed : Bool
deriving Repr, DecidableEq

/-- Skips spaces, line breaks and comments. Outside of brackets a line break makes a key possible,
and where a key is possible a tab is no space. -/
def skipGap (bracketed inComment keyAllowed : Bool) : List Cell → Position
  | [] => { cells := [], keyAllowed }
  | cell :: rest =>
    if isBreak cell.char then skipGap bracketed false (keyAllowed || !bracketed) rest
    else if inComment then skipGap bracketed true keyAllowed rest
    else if cell.char = ' ' ∨ (cell.char = '\t' ∧ (bracketed ∨ !keyAllowed)) ∨
        (cell.char = byteOrderMark ∧ cell.column = 0) then
      skipGap bracketed false keyAllowed rest
    else if cell.char = '#' then skipGap bracketed true keyAllowed rest
    else { cells := cell :: rest, keyAllowed }

end ForeignKeyLint.Yaml
