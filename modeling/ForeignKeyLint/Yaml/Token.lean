import ForeignKeyLint.Yaml.Scalar

/-!
The tokens of a YAML document. Blocks are opened and closed by tokens of their own, found from the
indentation. That a node is a key shows only at the colon after it, so each open level remembers
the last node that can still become one, and the tokens of a key are put in front of it then. A key
and its colon stand on one line, at most 1024 bytes apart.
-/

namespace ForeignKeyLint.Yaml

inductive Token where
  | documentStart
  | documentEnd
  | blockListStart
  | blockMappingStart
  | blockEnd
  /-- Opens a list between brackets. -/
  | listStart
  | listEnd
  /-- Opens a mapping between brackets. -/
  | mappingStart
  | mappingEnd
  | comma
  /-- Introduces an item of a block list. -/
  | dash
  | key
  | value
  | scalar (text : String) (isPlain : Bool)
deriving Repr, DecidableEq

/-- A node that becomes a key if a colon follows in time. -/
structure Candidate where
  /-- The number of tokens before the node. -/
  index : Nat
  start : Cell
  /-- The node stands where only a key can stand. -/
  required : Bool
deriving Repr, DecidableEq

/-- A colon at the cell given is in time. -/
def Candidate.isLiveAt (candidate : Candidate) (cell : Cell) : Bool :=
  candidate.start.line == cell.line && cell.offset ≤ candidate.start.offset + 1024

namespace Token

/-- How far the tokens of a document have been read. -/
structure Scan where
  cells : List Cell
  tokens : Array Token := #[]
  /-- The columns of the open blocks, the innermost first. -/
  blocks : List Nat := []
  /-- The candidate of the innermost level. -/
  candidate : Option Candidate := none
  /-- The candidates of the levels around it, one for each open bracket, the innermost first. -/
  outer : List (Option Candidate) := []
  /-- A node that starts now can be a key. -/
  keyAllowed : Bool := true

namespace Scan

def bracketed (scan : Scan) : Bool :=
  !scan.outer.isEmpty

def push (token : Token) (scan : Scan) : Scan :=
  { scan with tokens := scan.tokens.push token }

/-- Closes the blocks for which `isOver` holds of their column, up to the first for which it does
not. Between brackets there is no block to close. -/
def closeBlocks (isOver : Nat → Bool) (scan : Scan) : Scan :=
  if scan.bracketed then scan
  else
    let closed := scan.blocks.takeWhile isOver
    { scan with
      tokens := closed.foldl (fun tokens _ => tokens.push .blockEnd) scan.tokens
      blocks := scan.blocks.dropWhile isOver }

/-- Opens a block at a column that is further in than the innermost block; its token is the one
before which `index` tokens stand. -/
def openBlock (token : Token) (column index : Nat) (scan : Scan) : Scan :=
  if scan.bracketed || scan.blocks.head?.any (column ≤ ·) then scan
  else { scan with
    tokens := scan.tokens.insertIdxIfInBounds index token
    blocks := column :: scan.blocks }

/-- Gives up the candidate of the innermost level. -/
def dropCandidate? (scan : Scan) : Option Scan :=
  if scan.candidate.any (·.required) then none else some { scan with candidate := none }

/-- Makes the node that starts at a cell the candidate of its level, if a key can stand there. -/
def noteCandidate? (cell : Cell) (scan : Scan) : Option Scan := do
  if !scan.keyAllowed then return scan
  let required := !scan.bracketed && scan.blocks.head? == some cell.column
  let scan ← scan.dropCandidate?
  return { scan with candidate := some { index := scan.tokens.size, start := cell, required } }

/-- The least column for the further lines of a plain scalar. -/
def limit (scan : Scan) : Nat :=
  match scan.blocks with
  | column :: _ => column + 1
  | [] => 0

/-- Reads a mark of three characters between documents. -/
def boundary? (token : Token) (scan : Scan) : Option Scan := do
  let scan ← (scan.closeBlocks fun _ => true).dropCandidate?
  return { scan with cells := scan.cells.drop 3, keyAllowed := false }.push token

/-- Reads an opening bracket. -/
def opening? (token : Token) (cell : Cell) (rest : List Cell) (scan : Scan) : Option Scan := do
  let scan ← scan.noteCandidate? cell
  return { scan with
    cells := rest
    candidate := none
    outer := scan.candidate :: scan.outer
    keyAllowed := true }.push token

/-- Reads a closing bracket. One that closes nothing is left to whoever reads the tokens. -/
def closing? (token : Token) (rest : List Cell) (scan : Scan) : Option Scan := do
  let scan ← scan.dropCandidate?
  return { scan with
    cells := rest
    candidate := scan.outer.head?.join
    outer := scan.outer.tail
    keyAllowed := false }.push token

def comma? (rest : List Cell) (scan : Scan) : Option Scan := do
  let scan ← scan.dropCandidate?
  return { scan with cells := rest, keyAllowed := true }.push .comma

/-- Opens a block at a token that starts one, which must be where a key can be. -/
def startBlock? (token : Token) (cell : Cell) (scan : Scan) : Option Scan :=
  if scan.bracketed then some scan
  else if scan.keyAllowed then some (scan.openBlock token cell.column scan.tokens.size)
  else none

def dash? (cell : Cell) (rest : List Cell) (scan : Scan) : Option Scan := do
  let scan ← (← scan.startBlock? .blockListStart cell).dropCandidate?
  return { scan with cells := rest, keyAllowed := true }.push .dash

/-- Reads the question mark in front of a key. -/
def question? (cell : Cell) (rest : List Cell) (scan : Scan) : Option Scan := do
  let scan ← (← scan.startBlock? .blockMappingStart cell).dropCandidate?
  return { scan with cells := rest, keyAllowed := !scan.bracketed }.push .key

/-- Reads the colon in front of a value. It makes a key of the candidate, if that is still live. -/
def colon? (cell : Cell) (rest : List Cell) (scan : Scan) : Option Scan :=
  match scan.candidate.filter (·.isLiveAt cell) with
  | some candidate =>
    let keyed := { scan with
      tokens := scan.tokens.insertIdxIfInBounds candidate.index .key
      candidate := none }
    let opened := keyed.openBlock .blockMappingStart candidate.start.column candidate.index
    some ({ opened with cells := rest, keyAllowed := false }.push .value)
  | none => do
    let scan ← (← scan.dropCandidate?).startBlock? .blockMappingStart cell
    return { scan with cells := rest, keyAllowed := !scan.bracketed }.push .value

/-- Reads a scalar. -/
def scalar? (cell : Cell) (rest : List Cell) (scan : Scan) : Option Scan := do
  let scan ← scan.noteCandidate? cell
  let read ←
    if cell.char = '\'' then singleQuotedFrom? [] .none rest
    else if cell.char = '"' then doubleQuotedFrom? [] .none rest
    else if startsPlain scan.bracketed cell rest then
      plainFrom? scan.bracketed scan.limit [] .none (cell :: rest)
    else none
  let isPlain := cell.char != '\'' && cell.char != '"'
  return { scan with cells := read.next.cells, keyAllowed := read.next.keyAllowed }.push
    (.scalar (String.ofList read.text) isPlain)

/-- Reads the token that starts at a cell. -/
def token? (cell : Cell) (rest : List Cell) (scan : Scan) : Option Scan :=
  if atMarker '-' (cell :: rest) then scan.boundary? .documentStart
  else if atMarker '.' (cell :: rest) then scan.boundary? .documentEnd
  else if cell.char = '[' then scan.opening? .listStart cell rest
  else if cell.char = '{' then scan.opening? .mappingStart cell rest
  else if cell.char = ']' then scan.closing? .listEnd rest
  else if cell.char = '}' then scan.closing? .mappingEnd rest
  else if cell.char = ',' then scan.comma? rest
  else if cell.char = '-' ∧ atSpace rest then scan.dash? cell rest
  else if cell.char = '?' ∧ (scan.bracketed ∨ atSpace rest) then scan.question? cell rest
  else if cell.char = ':' ∧ (scan.bracketed ∨ atSpace rest) then scan.colon? cell rest
  else scan.scalar? cell rest

/-- Reads the tokens that are left. Each round reads one. -/
def finish? : (rounds : Nat) → Scan → Option (Array Token)
  | 0, _ => none
  | rounds + 1, scan =>
    let gap := skipGap scan.bracketed false scan.keyAllowed scan.cells
    let scan := { scan with cells := gap.cells, keyAllowed := gap.keyAllowed }
    match gap.cells with
    | [] => (scan.closeBlocks fun _ => true).dropCandidate?.map (·.tokens)
    | cell :: rest => (scan.closeBlocks (cell.column < ·)).token? cell rest |>.bind (finish? rounds)

end Scan

/-- The tokens of a document, or nothing where one is malformed. -/
def scan? (text : List Char) : Option (List Token) := do
  let cells ← cells? text
  let tokens ← Scan.finish? (cells.length + 1) { cells }
  return tokens.toList

end Token

end ForeignKeyLint.Yaml
