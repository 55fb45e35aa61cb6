import ForeignKeyLint.Ruby.Code
import ForeignKeyLint.Text.Search

/-!
Physical lines of Ruby source. A line may be code, or belong to a here document or to a block
comment that an earlier line opened, or mark the end of the program. The code of a line is what
is left of it without its comment and with each opener of a here document replaced by an empty
string.
-/

namespace ForeignKeyLint.Ruby

open Text

/-- A physical line and its number, counted from one. -/
structure Line where
  number : Nat
  text : List Char
deriving Repr, DecidableEq

/-- The physical lines of a text, the first of which has the number `first`. -/
def numberLines (first : Nat) : List (List Char) → List Line
  | [] => []
  | text :: others => { number := first, text } :: numberLines (first + 1) others

/-- The opener of a here document. -/
structure Heredoc where
  /-- The line that ends the document, blanks around it aside. -/
  terminator : List Char
  /-- The opener after its first character. -/
  opener : List Char
  /-- The text after the opener. -/
  after : List Char
deriving Repr, DecidableEq

def isTerminatorChar (c : Char) : Bool :=
  c.isUpper || c.isDigit || c == '_'

/-- The opener of a here document whose first character has been read. The terminator is a name
in capitals, and may be quoted. -/
def heredoc? (rest : List Char) : Option Heredoc :=
  match rest with
  | '<' :: rest =>
    let (sign, rest) := match rest with
      | '~' :: rest => (['~'], rest)
      | '-' :: rest => (['-'], rest)
      | _ => ([], rest)
    let (quote, body) := match rest with
      | '\'' :: body => (['\''], body)
      | '"' :: body => (['"'], body)
      | _ => ([], rest)
    let terminator := body.takeWhile isTerminatorChar
    match terminator, afterPrefix? quote (body.dropWhile isTerminatorChar) with
    | first :: _, some after =>
      if first.isDigit then none
      else some { terminator, opener := '<' :: sign ++ quote ++ terminator ++ quote, after }
    | _, _ => none
  | _ => none

/-- The opener of a here document at a code character. -/
def Visit.heredoc? (visit : Visit) : Option Heredoc :=
  if visit.char = '<' then Ruby.heredoc? visit.rest else none

/-- A walk over a line ends at a comment and leaps over the openers of here documents. -/
def Visit.lineFlow (visit : Visit) : Flow :=
  if visit.char = '#' then .stop
  else
    match visit.heredoc? with
    | some heredoc => .resumeAt (visit.offset + visit.char.utf8Size + byteLength heredoc.opener)
    | none => .proceed

/-- The code of a line, given the code characters visited in it. -/
def codeOf (text : List Char) : List Visit → List Char
  | [] => text
  | visit :: visits =>
    if visit.char = '#' then visit.before text
    else
      match visit.heredoc? with
      | some heredoc => visit.before text ++ '"' :: '"' :: codeOf heredoc.after visits
      | none => codeOf text visits

/-- The code of a line, and the terminators of the here documents it opens, in order. -/
def stripLine (text : List Char) : List Char × List (List Char) :=
  let visits := walk Visit.lineFlow text
  (codeOf text visits, visits.filterMap fun visit => visit.heredoc?.map (·.terminator))

/-- What earlier lines left open: the terminators awaited, in order, and a block comment. -/
structure Mode where
  heredocs : List (List Char) := []
  inComment : Bool := false
deriving Repr, DecidableEq

/-- The next line is read as code. -/
def Mode.isCode (mode : Mode) : Bool :=
  !mode.inComment && mode.heredocs.isEmpty

/-- What a line is, and the mode after it. -/
inductive LineKind where
  /-- A line of a here document or a block comment, or one that opens a block comment. -/
  | passive (mode : Mode)
  /-- The line after which nothing is read. -/
  | programEnd
  /-- A line of code, trimmed; it may hold nothing but a comment. -/
  | code (mode : Mode) (text : List Char)
deriving Repr, DecidableEq

/-- Reads one physical line. -/
def Mode.read (mode : Mode) (text : List Char) : LineKind :=
  if mode.inComment then
    .passive { mode with inComment := !beginsWith "=end".toList text }
  else
    match mode.heredocs with
    | terminator :: others =>
      .passive (if trim text = terminator then { mode with heredocs := others } else mode)
    | [] =>
      if beginsWith "=begin".toList text then .passive { mode with inComment := true }
      else if trim text = "__END__".toList then .programEnd
      else
        let (code, opened) := stripLine text
        .code { mode with heredocs := opened } (trim code)

end ForeignKeyLint.Ruby
