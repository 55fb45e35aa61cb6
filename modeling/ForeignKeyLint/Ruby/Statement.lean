import ForeignKeyLint.Ruby.Line
import ForeignKeyLint.Text.Lines

/-!
Statements of Ruby source. A statement is the code of a physical line joined with the lines that
continue it, after a trailing comma or backslash or within brackets left open, and then divided at
the semicolons outside brackets. Joining stops at `maxJoined` lines and at a line that can only
begin a statement of its own, so an unclosed bracket does not swallow the remainder of a file.
Main statement: joining uses up a line, hence reading ends.
-/

namespace ForeignKeyLint.Ruby

open Text

/-- A statement, with the number of the physical line it begins on. -/
structure Statement where
  line : Nat
  text : List Char
  /-- The joined lines it comes from were still open where joining stopped. -/
  cutShort : Bool
deriving Repr, DecidableEq

/-- At most this many physical lines are joined. -/
def maxJoined : Nat := 32

/-- The text ends here, or a blank or an opening parenthesis follows. -/
def endsWord : List Char → Bool
  | [] => true
  | c :: _ => isBlank c || c == '('

def isLowerOrUnderscore (c : Char) : Bool :=
  c.isLower || c == '_'

/-- The verbs that begin the name of a schema statement. -/
def schemaVerbs : List (List Char) :=
  ["add_", "remove_", "change_", "create_", "drop_", "rename_"].map String.toList

/-- The methods of a table block that begin a statement. -/
def blockMethods : List (List Char) :=
  ["references", "belongs_to", "index", "column", "bigint", "integer", "string", "text"].map
    String.toList

/-- A name that starts with a schema verb. -/
def beginsWithVerb (text : List Char) : Bool :=
  schemaVerbs.any fun verb =>
    match afterPrefix? verb text with
    | some rest =>
      !(rest.takeWhile isLowerOrUnderscore).isEmpty && endsWord (rest.dropWhile isLowerOrUnderscore)
    | none => false

/-- A receiver followed by a method of a table block. -/
def beginsWithBlockMethod (text : List Char) : Bool :=
  match text with
  | [] => false
  | first :: rest =>
    isLowerOrUnderscore first &&
      match rest.dropWhile fun c => isLowerOrUnderscore c || c.isDigit with
      | '.' :: call => blockMethods.any fun method => (afterPrefix? method call).any endsWord
      | _ => false

/-- A line, blanks at its start aside, that can only begin a statement of its own. -/
def startsStatement (raw : List Char) : Bool :=
  let text := trimStart raw
  (match afterPrefix? "end".toList text with
    | some rest => rest.isEmpty || startsBlank rest
    | none => false) ||
  (match afterPrefix? "def".toList text with
    | some rest => startsBlank rest
    | none => false) ||
  beginsWithVerb text || beginsWithBlockMethod text

/-- The statement being joined. -/
structure Draft where
  text : List Char := []
  /-- The line that gave the first text. -/
  line : Nat := 0
  /-- The lines of code joined so far, those with nothing but a comment included. -/
  joined : Nat := 0
deriving Repr, DecidableEq

namespace Draft

/-- Adds the code of a line, without the backslashes it ends with. -/
def add (draft : Draft) (number : Nat) (code : List Char) : Draft :=
  let piece := trimEnd (dropEndWhile (· == '\\') code)
  { text := if draft.text.isEmpty then piece else draft.text ++ ' ' :: piece
    line := if draft.text.isEmpty then number else draft.line
    joined := draft.joined + 1 }

/-- The statement goes on after the line whose code is `last`. -/
def continues (draft : Draft) (last : List Char) : Bool :=
  endsWith [','] last || endsWith ['\\'] last || 0 < bracketDepth draft.text

end Draft

/-- What is left to read. -/
structure Reader where
  mode : Mode := {}
  lines : List Line
  /-- The line that ends the program has been read. -/
  ended : Bool := false
deriving Repr, DecidableEq

/-- Joined lines, whether they were still open, and what is left to read. -/
structure Joined where
  draft : Draft
  cutShort : Bool
  reader : Reader
deriving Repr, DecidableEq

/-- Joins lines onto `draft` until the statement is complete or must stop. -/
def join (mode : Mode) (draft : Draft) : List Line → Joined
  | [] => { draft, cutShort := false, reader := { mode, lines := [] } }
  | line :: rest =>
    if !draft.text.isEmpty && mode.isCode && startsStatement line.text then
      { draft, cutShort := true, reader := { mode, lines := line :: rest } }
    else
      match mode.read line.text with
      | .passive mode => join mode draft rest
      | .programEnd => { draft, cutShort := false, reader := { mode, lines := rest, ended := true } }
      | .code mode [] =>
        if draft.text.isEmpty then join mode draft rest
        else
          let draft := { draft with joined := draft.joined + 1 }
          if draft.joined < maxJoined then join mode draft rest
          else { draft, cutShort := true, reader := { mode, lines := rest } }
      | .code mode (c :: code) =>
        let draft := draft.add line.number (c :: code)
        if !draft.continues (c :: code) then
          { draft, cutShort := false, reader := { mode, lines := rest } }
        else if draft.joined < maxJoined then join mode draft rest
        else { draft, cutShort := true, reader := { mode, lines := rest } }

/-- The statements of joined lines. The first one carries the mark of those cut short. -/
def Joined.statements (joined : Joined) : List Statement :=
  match splitOutside ';' joined.draft.text with
  | [] => []
  | first :: others =>
    { line := joined.draft.line, text := first, cutShort := joined.cutShort } ::
      others.map fun text => { line := joined.draft.line, text, cutShort := false }

theorem length_join_le (mode : Mode) (draft : Draft) (lines : List Line) :
    (join mode draft lines).reader.lines.length ≤ lines.length := by
  fun_induction join mode draft lines <;> simp_all <;> omega

/-- A draft that begins empty and gains text has used up a line. -/
theorem length_join_lt (mode : Mode) (draft : Draft) (lines : List Line)
    (hstart : draft.text = []) (htext : (join mode draft lines).draft.text ≠ []) :
    (join mode draft lines).reader.lines.length < lines.length := by
  cases lines with
  | nil => simp [join, hstart] at htext
  | cons line rest =>
    have hle := fun m d => length_join_le m d rest
    unfold join at htext ⊢
    simp only [hstart, List.isEmpty_nil, Bool.not_true, Bool.false_and, Bool.false_eq_true,
      if_false, if_true] at htext ⊢
    split <;> simp only [List.length_cons] <;> grind

namespace Reader

/-- The next joined lines. -/
def next (reader : Reader) : Joined :=
  if reader.ended then { draft := {}, cutShort := false, reader }
  else join reader.mode {} reader.lines

/-- The statements left. Reading ends when the next joined lines hold no text. -/
def statements (reader : Reader) : List Statement :=
  if h : reader.next.draft.text = [] then []
  else
    have : reader.next.reader.lines.length < reader.lines.length := by
      unfold next at h ⊢
      split at h
      · simp at h
      · next hended => simpa [hended] using length_join_lt _ _ _ rfl h
    reader.next.statements ++ statements reader.next.reader
termination_by reader.lines.length

end Reader

/-- The statements of a source text. -/
def statements (text : List Char) : List Statement :=
  Reader.statements { lines := numberLines 1 (Text.lines text) }

end ForeignKeyLint.Ruby
