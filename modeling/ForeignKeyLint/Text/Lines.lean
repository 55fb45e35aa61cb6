/-!
Physical lines. A line ends at a line feed, and a carriage return right before the line feed
belongs to the line's end. The last line needs no end, and keeps a carriage return it ends with.
-/

namespace ForeignKeyLint.Text

/-- The lines of a text, without their ends. -/
def lines : List Char → List (List Char)
  | [] => []
  | '\n' :: rest => [] :: lines rest
  | '\r' :: '\n' :: rest => [] :: lines rest
  | c :: rest =>
    match lines rest with
    | [] => [[c]]
    | line :: others => (c :: line) :: others

end ForeignKeyLint.Text
