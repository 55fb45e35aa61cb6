import ForeignKeyLint.Decimal.Shortest
import ForeignKeyLint.Json.Value

/-!
Writing JSON texts, on one line or with one item a line. Only quotes, backslashes and control
characters are escaped.
-/

namespace ForeignKeyLint.Json

/-- Numbers are positional from `0.00001` to below `10 ^ 16`. -/
def numberLayout : Decimal.Layout :=
  { leastPositional := -5, greatestPositional := 15 }

/-- A double; one that is not finite has no number to stand for it. -/
def floatText (x : Float) : String :=
  (numberLayout.text? x).getD "null"

def intText (n : Int) : String :=
  if n < 0 then "-" ++ Decimal.text n.natAbs else Decimal.text n.natAbs

/-- A character of a string as it is written between the quotes. -/
def escapeChar (c : Char) : List Char :=
  match c with
  | '"' => ['\\', '"']
  | '\\' => ['\\', '\\']
  | '\x08' => ['\\', 'b']
  | '\x0c' => ['\\', 'f']
  | '\n' => ['\\', 'n']
  | '\r' => ['\\', 'r']
  | '\t' => ['\\', 't']
  | _ =>
    if c.toNat < 0x20 then
      ['\\', 'u', '0', '0', Nat.digitChar (c.toNat / 16), Nat.digitChar (c.toNat % 16)]
    else [c]

def stringText (s : String) : String :=
  "\"" ++ String.ofList (s.toList.flatMap escapeChar) ++ "\""

/-- A value on one line, without spaces. -/
def compact : Json → String
  | .null => "null"
  | .bool true => "true"
  | .bool false => "false"
  | .int n => intText n
  | .float x => floatText x
  | .str s => stringText s
  | .arr items => "[" ++ String.intercalate "," (compactItems items) ++ "]"
  | .obj members => "\x7b" ++ String.intercalate "," (compactMembers members) ++ "\x7d"
where
  /-- The items of a list. -/
  compactItems : List Json → List String
    | [] => []
    | item :: items => compact item :: compactItems items
  /-- The members of an object. -/
  compactMembers : List (String × Json) → List String
    | [] => []
    | (name, value) :: members =>
      (stringText name ++ ":" ++ compact value) :: compactMembers members

/-- The start of a line at a nesting level. -/
def indent (level : Nat) : String :=
  "\n" ++ String.ofList (List.replicate (2 * level) ' ')

/-- Encloses items that stand one a line, or nothing. -/
def bracketed (opening closing : String) (level : Nat) (items : List String) : String :=
  if items.isEmpty then opening ++ closing
  else
    let separator := "," ++ indent (level + 1)
    opening ++ indent (level + 1) ++ String.intercalate separator items ++ indent level ++ closing

/-- A value with one item a line, indented by two spaces a level. -/
def prettyAt (level : Nat) : Json → String
  | .arr items => bracketed "[" "]" level (prettyItems (level + 1) items)
  | .obj members => bracketed "\x7b" "\x7d" level (prettyMembers (level + 1) members)
  | .null => "null"
  | .bool true => "true"
  | .bool false => "false"
  | .int n => intText n
  | .float x => floatText x
  | .str s => stringText s
where
  /-- The items of a list. -/
  prettyItems (level : Nat) : List Json → List String
    | [] => []
    | item :: items => prettyAt level item :: prettyItems level items
  /-- The members of an object. -/
  prettyMembers (level : Nat) : List (String × Json) → List String
    | [] => []
    | (name, value) :: members =>
      (stringText name ++ ": " ++ prettyAt level value) :: prettyMembers level members

def pretty (json : Json) : String :=
  prettyAt 0 json

end ForeignKeyLint.Json
