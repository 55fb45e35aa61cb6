/-!
JSON values. An integer that fits sixty-four bits is kept apart from a number written with a point
or an exponent, because a count accepts only the former. An object lists its members in order,
each name once.
-/

namespace ForeignKeyLint

inductive Json where
  | null
  | bool (value : Bool)
  | int (value : Int)
  | float (value : Float)
  | str (value : String)
  | arr (items : List Json)
  | obj (members : List (String × Json))
deriving Inhabited

namespace Json

/-- The value of the member called `name`; a value that is no object has no members. -/
def get? (json : Json) (name : String) : Option Json :=
  match json with
  | .obj members => members.lookup name
  | _ => none

def asString? : Json → Option String
  | .str value => some value
  | _ => none

def asBool? : Json → Option Bool
  | .bool value => some value
  | _ => none

def asList? : Json → Option (List Json)
  | .arr items => some items
  | _ => none

/-- A count: an integer that is not negative. -/
def asCount? : Json → Option Nat
  | .int value => if 0 ≤ value then some value.toNat else none
  | _ => none

/-- A number of either kind as a double. -/
def asFloat? : Json → Option Float
  | .int value => some (Float.ofInt value)
  | .float value => some value
  | _ => none

/-- A list of texts and nothing else. -/
def asStrings? (json : Json) : Option (List String) :=
  json.asList?.bind fun items => items.mapM asString?

def isNull : Json → Bool
  | .null => true
  | _ => false

/-- Adds a member, in the place of an earlier one of the same name if there is one. -/
def insertMember (members : List (String × Json)) (name : String) (value : Json) :
    List (String × Json) :=
  if members.any (·.1 == name) then
    members.map fun member => if member.1 == name then (name, value) else member
  else members ++ [(name, value)]

def ofNat (n : Nat) : Json :=
  .int n

def ofStrings (texts : List String) : Json :=
  .arr (texts.map .str)

/-- An optional value, with `null` for its absence. -/
def ofOption {α : Type} (encode : α → Json) (value : Option α) : Json :=
  (value.map encode).getD .null

end Json

end ForeignKeyLint
