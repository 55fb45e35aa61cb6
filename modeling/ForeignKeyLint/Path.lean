import ForeignKeyLint.RawText

/-!
File paths. A path keeps the spelling it was given with, but two spellings are equivalent when
they have the same components, and paths are ordered by their components. Repeated and trailing
slashes do not count, nor does a `.` that is not the first component. Neither a path nor a name in it
has to be text.
-/

namespace ForeignKeyLint

/-- A component of a path. -/
inductive Component where
  | root
  | here
  | parent
  | named (name : RawText)
deriving Repr, DecidableEq

namespace Component

/-- The root comes before `.`, that before `..`, and that before a name. -/
def rank : Component → Nat
  | .root => 0
  | .here => 1
  | .parent => 2
  | .named _ => 3

/-- Names are ordered by their bytes. -/
def compare : Component → Component → Ordering
  | .named a, .named b => Ord.compare a.bytes b.bytes
  | a, b => Ord.compare a.rank b.rank

end Component

structure Path where
  raw : RawText
deriving Repr, DecidableEq, Inhabited

namespace Path

/-- The path that a text spells. -/
def ofText (text : String) : Path :=
  ⟨text⟩

/-- How a path is shown. -/
def text (path : Path) : String :=
  path.raw.text

def slash : UInt8 :=
  '/'.toUInt8

def dot : UInt8 :=
  '.'.toUInt8

/-- The component a part between slashes stands for, the empty part and `.` aside. -/
def component? (part : List UInt8) : Option Component :=
  if part.isEmpty ∨ part = [dot] then none
  else if part = [dot, dot] then some .parent
  else some (.named ⟨part⟩)

/-- The components of a path. -/
def components (path : Path) : List Component :=
  let parts := path.raw.bytes.splitOn slash
  let others := parts.filterMap component?
  match parts with
  | [] :: _ :: _ => .root :: others
  | part :: _ => if part = [dot] then .here :: others else others
  | [] => others

/-- The same components, however spelled. -/
def equivalent (a b : Path) : Bool :=
  a.components == b.components

/-- Compares two lists of components; a list comes before its extensions. -/
def compareComponents : List Component → List Component → Ordering
  | [], [] => .eq
  | [], _ :: _ => .lt
  | _ :: _, [] => .gt
  | a :: as, b :: bs => (a.compare b).then (compareComponents as bs)

def compare (a b : Path) : Ordering :=
  compareComponents a.components b.components

/-- The last component, if it is a name. -/
def fileName? (path : Path) : Option RawText :=
  match path.components.getLast? with
  | some (.named name) => some name
  | _ => none

/-- The file name, if it is text. -/
def fileText? (path : Path) : Option String :=
  path.fileName?.bind RawText.text?

/-- The part of the file name after its last dot, unless the dot comes first. -/
def extension? (path : Path) : Option RawText :=
  path.fileName?.bind fun name =>
    match (name.bytes.splitOn dot).reverse with
    | [] | [_] | [_, []] => none
    | last :: _ => some ⟨last⟩

/-- The path of an entry of this directory. -/
def child (directory : Path) (name : RawText) : Path :=
  let bytes := directory.raw.bytes
  let parent := if bytes.isEmpty ∨ bytes.getLast? = some slash then bytes else bytes ++ [slash]
  ⟨⟨parent ++ name.bytes⟩⟩

end Path

end ForeignKeyLint
