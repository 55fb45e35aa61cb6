import ForeignKeyLint.Domain.Direction
import ForeignKeyLint.Domain.Joining
import ForeignKeyLint.Domain.Mapping
import ForeignKeyLint.Domain.Punycode
import ForeignKeyLint.Text.Composition

/-!
Domain names in any script, and the form of them that has plain characters only. A name is a
sequence of labels with dots between them; a label with other characters is written in Punycode
behind a mark.
-/

namespace ForeignKeyLint.Domain

open Text

/-- Stands before a label in Punycode. -/
def punycodeMark : List Char :=
  "xn--".toList

def isPlain (label : List Char) : Bool :=
  label.all fun c => c.toNat < Punycode.firstCode

/-- The normal form of a name, or nothing if one of its characters cannot occur. -/
def normalize? (name : List Char) : Option (List Char) :=
  (name.mapM mapChar?).map fun parts => composed parts.flatten

/-- A label that is well formed in itself: it does not start with a mark, and joiners stand where
they may. -/
def isLabel (label : List Char) : Bool :=
  !label.head?.any isMark && joinersFit [] label

/-- The label that a label of a normal name stands for, which need not be well formed. One in
Punycode stands for a label in normal form that needs it. -/
def unwrap? (label : List Char) : Option (List Char) :=
  match afterPrefix? punycodeMark label with
  | none => some label
  | some written => do
    let decoded ← Punycode.decode? written
    if !isPlain decoded && normalize? decoded == some decoded then some decoded else none

/-- The plain form of a label. -/
def wrap (label : List Char) : List Char :=
  if isPlain label then label else punycodeMark ++ Punycode.encode label

/-- The plain form of a name, or nothing if it is no name. -/
def toPlain? (name : List Char) : Option (List Char) := do
  let labels ← (splitOn '.' (← normalize? name)).mapM unwrap?
  if labels.all isLabel && areDirected labels then
    some (['.'].intercalate (labels.map wrap))
  else none

end ForeignKeyLint.Domain
