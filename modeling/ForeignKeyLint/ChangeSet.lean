import ForeignKeyLint.Config

/-!
The change set: which migrations a run looks at, and in which order. A file is looked at once,
whatever its spellings, and the snapshot is never part of the change set.
-/

namespace ForeignKeyLint

/-- Where the change set comes from. -/
inductive ChangeSource where
  /-- Exactly these files. -/
  | explicit (files : List Path)
  /-- The files changed since the branch left `base`. -/
  | since (base : String)
  /-- Every migration in the directory. -/
  | directory
deriving Repr, DecidableEq

/-- Files that are named come first, then a base. -/
def ChangeSource.choose (files : List Path) (base : Option String) : ChangeSource :=
  if files.isEmpty then
    match base with
    | some base => .since base
    | none => .directory
  else .explicit files

namespace ChangeSet

/-- Timestamps are below this. -/
def timestampLimit : Nat := Nat.pow 2 64

/-- The number in digits that a text starts with, if it is in range. -/
def leadingNumber? (text : String) : Option Nat :=
  let digits := text.toList.takeWhile Char.isDigit
  let number := Nat.ofDigitChars 10 digits 0
  if digits.isEmpty ∨ timestampLimit ≤ number then none else some number

/-- The number a file name starts with. A name that is not text has none, whatever it starts with. -/
def timestamp? (path : Path) : Option Nat :=
  path.fileText?.bind leadingNumber?

def isMigration (path : Path) : Bool :=
  path.extension? = some (RawText.ofText "rb")

/-- The pattern matches the file name or is the same text. -/
def isNamedBy (pattern name : String) : Bool :=
  ((Glob.parse? pattern).any fun tokens => Glob.tokensMatch tokens name.toList) || name = pattern

/-- The file is older than the configuration asks for, or some pattern excludes it. A name that is not text is
matched as an empty one. -/
def isExcluded (config : Config) (path : Path) : Bool :=
  let isOld := match config.checkAfter, timestamp? path with
    | some threshold, some timestamp => timestamp < threshold
    | _, _ => false
  isOld || config.excludedFiles.any fun pattern => isNamedBy pattern (path.fileText?.getD "")

/-- Files with a timestamp come first, in the order of their timestamps. -/
def compareTimestamps : Option Nat → Option Nat → Ordering
  | some a, some b => compare a b
  | some _, none => .lt
  | none, some _ => .gt
  | none, none => .eq

/-- Files in the order asked for. Files that compare equal stay in their order. -/
def arrange (order : FileOrder) (files : List Path) : List Path :=
  match order with
  | .lexical => files.mergeSort fun a b => (a.compare b).isLE
  | .timestamp => files.mergeSort fun a b =>
    ((compareTimestamps (timestamp? a) (timestamp? b)).then (a.compare b)).isLE
  | .given => files

/-- Keeps the first of equivalent spellings. -/
def distinct : List Path → List Path
  | [] => []
  | file :: others => file :: (distinct others).filter fun other => !other.equivalent file

/-- The change set that a list of files amounts to. -/
def settle (config : Config) (files : List Path) : List Path :=
  arrange config.fileOrder
    (distinct (files.filter fun file => !file.equivalent config.schemaPath))

end ChangeSet

end ForeignKeyLint
