import ForeignKeyLint.Disk.Failure

/-!
A file tree in memory. A path is resolved part by part, through symbolic links, and a walk visits
every file below a directory. Directories that hold an entry need no entry of their own.
-/

namespace ForeignKeyLint.Disk

inductive Entry where
  | file (content : ByteArray)
  | directory
  | link (target : RawText)

def Entry.isDirectory : Entry → Bool
  | .directory => true
  | _ => false

/-- The names that lead from the root to an entry. -/
abbrev Place := List RawText

structure Tree where
  entries : List (Place × Entry)
  /-- The directory where relative paths start. -/
  workingDirectory : Place

namespace Tree

/-- The parts of a path between slashes. A slash at the end asks for a directory, as a dot does. -/
def parts (path : RawText) : List RawText :=
  let parts := (path.bytes.splitOn Path.slash).map RawText.mk
  let named := parts.filter fun part => !part.isEmpty
  if parts.getLast?.any RawText.isEmpty ∧ named ≠ [] then named ++ [RawText.ofText "."] else named

def isAbsolute (path : RawText) : Bool :=
  path.bytes.head? = some Path.slash

/-- What stands at a place, links not followed. -/
def entry? (tree : Tree) (place : Place) : Option Entry :=
  match tree.entries.lookup place with
  | some entry => some entry
  | none =>
    if place.isEmpty || place.isPrefixOf tree.workingDirectory ||
        tree.entries.any (fun other => place.isPrefixOf other.1) then
      some .directory
    else none

def isDirectory (tree : Tree) (place : Place) : Bool :=
  (tree.entry? place).any Entry.isDirectory

/-- The most bytes in the name of an entry. -/
def maxNameLength : Nat := 255

/-- The most bytes in a path. -/
def maxPathLength : Nat := 4095

/-- Follows parts from a directory. The last part may be a link and is followed too. -/
def follow (tree : Tree) (links : Nat) (place : Place) (todo : List RawText) :
    Except ReadError Place :=
  match todo with
  | [] => .ok place
  | part :: rest =>
    if !tree.isDirectory place then .error .notADirectory
    else if part = "." then tree.follow links place rest
    else if part = ".." then tree.follow links place.dropLast rest
    else if maxNameLength < part.bytes.length then .error .nameTooLong
    else
      let next := place ++ [part]
      match tree.entry? next with
      | none => .error .notFound
      | some (.link target) =>
        match links with
        | 0 => .error .tooManyLinks
        | links + 1 =>
          tree.follow links (if isAbsolute target then [] else place) (parts target ++ rest)
      | some _ => tree.follow links next rest
termination_by (links, todo.length)

/-- At most this many links are followed for one path. -/
def maxLinks : Nat := 40

/-- The place a path leads to. -/
def resolve (tree : Tree) (path : Path) : Except ReadError Place :=
  if path.raw.isEmpty then .error .notFound
  else if path.raw.bytes.contains 0 then .error .notAPath
  else if maxPathLength < path.raw.bytes.length then .error .nameTooLong
  else tree.follow maxLinks (if isAbsolute path.raw then [] else tree.workingDirectory)
    (parts path.raw)

/-- The path leads somewhere. -/
def hasPath (tree : Tree) (path : Path) : Bool :=
  (tree.resolve path).isOk

/-- The path leads to a directory. -/
def hasDirectory (tree : Tree) (path : Path) : Bool :=
  match tree.resolve path with
  | .ok place => tree.isDirectory place
  | .error _ => false

/-- The text of the file a path leads to. -/
def readText (tree : Tree) (path : Path) : Except ReadError (List Char) := do
  let place ← tree.resolve path
  match tree.entry? place with
  | some (.file content) =>
    match String.fromUTF8? content with
    | some text => .ok text.toList
    | none => .error .notText
  | some .directory => .error .isADirectory
  | _ => .error .notFound

/-- The names in a directory. -/
def names (tree : Tree) (place : Place) : List RawText :=
  (tree.entries.filterMap fun (other, _) =>
    if place.isPrefixOf other then (other.drop place.length).head? else none).eraseDups

/-- A directory that a walk is in, by its path and its place. -/
structure Open where
  path : Path
  place : Place
deriving DecidableEq

/-- The files below the path of an entry, given the directories the walk is in from the innermost
to the outermost. -/
def walk (tree : Tree) : (depth : Nat) → (within : List Open) → (path : Path) →
    Except WalkError (List Path)
  | 0, within, path => .error (.loop path ((within.getLast?.map (·.path)).getD path))
  | depth + 1, within, path =>
    match tree.resolve path with
    | .error error => .error (.unreadable path error)
    | .ok place =>
      if tree.isDirectory place then
        match within.find? fun ancestor => ancestor.place = place with
        | some ancestor => .error (.loop path ancestor.path)
        | none => do
          let below ← (tree.names place).mapM fun name =>
            tree.walk depth ({ path, place } :: within) (path.child name)
          .ok below.flatten
      else .ok [path]

/-- The files below a directory, or the file itself if the path leads to one. A walk that never
meets a directory again is not deeper than there are places for a directory. -/
def filesBelow (tree : Tree) (path : Path) : Except WalkError (List Path) :=
  let places := tree.entries.foldl (fun total entry => total + entry.1.length)
    tree.workingDirectory.length
  tree.walk (places + 2) [] path

end Tree

end ForeignKeyLint.Disk
