import ForeignKeyLint.Text.Hex
import ForeignKeyLint.Text.Search

/-!
Tables of characters by code point. Properties of characters are data, too long for a definition by
cases: a table lists ranges of code points that have a property, or runs of code points in a row
with what stands for each.
-/

namespace ForeignKeyLint.Text

/-- The code point is in one of the closed ranges. -/
def inRanges (ranges : List (Nat × Nat)) (code : Nat) : Bool :=
  ranges.any fun (first, last) => first ≤ code && code ≤ last

/-- A run of code points in a row: the first one, and a word for each. A word holds the code points
that stand for its own, in base sixteen and joined by plus signs. -/
structure CodeRun where
  first : Nat
  words : String
deriving Repr, DecidableEq

/-- The code points in a word. -/
def codesOfWord (word : List Char) : List Nat :=
  (splitOn '+' word).filterMap (numeral? 16)

/-- The code points of a run with those that stand for each. -/
def CodeRun.entries (run : CodeRun) : List (Nat × List Nat) :=
  ((splitOn ' ' run.words.toList).zipIdx run.first).map fun (word, code) => (code, codesOfWord word)

/-- What stands for a code point in the last run that starts at it or before it. Runs are listed by
their first code points, in increasing order. -/
def lookupRun? (runs : List CodeRun) (code : Nat) : Option (List Nat) := do
  let run ← (runs.takeWhile fun run => run.first ≤ code).getLast?
  run.entries.lookup code

end ForeignKeyLint.Text
