import ForeignKeyLint.Text.Search

/-!
Names of join tables and of their columns. The default name of the join table of two tables is
both names in increasing order joined by an underscore, where words that both begin with are kept
once.
-/

namespace ForeignKeyLint.Migration

open Text

/-- The second text without the longest common beginning of both that ends in an underscore.
`kept` is the answer found so far. -/
def dropSharedWords (kept : List Char) : List Char → List Char → List Char
  | a :: as, b :: bs =>
    if a = b then dropSharedWords (if a = '_' then bs else kept) as bs else kept
  | _, _ => kept

/-- The default name of the join table of two tables. -/
def joinTableName (a b : String) : String :=
  let (first, second) := if a ≤ b then (a, b) else (b, a)
  first ++ "_" ++ String.ofList (dropSharedWords second.toList first.toList second.toList)

def isVowel (c : Char) : Bool :=
  "aeiou".toList.contains c

/-- The singular of a table name, by the endings of English plurals. -/
def singular (word : String) : String :=
  let text := word.toList
  if endsWith "ss".toList text then word
  else
    match (beforeSuffix? "ies".toList text).bind fun stem =>
        if stem.getLast?.any (!isVowel ·) then some (stem ++ ['y']) else none with
    | some name => String.ofList name
    | none =>
      if ["sses", "shes", "ches", "xes"].any fun ending => endsWith ending.toList text then
        String.ofList (text.take (text.length - 2))
      else String.ofList ((beforeSuffix? ['s'] text).getD text)

end ForeignKeyLint.Migration
