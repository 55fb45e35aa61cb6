/-!
Glob patterns for file names. A question mark stands for one character, a star for any number of
them, and brackets for one character out of a set or, after an exclamation mark, one outside of
it. Two stars stand for any number of whole path components and must be a component themselves.
-/

namespace ForeignKeyLint

/-- A closed range of characters; a single character is a range of one. -/
structure CharRange where
  first : Char
  last : Char
deriving Repr, DecidableEq

def CharRange.contains (range : CharRange) (c : Char) : Bool :=
  range.first ≤ c && c ≤ range.last

/-- The ranges that the text between brackets lists. A dash between two characters makes a range
of them. -/
def CharRange.list : List Char → List CharRange
  | first :: '-' :: last :: rest => { first, last } :: list rest
  | c :: rest => { first := c, last := c } :: list rest
  | [] => []

inductive GlobToken where
  | char (c : Char)
  | anyChar
  | anySequence
  /-- Any number of whole path components. -/
  | anyComponents
  | within (ranges : List CharRange)
  | outside (ranges : List CharRange)
deriving Repr, DecidableEq

namespace Glob

/-- Splits the text after an opening bracket into what the brackets hold and what follows them.
The first character is never the closing bracket. -/
def splitBrackets? : List Char → Option (List Char × List Char)
  | [] => none
  | first :: rest =>
    if rest.contains ']' then
      some (first :: rest.takeWhile (· != ']'), (rest.dropWhile (· != ']')).drop 1)
    else none

/-- What one step of reading a pattern finds. -/
def token? (afterSeparator : Bool) : List Char → Option (GlobToken × List Char)
  | [] => none
  | '?' :: rest => some (.anyChar, rest)
  | '*' :: '*' :: rest =>
    match afterSeparator, rest with
    | true, [] => some (.anyComponents, [])
    | true, '/' :: rest => some (.anyComponents, rest)
    | _, _ => none
  | '*' :: rest => some (.anySequence, rest)
  | '[' :: '!' :: rest =>
    (splitBrackets? rest).map fun (set, rest) => (.outside (CharRange.list set), rest)
  | '[' :: rest =>
    (splitBrackets? rest).map fun (set, rest) => (.within (CharRange.list set), rest)
  | c :: rest => some (.char c, rest)

theorem length_splitBrackets?_lt {text set rest : List Char}
    (h : splitBrackets? text = some (set, rest)) : rest.length < text.length := by
  cases text with
  | nil => simp [splitBrackets?] at h
  | cons first others =>
    simp only [splitBrackets?] at h
    split at h
    · simp only [Option.some.injEq, Prod.mk.injEq] at h
      obtain ⟨_, rfl⟩ := h
      have := (List.dropWhile_sublist (l := others) (· != ']')).length_le
      simp only [List.length_drop, List.length_cons]
      omega
    · simp at h

theorem length_token?_lt {afterSeparator : Bool} {text rest : List Char} {token : GlobToken}
    (h : token? afterSeparator text = some (token, rest)) : rest.length < text.length := by
  unfold token? at h
  split at h
  case h_5 | h_6 =>
    simp only [Option.map_eq_some_iff, Prod.mk.injEq, Prod.exists] at h
    obtain ⟨set, after, hsplit, _, rfl⟩ := h
    have := length_splitBrackets?_lt hsplit
    simp only [List.length_cons]
    omega
  all_goals grind

/-- Reads the tokens of a pattern, `afterSeparator` at the start of a path component. -/
def tokensFrom? (afterSeparator : Bool) (text : List Char) : Option (List GlobToken) :=
  if text.isEmpty then some []
  else
    match h : token? afterSeparator text with
    | some (token, rest) =>
      have := length_token?_lt h
      let next := token = .char '/' || token = .anyComponents
      (tokensFrom? next rest).map (token :: ·)
    | none => none
termination_by text.length

/-- The tokens of a pattern, or nothing if it is malformed. -/
def parse? (pattern : String) : Option (List GlobToken) :=
  tokensFrom? true pattern.toList

/-- The places of a text that a pattern has matched up to: for each place, before the first
character and after every one, whether it is reached. -/
abbrev Places := List Bool

/-- Only the start of a text is reached. -/
def Places.start (text : List Char) : Places :=
  true :: text.map fun _ => false

/-- The places reached with one more character, which must be accepted. -/
def Places.afterChar (accepts : Char → Bool) (text : List Char) (places : Places) : Places :=
  false :: List.zipWith (fun c isReached => isReached && accepts c) text places

/-- The places reached with any number of characters more, `seen` when an earlier place was. -/
def Places.afterSequence (seen : Bool) : Places → Places
  | [] => []
  | isReached :: others => (seen || isReached) :: Places.afterSequence (seen || isReached) others

/-- The places reached with any number of components more, `seen` when an earlier place was. They
are where they were, after a slash, or at the end. -/
def Places.afterComponents (seen afterSlash : Bool) : List Char → Places → Places
  | c :: text, isReached :: others =>
    (isReached || (seen && afterSlash)) ::
      Places.afterComponents (seen || isReached) (c == '/') text others
  | [], isReached :: _ => [seen || isReached]
  | _, [] => []

/-- The places reached with one more token. -/
def Places.after (text : List Char) (places : Places) : GlobToken → Places
  | .char c => Places.afterChar (· == c) text places
  | .anyChar => Places.afterChar (fun _ => true) text places
  | .within ranges => Places.afterChar (fun c => ranges.any (·.contains c)) text places
  | .outside ranges => Places.afterChar (fun c => !ranges.any (·.contains c)) text places
  | .anySequence => Places.afterSequence false places
  | .anyComponents => Places.afterComponents false false text places

/-- The tokens match the whole text. -/
def tokensMatch (tokens : List GlobToken) (text : List Char) : Bool :=
  (tokens.foldl (Places.after text) (Places.start text)).getLast? == some true

end Glob

end ForeignKeyLint
