import ForeignKeyLint.Yaml.Token

/-!
Reading YAML documents: mappings and lists as blocks or between brackets, scalars and comments.
A text holds one document. Anchors, tags and block scalars are refused.
-/

namespace ForeignKeyLint.Yaml

/-- A node of a document. A scalar is kept as its text, because its type depends on what it is
wanted as; only one without quotes can be anything but a text. -/
inductive Node where
  | scalar (text : String) (isPlain : Bool)
  | list (items : List Node)
  | mapping (entries : List (Node × Node))
deriving Repr, Inhabited

namespace Node

/-- What stands where nothing is written. -/
def empty : Node :=
  .scalar "" true

/-- Where a node is read: in a block, where a list may also start at its first dash, or between
brackets. -/
inductive Place where
  | block
  /-- The key or the value of a block mapping. -/
  | blockEntry
  | brackets
deriving Repr, DecidableEq

mutual

/-- Reads a node. Each round of this group reads a token at least, or leads to a round that
does. -/
def node? : (rounds : Nat) → Place → List Token → Option (Node × List Token)
  | rounds + 1, .blockEntry, .dash :: rest => do
    let (items, rest) ← dashedItems? rounds (.dash :: rest)
    return (.list items, rest)
  | _ + 1, _, .scalar text isPlain :: rest => some (.scalar text isPlain, rest)
  | rounds + 1, _, .listStart :: rest => do
    let (items, rest) ← items? rounds true rest
    return (.list items, rest)
  | rounds + 1, _, .mappingStart :: rest => do
    let (entries, rest) ← entries? rounds true rest
    return (.mapping entries, rest)
  | rounds + 1, place, .blockListStart :: rest => do
    if place = .brackets then none
    let (items, rest) ← blockItems? rounds rest
    return (.list items, rest)
  | rounds + 1, place, .blockMappingStart :: rest => do
    if place = .brackets then none
    let (entries, rest) ← blockEntries? rounds rest
    return (.mapping entries, rest)
  | _, _, _ => none

/-- Reads a node, or the empty node if one of the tokens `ends` comes next. -/
def optional? : (rounds : Nat) → Place → (ends : List Token) → List Token →
    Option (Node × List Token)
  | rounds + 1, place, ends, token :: rest =>
    if ends.contains token then some (empty, token :: rest) else node? rounds place (token :: rest)
  | _, _, _, _ => none

/-- Reads the items of a list that is a block of its own, up to the end of the block. -/
def blockItems? : (rounds : Nat) → List Token → Option (List Node × List Token)
  | rounds + 1, .dash :: rest => do
    let (item, rest) ← optional? rounds .block [.dash, .blockEnd] rest
    let (items, rest) ← blockItems? rounds rest
    return (item :: items, rest)
  | _ + 1, .blockEnd :: rest => some ([], rest)
  | _, _ => none

/-- Reads the items of a list whose dashes stand in the column of the mapping around it. -/
def dashedItems? : (rounds : Nat) → List Token → Option (List Node × List Token)
  | rounds + 1, .dash :: rest => do
    let (item, rest) ← optional? rounds .block [.dash, .key, .value, .blockEnd] rest
    let (items, rest) ← dashedItems? rounds rest
    return (item :: items, rest)
  | _ + 1, tokens => some ([], tokens)
  | 0, _ => none

/-- Reads the entries of a block mapping, up to the end of the block. A key may lack its value. -/
def blockEntries? : (rounds : Nat) → List Token → Option (List (Node × Node) × List Token)
  | rounds + 1, .key :: rest => do
    let (key, rest) ← optional? rounds .blockEntry [.key, .value, .blockEnd] rest
    let (value, rest) ← match rest with
      | .value :: rest => optional? rounds .blockEntry [.key, .value, .blockEnd] rest
      | _ => some (empty, rest)
    let (entries, rest) ← blockEntries? rounds rest
    return ((key, value) :: entries, rest)
  | _ + 1, .blockEnd :: rest => some ([], rest)
  | _, _ => none

/-- Reads the items of a list up to its closing bracket. A comma parts two items and may follow the
last. An item with a key is a mapping of one entry. -/
def items? : (rounds : Nat) → (isFirst : Bool) → List Token → Option (List Node × List Token)
  | _ + 1, _, .listEnd :: rest => some ([], rest)
  | rounds + 1, false, .comma :: rest => items? rounds true rest
  | rounds + 1, true, .key :: rest => do
    let (item, rest) ← singleEntry? rounds rest
    let (items, rest) ← items? rounds false rest
    return (item :: items, rest)
  | rounds + 1, true, tokens => do
    let (item, rest) ← node? rounds .brackets tokens
    let (items, rest) ← items? rounds false rest
    return (item :: items, rest)
  | _, _, _ => none

/-- Reads the rest of a mapping of one entry after the mark of its key. A token that leaves the key
empty is passed over. -/
def singleEntry? : (rounds : Nat) → List Token → Option (Node × List Token)
  | rounds + 1, token :: rest => do
    let (key, rest) ←
      if [Token.value, .comma, .listEnd].contains token then some (empty, rest)
      else node? rounds .brackets (token :: rest)
    let (value, rest) ← match rest with
      | .value :: rest => optional? rounds .brackets [.comma, .listEnd] rest
      | _ => some (empty, rest)
    return (.mapping [(key, value)], rest)
  | _, _ => none

/-- Reads the entries of a mapping up to its closing bracket. A comma parts two entries and may
follow the last. A node that is no key has the empty value. -/
def entries? : (rounds : Nat) → (isFirst : Bool) → List Token →
    Option (List (Node × Node) × List Token)
  | _ + 1, _, .mappingEnd :: rest => some ([], rest)
  | rounds + 1, false, .comma :: rest => entries? rounds true rest
  | rounds + 1, true, .key :: rest => do
    let (key, rest) ← optional? rounds .brackets [.value, .comma, .mappingEnd] rest
    let (value, rest) ← match rest with
      | .value :: rest => optional? rounds .brackets [.comma, .mappingEnd] rest
      | _ => some (empty, rest)
    let (entries, rest) ← entries? rounds false rest
    return ((key, value) :: entries, rest)
  | rounds + 1, true, tokens => do
    let (key, rest) ← node? rounds .brackets tokens
    let (entries, rest) ← entries? rounds false rest
    return ((key, empty) :: entries, rest)
  | _, _, _ => none

end

/-- The node of the single document that tokens make up. Its start may be marked, and its end any
number of times. -/
def ofTokens? (tokens : List Token) : Option Node := do
  let rounds := 4 * tokens.length + 4
  let (node, rest) ← match tokens with
    | [] | [.documentStart] => some (empty, [])
    | .documentStart :: rest => optional? rounds .block [.documentStart, .documentEnd] rest
    | tokens => node? rounds .block tokens
  if rest.all (· == .documentEnd) then some node else none

/-- The node of the single document in a text. -/
def parse? (text : List Char) : Option Node :=
  (Token.scan? text).bind ofTokens?

end Node

end ForeignKeyLint.Yaml
