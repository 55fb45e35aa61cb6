import ForeignKeyLint.Ruby.Code
import ForeignKeyLint.Text.Search

/-!
Literal arguments of Ruby calls. Whatever is no literal is kept as its text, so an argument is
never refused for being an expression.
-/

namespace ForeignKeyLint.Ruby

open Text

inductive Value where
  | symbol (name : String)
  | str (text : String)
  | list (items : List Value)
  /-- The entries of a hash in source order, repeated keys included. -/
  | hash (entries : List (String × Value))
  | bool (value : Bool)
  | nil
  /-- Any other expression, trimmed. -/
  | raw (text : String)
deriving Repr, Inhabited

namespace Value

/-- The content of a symbol or a string. -/
def asName? : Value → Option String
  | .symbol name => some name
  | .str text => some text
  | _ => none

/-- A single name, or a list of nothing but names, in order. -/
def asNames? : Value → Option (List String)
  | .symbol name => some [name]
  | .str text => some [text]
  | .list items => items.mapM asName?
  | _ => none

/-- Neither `false` nor `nil`. An expression counts as true. -/
def isTruthy : Value → Bool
  | .bool false => false
  | .nil => false
  | _ => true

/-- The first entry of a hash with this key. -/
def get? (value : Value) (key : String) : Option Value :=
  match value with
  | .hash entries => entries.lookup key
  | _ => none

end Value

/-- Letters, digits and underscores of ASCII. -/
def isWordChar (c : Char) : Bool :=
  c.isAlphanum || c == '_'

/-- A name of ASCII letters, digits and underscores, not starting with a digit; a mark of
exclamation or question may end it. -/
def isIdentifier (text : List Char) : Bool :=
  match text with
  | [] => false
  | first :: rest =>
    (first.isAlpha || first == '_') &&
      match rest.dropWhile isWordChar with
      | [] => true
      | [last] => last == '!' || last == '?'
      | _ => false

/-- What stands between two equal quotes that do not occur in between. -/
def unquote? : List Char → Option (List Char)
  | [] => none
  | quote :: rest =>
    if (quote = '"' ∨ quote = '\'') ∧ rest.getLast? = some quote ∧ quote ∉ rest.dropLast then
      some rest.dropLast
    else none

/-- A symbol, quoted or plain, or a string. -/
def readName? (text : List Char) : Option Value :=
  match text with
  | ':' :: name =>
    match unquote? name with
    | some inner => some (.symbol (String.ofList inner))
    | none => if isIdentifier name then some (.symbol (String.ofList name)) else none
  | _ => (unquote? text).map fun inner => .str (String.ofList inner)

/-- The sides of the first arrow, if the left one starts like a symbol or a string. -/
def splitArrow? (text : List Char) : Option (List Char × List Char) :=
  match splitAtFirst? "=>".toList text with
  | some (left, right) =>
    match trim left with
    | ':' :: _ | '"' :: _ | '\'' :: _ => some (trim left, trim right)
    | _ => none
  | none => none

/-- The key and the value text of `key: value`, `:key => value` or `"key" => value`. -/
def splitKeyword? (text : List Char) : Option (String × List Char) :=
  match splitArrow? text with
  | some (left, right) => ((readName? left).bind Value.asName?).map (·, right)
  | none =>
    match splitAtFirst? [':'] text with
    | some (key, after) =>
      if isIdentifier key && !beginsWith [':'] after then some (String.ofList key, trim after)
      else none
    | none => none

/-- What stands between the first and the last character. -/
def inside (text : List Char) : List Char :=
  (text.drop 1).dropLast

/-- A list written with a percent sign: symbols after `i`, strings after `w`. -/
def percentList? : List Char → Option Value
  | '%' :: flavor :: opening :: rest =>
    if "[(\x7b<".toList.contains opening then
      match beforeSuffix? [closingDelimiter opening] rest with
      | some body =>
        ((words body).mapM fun word =>
          if flavor = 'i' ∨ flavor = 'I' then some (Value.symbol (String.ofList word))
          else if flavor = 'w' ∨ flavor = 'W' then some (Value.str (String.ofList word))
          else none).map Value.list
      | none => none
    else none
  | _ => none

theorem length_splitArrow?_le {text left right : List Char}
    (h : splitArrow? text = some (left, right)) : right.length ≤ text.length := by
  unfold splitArrow? at h
  split at h
  · next before after hsplit =>
    have hlength := congrArg List.length (eq_append_of_splitAtFirst? hsplit)
    have htrim := length_trim_le after
    simp only [List.length_append] at hlength
    split at h <;> simp_all <;> omega
  · simp at h

/-- The value text of a keyword argument is no longer than the argument. -/
theorem length_splitKeyword?_le {text value : List Char} {key : String}
    (h : splitKeyword? text = some (key, value)) : value.length ≤ text.length := by
  unfold splitKeyword? at h
  split at h
  · next left right harrow =>
    simp only [Option.map_eq_some_iff, Prod.mk.injEq] at h
    obtain ⟨_, _, _, rfl⟩ := h
    exact length_splitArrow?_le harrow
  · split at h
    · next before after hsplit =>
      have hlength := congrArg List.length (eq_append_of_splitAtFirst? hsplit)
      have htrim := length_trim_le after
      simp only [List.length_append] at hlength
      split at h
      · simp only [Option.some.injEq, Prod.mk.injEq] at h
        obtain ⟨_, rfl⟩ := h
        omega
      · simp at h
    · simp at h

theorem length_inside_trim_lt {text : List Char} {c : Char} (h : beginsWith [c] (trim text) = true) :
    (inside (trim text)).length < text.length := by
  have hle := length_trim_le text
  cases hraw : trim text with
  | nil => simp [hraw, beginsWith] at h
  | cons first rest =>
    simp only [hraw, List.length_cons] at hle
    simp only [inside, List.drop_succ_cons, List.drop_zero, List.length_dropLast]
    omega

/-- The value an argument's text stands for. -/
def Value.parse (text : List Char) : Value :=
  match readName? (trim text) with
  | some value => value
  | none =>
    if hlist : beginsWith ['['] (trim text) = true ∧ endsWith [']'] (trim text) = true then
      .list ((splitOutside ',' (inside (trim text))).attach.map fun ⟨item, hitem⟩ =>
        have : item.length < text.length :=
          Nat.lt_of_le_of_lt (length_le_of_mem_splitOutside hitem) (length_inside_trim_lt hlist.1)
        parse item)
    else
      match percentList? (trim text) with
      | some value => value
      | none =>
        if hhash : beginsWith ['{'] (trim text) = true ∧ endsWith ['}'] (trim text) = true then
          .hash ((splitOutside ',' (inside (trim text))).attach.filterMap fun ⟨item, hitem⟩ =>
            match hkey : splitKeyword? item with
            | some (key, value) =>
              have : value.length < text.length :=
                Nat.lt_of_le_of_lt
                  (Nat.le_trans (length_splitKeyword?_le hkey)
                    (length_le_of_mem_splitOutside hitem))
                  (length_inside_trim_lt hhash.1)
              some (key, parse value)
            | none => none)
        else if trim text = "true".toList then .bool true
        else if trim text = "false".toList then .bool false
        else if trim text = "nil".toList then .nil
        else .raw (String.ofList (trim text))
termination_by text.length

end ForeignKeyLint.Ruby
