import ForeignKeyLint.Text.Alphanumeric
import ForeignKeyLint.Text.Blank

/-!
Literals of Ruby source: strings, backtick commands, percent literals and regular expressions.
A function here takes the text after the character that opens a literal and splits it into the
remainder of the literal and the text after it. A literal that is never closed runs to the end of
the text. Main statement: a split loses nothing, so the text after a literal is always a suffix.
-/

namespace ForeignKeyLint.Ruby

open Text

/-- Splits after the `closing` delimiter that matches an opening one already read. `depth` counts
the `opening` delimiters read since then, and a backslash protects the next character. -/
def splitDelimited (opening closing : Char) : (depth : Nat) → List Char → List Char × List Char
  | _, [] => ([], [])
  | depth, '\\' :: c :: rest =>
    let (body, after) := splitDelimited opening closing depth rest
    ('\\' :: c :: body, after)
  | depth, c :: rest =>
    if c = closing ∧ c ≠ '\\' then
      match depth with
      | 0 => ([c], rest)
      | depth + 1 =>
        let (body, after) := splitDelimited opening closing depth rest
        (c :: body, after)
    else
      let deeper := if c = opening ∧ c ≠ '\\' then depth + 1 else depth
      let (body, after) := splitDelimited opening closing deeper rest
      (c :: body, after)

/-- Splits after a regular expression and its flags. A slash inside a character class does not
end it. -/
def splitRegex : (inClass : Bool) → List Char → List Char × List Char
  | _, [] => ([], [])
  | inClass, '\\' :: c :: rest =>
    let (body, after) := splitRegex inClass rest
    ('\\' :: c :: body, after)
  | inClass, c :: rest =>
    if c = '/' ∧ inClass = false then
      (c :: rest.takeWhile Char.isLower, rest.dropWhile Char.isLower)
    else
      let stillInClass := if c = '[' then true else if c = ']' then false else inClass
      let (body, after) := splitRegex stillInClass rest
      (c :: body, after)

/-- The letters that may stand between the percent sign and the delimiter. -/
def percentFlavors : List Char :=
  "qQwWiIrsx".toList

/-- The delimiter that closes what `opening` opens. -/
def closingDelimiter (opening : Char) : Char :=
  match opening with
  | '(' => ')'
  | '[' => ']'
  | '{' => '}'
  | '<' => '>'
  | other => other

/-- The text after a percent sign, divided at the opening delimiter: what stands up to it, the
delimiter, and what follows. A letter, a digit, a blank or an equals sign delimits nothing. -/
def percentOpening? : List Char → Option (List Char × Char × List Char)
  | [] => none
  | first :: rest =>
    if percentFlavors.contains first then
      match rest with
      | [] => none
      | opening :: body => if delimits opening then some ([first, opening], opening, body) else none
    else if delimits first then some ([first], first, rest)
    else none
where
  /-- Characters that may open a percent literal. -/
  delimits (c : Char) : Bool :=
    !(isAlphanumeric c || isBlank c || c == '=')

/-- Splits after the percent literal whose percent sign has been read, if there is one. -/
def splitPercent? (text : List Char) : Option (List Char × List Char) :=
  (percentOpening? text).map fun (head, opening, body) =>
    let (inner, after) := splitDelimited opening (closingDelimiter opening) 0 body
    (head ++ inner, after)

theorem splitDelimited_append (opening closing : Char) (depth : Nat) (text : List Char) :
    (splitDelimited opening closing depth text).1 ++ (splitDelimited opening closing depth text).2 =
      text := by
  fun_induction splitDelimited opening closing depth text <;> simp_all

theorem splitRegex_append (inClass : Bool) (text : List Char) :
    (splitRegex inClass text).1 ++ (splitRegex inClass text).2 = text := by
  fun_induction splitRegex inClass text <;> simp_all

theorem percentOpening?_append {text head body : List Char} {opening : Char}
    (h : percentOpening? text = some (head, opening, body)) : head ++ body = text := by
  unfold percentOpening? at h
  grind

theorem splitPercent?_append {text literal after : List Char}
    (h : splitPercent? text = some (literal, after)) : literal ++ after = text := by
  simp only [splitPercent?, Option.map_eq_some_iff, Prod.mk.injEq, Prod.exists] at h
  obtain ⟨head, opening, body, hopen, rfl, rfl⟩ := h
  rw [List.append_assoc, splitDelimited_append]
  exact percentOpening?_append hopen

end ForeignKeyLint.Ruby
