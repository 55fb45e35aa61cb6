/-!
Searching in a text: its ends, the first place where a pattern stands, and the parts around it.
-/

namespace ForeignKeyLint.Text

/-- The text begins with `pattern`. -/
def beginsWith (pattern text : List Char) : Bool :=
  pattern.isPrefixOf text

/-- The text ends with `pattern`. -/
def endsWith (pattern text : List Char) : Bool :=
  pattern.isSuffixOf text

/-- The text after `pattern`, if it begins with it. -/
def afterPrefix? : (pattern text : List Char) → Option (List Char)
  | [], text => some text
  | _ :: _, [] => none
  | p :: pattern, c :: text => if p = c then afterPrefix? pattern text else none

/-- The text before `pattern`, if it ends with it. -/
def beforeSuffix? (pattern text : List Char) : Option (List Char) :=
  if endsWith pattern text then some (text.take (text.length - pattern.length)) else none

/-- The parts before and after the first place where `pattern` stands. -/
def splitAtFirst? (pattern : List Char) : List Char → Option (List Char × List Char)
  | [] => (afterPrefix? pattern []).map ([], ·)
  | c :: text =>
    match afterPrefix? pattern (c :: text) with
    | some after => some ([], after)
    | none => (splitAtFirst? pattern text).map fun (before, after) => (c :: before, after)

/-- `pattern` stands somewhere in the text. -/
def includes (pattern text : List Char) : Bool :=
  (splitAtFirst? pattern text).isSome

/-- The parts between the characters equal to `separator`; there is one more part than
separators. -/
def splitOn (separator : Char) : List Char → List (List Char)
  | [] => [[]]
  | c :: text =>
    if c = separator then [] :: splitOn separator text
    else
      match splitOn separator text with
      | [] => [[c]]
      | part :: others => (c :: part) :: others

theorem afterPrefix?_eq_some_iff (pattern text after : List Char) :
    afterPrefix? pattern text = some after ↔ text = pattern ++ after := by
  induction pattern generalizing text with
  | nil => simp [afterPrefix?]
  | cons p pattern ih =>
    cases text with
    | nil => simp [afterPrefix?]
    | cons c text =>
      by_cases h : p = c
      · simp [afterPrefix?, h, ih]
      · simp [afterPrefix?, h, Ne.symm h]

/-- Nothing of the text is lost around the pattern. -/
theorem eq_append_of_splitAtFirst? {pattern text before after : List Char}
    (h : splitAtFirst? pattern text = some (before, after)) :
    text = before ++ pattern ++ after := by
  induction text generalizing before with
  | nil =>
    simp only [splitAtFirst?, Option.map_eq_some_iff, Prod.mk.injEq] at h
    obtain ⟨rest, hrest, rfl, rfl⟩ := h
    simpa using (afterPrefix?_eq_some_iff _ _ _).mp hrest
  | cons c text ih =>
    simp only [splitAtFirst?] at h
    split at h
    · next rest hrest =>
      simp only [Option.some.injEq, Prod.mk.injEq] at h
      obtain ⟨rfl, rfl⟩ := h
      simpa using (afterPrefix?_eq_some_iff _ _ _).mp hrest
    · simp only [Option.map_eq_some_iff, Prod.mk.injEq] at h
      obtain ⟨⟨start, rest⟩, hsplit, rfl, rfl⟩ := h
      simp [ih hsplit]

end ForeignKeyLint.Text
