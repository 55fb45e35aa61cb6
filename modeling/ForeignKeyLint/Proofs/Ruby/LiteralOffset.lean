import ForeignKeyLint.Proofs.Ruby.LiteralEnd
import ForeignKeyLint.Proofs.Text.ByteSlice

/-!
The byte at which a literal ends, added up from slices of the whole text. A reader that keeps the text
and a byte offset into it finds the end of a literal by searching the slice behind the opening character
and adding the widths of what it has passed. Main statement: all the slices exist, and the sum is the
place where the literal is split off.
-/

namespace ForeignKeyLint.Ruby

open Text

section Search

/-- The first character, with its byte, at which `step` gives up. A backslash protects the character
after it from the search. -/
def findUnescaped {σ : Type} (step : σ → Char → Option σ) :
    (escaped : Bool) → σ → List (Nat × Char) → Option (Nat × Char)
  | _, _, [] => none
  | true, state, _ :: rest => findUnescaped step false state rest
  | false, state, (offset, c) :: rest =>
    if c = '\\' then findUnescaped step true state rest
    else
      match step state c with
      | some state => findUnescaped step false state rest
      | none => some (offset, c)

/-- The search for a closing quote. -/
def quoteStep (quote : Char) (state : Unit) (c : Char) : Option Unit :=
  if c = quote then none else some state

/-- The search for a closing delimiter; the state is the number of delimiters opened meanwhile. -/
def delimiterStep (opening closing : Char) (depth : Nat) (c : Char) : Option Nat :=
  if c = closing ∧ depth = 0 then none
  else if c = closing then some (depth - 1)
  else if c = opening ∧ opening ≠ closing then some (depth + 1)
  else some depth

/-- The search for the closing slash of a regular expression; the state is whether the search is inside
a character class. -/
def regexStep (inClass : Bool) (c : Char) : Option Bool :=
  if c = '[' then some true
  else if c = ']' then some false
  else if c = '/' ∧ inClass = false then none
  else some inClass

/-- The byte after the character found in the slice that starts at `start`, or `total` if none is. -/
def stopFrom (start total : Nat) : Option (Nat × Char) → Nat
  | some (offset, c) => start + offset + c.utf8Size
  | none => total

theorem stopFrom_add (start total : Nat) (found : Option (Nat × Char)) :
    stopFrom start (start + total) found = start + stopFrom 0 total found := by
  cases found <;> simp [stopFrom, Nat.add_assoc]

variable {σ : Type} {step : σ → Char → Option σ} {state next : σ} {c : Char}

theorem findUnescaped_escape (offset : Nat) (d : Char) (rest : List Char) :
    findUnescaped step false state (charIndicesFrom offset ('\\' :: d :: rest)) =
      findUnescaped step false state
        (charIndicesFrom (offset + ('\\'.utf8Size + d.utf8Size)) rest) := by
  simp only [charIndicesFrom, findUnescaped, if_true, Nat.add_assoc]

theorem findUnescaped_pass (hc : c ≠ '\\') (hstep : step state c = some next) (offset : Nat)
    (rest : List Char) :
    findUnescaped step false state (charIndicesFrom offset (c :: rest)) =
      findUnescaped step false next (charIndicesFrom (offset + c.utf8Size) rest) := by
  simp only [charIndicesFrom, findUnescaped, if_neg hc, hstep]

theorem findUnescaped_stop (hc : c ≠ '\\') (hstep : step state c = none) (offset : Nat)
    (rest : List Char) :
    findUnescaped step false state (charIndicesFrom offset (c :: rest)) = some (offset, c) := by
  simp only [charIndicesFrom, findUnescaped, if_neg hc, hstep]

/-- A search for a quote is one for a delimiter that does not nest. -/
theorem findUnescaped_quote (quote : Char) (escaped : Bool) (characters : List (Nat × Char)) :
    findUnescaped (quoteStep quote) escaped () characters =
      findUnescaped (delimiterStep quote quote) escaped 0 characters := by
  induction characters generalizing escaped with
  | nil => cases escaped <;> rfl
  | cons character rest ih =>
    obtain ⟨offset, c⟩ := character
    cases escaped with
    | true => exact ih false
    | false => by_cases hc : c = quote <;> simp [findUnescaped, quoteStep, delimiterStep, hc, ih]

theorem stopFrom_delimiter (opening closing : Char) (depth offset : Nat) (text : List Char) :
    stopFrom 0 (offset + byteLength text)
        (findUnescaped (delimiterStep opening closing) false depth (charIndicesFrom offset text)) =
      offset + byteLength (splitDelimited opening closing depth text).1 := by
  fun_induction splitDelimited opening closing depth text generalizing offset
  case case1 => rfl
  case case2 depth c rest body after hrest ih =>
    specialize ih (offset + ('\\'.utf8Size + c.utf8Size))
    simp only [hrest, Nat.add_assoc] at ih
    simp only [findUnescaped_escape, byteLength, ih]
  case case3 c rest _ hclosing =>
    have hstep : delimiterStep opening closing 0 c = none := if_pos ⟨hclosing.1, rfl⟩
    rw [findUnescaped_stop hclosing.2 hstep]
    simp [stopFrom, byteLength]
  case case4 c rest _ hclosing depth body after hrest ih =>
    have hstep : delimiterStep opening closing (depth + 1) c = some depth := by
      simp [delimiterStep, hclosing.1]
    specialize ih (offset + c.utf8Size)
    simp only [hrest, Nat.add_assoc] at ih
    simp only [findUnescaped_pass hclosing.2 hstep, byteLength, ih]
  case case5 depth c rest hescape hother deeper body after hrest ih =>
    by_cases hc : c = '\\'
    · -- A backslash at the end of the text protects nothing.
      obtain rfl : rest = [] := by
        cases rest with
        | nil => rfl
        | cons d rest => exact (hescape d rest hc rfl).elim
      obtain ⟨rfl, -⟩ := Prod.mk.inj (hrest : ([], []) = (body, after))
      simp [charIndicesFrom, findUnescaped, hc, stopFrom]
    · have hclosing : c ≠ closing := fun h => hother ⟨h, hc⟩
      have hstep : delimiterStep opening closing depth c = some deeper := by
        by_cases hopening : c = opening
        · subst hopening
          simp [delimiterStep, deeper, hc, hclosing]
        · simp [delimiterStep, deeper, hclosing, hopening]
      specialize ih (offset + c.utf8Size)
      simp only [hrest, Nat.add_assoc] at ih
      simp only [findUnescaped_pass hc hstep, byteLength, ih]

/-- The search found the slash that closes the regular expression `literal`, before its flags; or it
found none, and the expression runs to the end of the text. -/
def FindsSlash (offset : Nat) (text literal : List Char) : Option (Nat × Char) → Prop
  | none => literal = text
  | some (stop, _) => ∃ lead after, text = lead ++ '/' :: after ∧ stop = offset + byteLength lead ∧
      literal = lead ++ '/' :: after.takeWhile Char.isLower

theorem FindsSlash.append {offset : Nat} {text literal : List Char} {found : Option (Nat × Char)}
    (passed : List Char) (h : FindsSlash (offset + byteLength passed) text literal found) :
    FindsSlash offset (passed ++ text) (passed ++ literal) found := by
  cases found with
  | none => exact congrArg (passed ++ ·) h
  | some found =>
    obtain ⟨lead, after, rfl, hstop, rfl⟩ := h
    refine ⟨passed ++ lead, after, ?_, ?_, ?_⟩
    · rw [List.append_assoc]
    · rw [hstop, byteLength_append, Nat.add_assoc]
    · rw [List.append_assoc]

theorem findsSlash_splitRegex (inClass : Bool) (offset : Nat) (text : List Char) :
    FindsSlash offset text (splitRegex inClass text).1
      (findUnescaped regexStep false inClass (charIndicesFrom offset text)) := by
  fun_induction splitRegex inClass text generalizing offset
  case case1 => rfl
  case case2 inClass c rest body after hrest ih =>
    rw [hrest] at ih
    rw [findUnescaped_escape]
    refine .append ['\\', c] ?_
    exact ih _
  case case3 inClass c rest _ hclosing =>
    obtain ⟨rfl, rfl⟩ := hclosing
    exact ⟨[], rest, rfl, rfl, rfl⟩
  case case4 inClass c rest hescape hopen stillInClass body after hrest ih =>
    by_cases hc : c = '\\'
    · -- A backslash at the end of the text protects nothing.
      obtain rfl : rest = [] := by
        cases rest with
        | nil => rfl
        | cons d rest => exact (hescape d rest hc rfl).elim
      obtain ⟨rfl, -⟩ := Prod.mk.inj (hrest : ([], []) = (body, after))
      subst hc
      rfl
    · have hstep : regexStep inClass c = some stillInClass := by
        simp only [regexStep, stillInClass, if_neg hopen]
        split
        · rfl
        · split <;> rfl
      rw [hrest] at ih
      rw [findUnescaped_pass hc hstep]
      refine .append [c] ?_
      exact ih _

end Search

section Ends

/-- The byte after the quote that closes a literal whose body starts at `start`. -/
def quotedEnd? (text : List Char) (start : Nat) (quote : Char) : Option Nat := do
  let body ← fromByte? start text
  return stopFrom start (byteLength text) (findUnescaped (quoteStep quote) false () (charIndices body))

/-- The opening delimiter of a percent literal among the characters after its percent sign. A character
that names the kind of the literal may stand before it. -/
def percentDelimiter? : List (Nat × Char) → Option (Nat × Char)
  | [] => none
  | (_, first) :: rest =>
    let opening := if percentFlavors.contains first then rest.head? else some (0, first)
    opening.filter fun (_, c) => percentOpening?.delimits c

/-- The byte after a percent literal whose percent sign stands at `start`, if it is one. The outer
option tells whether the slices exist. -/
def percentEnd? (text : List Char) (start : Nat) : Option (Option Nat) := do
  let rest ← fromByte? (start + 1) text
  match percentDelimiter? (charIndices rest) with
  | none => return none
  | some (offset, opening) =>
    let inside := start + 1 + offset + opening.utf8Size
    let body ← fromByte? inside text
    let found := findUnescaped (delimiterStep opening (closingDelimiter opening)) false 0 (charIndices body)
    return some (stopFrom inside (byteLength text) found)

/-- The byte after a regular expression whose body starts at `start`, flags included. A flag counts as
one byte. -/
def regexEnd? (text : List Char) (start : Nat) : Option Nat := do
  let body ← fromByte? start text
  match findUnescaped regexStep false false (charIndices body) with
  | none => return byteLength text
  | some (offset, _) =>
    let flags ← fromByte? (start + offset + 1) text
    return start + offset + 1 + (flags.takeWhile Char.isLower).length

/-- The byte after the literal that `c` opens at `offset` in this context, if it opens one. The outer
option tells whether the slices exist. -/
def literalEnd? (text : List Char) (context : Context) (offset : Nat) (c : Char) (next : Option Char) :
    Option (Option Nat) :=
  match c with
  | '"' | '\'' | '\x60' => (quotedEnd? text (offset + 1) c).map some
  | '%' => if context.expectsOperand next then percentEnd? text offset else some none
  | '/' => if context.expectsOperand next then (regexEnd? text (offset + 1)).map some else some none
  | _ => some none

theorem toNat_lt_of_isLower {c : Char} (h : c.isLower = true) : c.toNat < 128 := by
  obtain ⟨-, hupper⟩ := Bool.and_eq_true_iff.mp h
  have hhigh : c.toNat ≤ 122 := of_decide_eq_true hupper
  omega

variable {text rest body : List Char} {start offset : Nat} {c : Char}

theorem quotedEnd?_eq (h : fromByte? start text = some body) (quote : Char) :
    quotedEnd? text start quote = some (start + byteLength (splitDelimited quote quote 0 body).1) := by
  have hstop := stopFrom_delimiter quote quote 0 0 body
  rw [Nat.zero_add, Nat.zero_add] at hstop
  rw [quotedEnd?, h, byteLength_of_fromByte? h]
  simp only [Option.pure_def, Option.bind_eq_bind, Option.bind_some, findUnescaped_quote, charIndices,
    stopFrom_add, hstop]

theorem regexEnd?_eq (h : fromByte? start text = some body) :
    regexEnd? text start = some (start + byteLength (splitRegex false body).1) := by
  have hfound := findsSlash_splitRegex false 0 body
  rw [regexEnd?, h]
  simp only [Option.pure_def, Option.bind_eq_bind, Option.bind_some, charIndices]
  cases hsearch : findUnescaped regexStep false false (charIndicesFrom 0 body) with
  | none =>
    rw [hsearch] at hfound
    have hwhole : (splitRegex false body).1 = body := hfound
    simp only [hwhole, byteLength_of_fromByte? h]
  | some found =>
    rw [hsearch] at hfound
    obtain ⟨lead, after, rfl, hoffset, hliteral⟩ := hfound
    rw [Nat.zero_add] at hoffset
    have hslash : '/'.utf8Size = 1 := rfl
    have hflags : fromByte? (start + byteLength lead + 1) text = some after :=
      fromByte?_cons (fromByte?_add h)
    have hwidth : byteLength (after.takeWhile Char.isLower) = (after.takeWhile Char.isLower).length :=
      byteLength_eq_length fun c hc => toNat_lt_of_isLower (List.mem_takeWhile_imp hc)
    simp only [hflags, Option.bind_some, hliteral, byteLength_append, byteLength, hwidth, hoffset, hslash,
      Option.some.injEq]
    omega

/-- The delimiter among the characters after a percent sign is the one at which the text is divided. -/
theorem percentDelimiter?_eq (text : List Char) :
    percentDelimiter? (charIndices text) = (percentOpening? text).map fun (head, opening, _) =>
      (byteLength head.dropLast, opening) := by
  match text with
  | [] => rfl
  | [first] =>
    by_cases hflavor : first ∈ percentFlavors <;>
      by_cases hdelimits : percentOpening?.delimits first = true <;>
        simp [percentDelimiter?, charIndices, charIndicesFrom, percentOpening?, hflavor, hdelimits,
          byteLength]
  | first :: opening :: body =>
    by_cases hflavor : first ∈ percentFlavors
    · by_cases hdelimits : percentOpening?.delimits opening = true <;>
        simp [percentDelimiter?, charIndices, charIndicesFrom, percentOpening?, hflavor, hdelimits,
          byteLength]
    · by_cases hdelimits : percentOpening?.delimits first = true <;>
        simp [percentDelimiter?, charIndices, charIndicesFrom, percentOpening?, hflavor, hdelimits,
          byteLength]

theorem dropLast_append_of_percentOpening? {text head body : List Char} {opening : Char}
    (h : percentOpening? text = some (head, opening, body)) : head.dropLast ++ [opening] = head := by
  cases text with
  | nil => contradiction
  | cons first rest =>
    unfold percentOpening? at h
    grind

theorem percentEnd?_eq (h : fromByte? (start + 1) text = some rest) :
    percentEnd? text start =
      some ((splitPercent? rest).map fun (literal, _) => start + 1 + byteLength literal) := by
  rw [percentEnd?, h, splitPercent?]
  simp only [Option.pure_def, Option.bind_eq_bind, Option.bind_some, percentDelimiter?_eq]
  cases hopening : percentOpening? rest with
  | none => rfl
  | some found =>
    obtain ⟨head, opening, body⟩ := found
    have hhead := congrArg byteLength (dropLast_append_of_percentOpening? hopening)
    obtain rfl := percentOpening?_append hopening
    have hstart : start + 1 + byteLength head.dropLast + opening.utf8Size =
        start + 1 + byteLength head := by
      rw [← hhead, byteLength_append]
      simp only [byteLength]
      omega
    have hbody : fromByte? (start + 1 + byteLength head) text = some body := fromByte?_add h
    have hstop := stopFrom_delimiter opening (closingDelimiter opening) 0 0 body
    rw [Nat.zero_add, Nat.zero_add] at hstop
    simp only [Option.map_some, hstart, hbody, Option.bind_some, charIndices,
      byteLength_of_fromByte? hbody, stopFrom_add, hstop, byteLength_append]
    rw [Nat.add_assoc]

/-- Where a literal ends, by bytes, is where it is split off. -/
theorem literalEnd?_eq (h : fromByte? offset text = some (c :: rest)) (context : Context) :
    literalEnd? text context offset c rest.head? =
      some ((splitLiteral? context c rest).map fun (literal, _) =>
        offset + c.utf8Size + byteLength literal) := by
  have hrest := fromByte?_cons h
  unfold literalEnd?
  split
  · exact congrArg (Option.map some) (quotedEnd?_eq hrest '"')
  · exact congrArg (Option.map some) (quotedEnd?_eq hrest '\'')
  · exact congrArg (Option.map some) (quotedEnd?_eq hrest '\x60')
  · by_cases hdue : context.expectsOperand rest.head? = true
    · have hliteral : splitLiteral? context '%' rest = splitPercent? rest := if_pos hdue
      rw [if_pos hdue, hliteral]
      exact percentEnd?_eq hrest
    · have hliteral : splitLiteral? context '%' rest = none := if_neg hdue
      rw [if_neg hdue, hliteral, Option.map_none]
  · by_cases hdue : context.expectsOperand rest.head? = true
    · have hliteral : splitLiteral? context '/' rest = some (splitRegex false rest) := if_pos hdue
      rw [if_pos hdue, hliteral]
      exact congrArg (Option.map some) (regexEnd?_eq hrest)
    · have hliteral : splitLiteral? context '/' rest = none := if_neg hdue
      rw [if_neg hdue, hliteral, Option.map_none]
  · have hliteral : splitLiteral? context c rest = none := by
      unfold splitLiteral?
      split <;> first | contradiction | rfl
    rw [hliteral, Option.map_none]

/-- The delimiters take three bytes each. -/
example : literalEnd? "%€x€ y".toList {} 0 '%' (some '€') = some (some 8) := by decide +kernel

end Ends

end ForeignKeyLint.Ruby
