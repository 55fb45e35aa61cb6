import ForeignKeyLint.Ruby.Literal
import ForeignKeyLint.Text.Bytes

/-!
The code characters of a source text, that is, the characters outside its literals. Removing
comments, joining lines and dividing arguments all look at code characters only. A walk visits
them from left to right, and at each visit a caller may let it proceed, send it to a later byte,
or end it. Main statement: the walk ends, because the text after a literal or a jump is a suffix
of the text before it.
-/

namespace ForeignKeyLint.Ruby

open Text

/-- A code character with its byte offset and the text after it. -/
structure Visit where
  offset : Nat
  char : Char
  rest : List Char
deriving Repr, DecidableEq

/-- The text before the visited character, when the visit is one of `text`. -/
def Visit.before (visit : Visit) (text : List Char) : List Char :=
  text.take (text.length - visit.rest.length - 1)

/-- What follows a visit. -/
inductive Flow where
  | proceed
  /-- Resume at this byte offset of the text, or after the visited character if that is later. -/
  | resumeAt (offset : Nat)
  | stop
deriving Repr, DecidableEq

/-- What precedes a position: the character right before it, and the last one that is not blank. -/
structure Context where
  last : Option Char := none
  lastCode : Option Char := none
deriving Repr, DecidableEq

namespace Context

/-- The context after a skipped span, which reads as a value. -/
def value : Context :=
  { last := some '"', lastCode := some '"' }

def push (context : Context) (c : Char) : Context :=
  { last := some c, lastCode := if isBlank c then context.lastCode else some c }

/-- The characters after which an operand is due. -/
def operators : List Char :=
  "([\x7b,=!&|:;?~<>+-*%^".toList

/-- A percent sign or slash before `next` starts a literal and is no operator: at the start, after
an operator or opening bracket, or as the first argument of a call without parentheses. -/
def expectsOperand (context : Context) (next : Option Char) : Bool :=
  match context.lastCode with
  | none => true
  | some code =>
    operators.contains code ||
      ((isAlphanumeric code || code == '_') && context.last.any isBlank &&
        next.any fun c => !isBlank c && c != '=')

end Context

/-- Splits `rest` after the literal that `c` opens in this context, if it opens one. -/
def splitLiteral? (context : Context) (c : Char) (rest : List Char) :
    Option (List Char × List Char) :=
  match c with
  | '"' | '\'' | '\x60' => some (splitDelimited c c 0 rest)
  | '%' => if context.expectsOperand rest.head? then splitPercent? rest else none
  | '/' => if context.expectsOperand rest.head? then some (splitRegex false rest) else none
  | _ => none

theorem splitLiteral?_append {context : Context} {c : Char} {rest literal after : List Char}
    (h : splitLiteral? context c rest = some (literal, after)) : literal ++ after = rest := by
  unfold splitLiteral? at h
  split at h
  · have := splitDelimited_append '"' '"' 0 rest; simp_all
  · have := splitDelimited_append '\'' '\'' 0 rest; simp_all
  · have := splitDelimited_append '\x60' '\x60' 0 rest; simp_all
  · split at h
    · exact splitPercent?_append h
    · simp at h
  · split at h
    · have := splitRegex_append false rest; simp_all
    · simp at h
  · simp at h

theorem length_after_literal_le {context : Context} {c : Char} {rest literal after : List Char}
    (h : splitLiteral? context c rest = some (literal, after)) : after.length ≤ rest.length := by
  simp [← splitLiteral?_append h]

/-- The visits of a walk over a text that starts at byte `offset` in this context. -/
def walkFrom (flow : Visit → Flow) (context : Context) (offset : Nat) : List Char → List Visit
  | [] => []
  | c :: rest =>
    match h : splitLiteral? context c rest with
    | some (literal, after) =>
      have : after.length ≤ rest.length := length_after_literal_le h
      walkFrom flow .value (offset + c.utf8Size + byteLength literal) after
    | none =>
      { offset, char := c, rest } ::
        match flow { offset, char := c, rest } with
        | .proceed => walkFrom flow (context.push c) (offset + c.utf8Size) rest
        | .resumeAt target =>
          match hjump : splitAtByte (offset + c.utf8Size) target rest with
          | (skipped, after) =>
            have : after.length ≤ rest.length := by
              simpa [hjump] using length_splitAtByte_le (offset + c.utf8Size) target rest
            walkFrom flow .value (offset + c.utf8Size + byteLength skipped) after
        | .stop => []
termination_by text => text.length
decreasing_by all_goals simp only [List.length_cons]; omega

def walk (flow : Visit → Flow) (text : List Char) : List Visit :=
  walkFrom flow {} 0 text

/-- All code characters of a text. -/
def code (text : List Char) : List Visit :=
  walk (fun _ => .proceed) text

/-- How a character changes the number of open brackets. -/
def bracketStep (c : Char) : Int :=
  match c with
  | '(' | '[' | '{' => 1
  | ')' | ']' | '}' => -1
  | _ => 0

/-- The number of open brackets less the number of closing ones, literals aside. -/
def bracketDepth (text : List Char) : Int :=
  (code text).foldr (fun visit depth => bracketStep visit.char + depth) 0

/-- The visits of `separator` outside brackets, when `depth` brackets are open at the start. -/
def separatorsFrom (separator : Char) : (depth : Int) → List Visit → List Visit
  | _, [] => []
  | depth, visit :: visits =>
    let step := bracketStep visit.char
    let others := separatorsFrom separator (depth + step) visits
    if visit.char = separator ∧ step = 0 ∧ depth = 0 then visit :: others else others

/-- The parts of a text before, between and after the visited characters. -/
def segments (text : List Char) : List Visit → List (List Char)
  | [] => [text]
  | cut :: cuts => cut.before text :: segments cut.rest cuts

/-- The parts of a text between the separators outside literals and brackets, trimmed, and
without those that are empty then. -/
def splitOutside (separator : Char) (text : List Char) : List (List Char) :=
  ((segments text (separatorsFrom separator 0 (code text))).map trim).filter (!·.isEmpty)

theorem length_rest_lt_of_mem_walkFrom (flow : Visit → Flow) (context : Context) (offset : Nat)
    (text : List Char) (visit : Visit) (h : visit ∈ walkFrom flow context offset text) :
    visit.rest.length < text.length := by
  fun_induction walkFrom flow context offset text with
  | case1 => simp at h
  | case2 => grind
  | case3 context offset c rest _ proceeded jumped =>
    rcases List.mem_cons.mp h with rfl | h
    · simp
    · split at h
      · exact Nat.lt_succ_of_lt (proceeded h)
      · next target _ =>
        have := jumped target _ _ rfl h
        have := length_splitAtByte_le (offset + c.utf8Size) target rest
        simp only [List.length_cons]
        omega
      · simp at h

theorem mem_of_mem_separatorsFrom {separator : Char} {depth : Int} {visits : List Visit}
    {visit : Visit} (h : visit ∈ separatorsFrom separator depth visits) : visit ∈ visits := by
  fun_induction separatorsFrom separator depth visits <;> grind

theorem length_le_of_mem_segments {text part : List Char} {cuts : List Visit} {bound : Nat}
    (htext : text.length ≤ bound) (hcuts : ∀ cut ∈ cuts, cut.rest.length ≤ bound)
    (hpart : part ∈ segments text cuts) : part.length ≤ bound := by
  induction cuts generalizing text with
  | nil => simp_all [segments]
  | cons cut cuts ih =>
    simp only [segments, List.mem_cons] at hpart
    rcases hpart with rfl | hpart
    · simp only [Visit.before, List.length_take]; omega
    · exact ih (hcuts cut (by simp)) (fun c hc => hcuts c (by simp [hc])) hpart

/-- A part is no longer than the text it is cut from. -/
theorem length_le_of_mem_splitOutside {separator : Char} {text part : List Char}
    (h : part ∈ splitOutside separator text) : part.length ≤ text.length := by
  simp only [splitOutside, List.mem_filter, List.mem_map] at h
  obtain ⟨⟨segment, hsegment, rfl⟩, _⟩ := h
  refine Nat.le_trans (length_trim_le segment) (length_le_of_mem_segments (Nat.le_refl _) ?_ hsegment)
  intro cut hcut
  exact Nat.le_of_lt (length_rest_lt_of_mem_walkFrom _ _ _ _ _ (mem_of_mem_separatorsFrom hcut))

end ForeignKeyLint.Ruby
