import ForeignKeyLint.Proofs.Ruby.LiteralEnd

/-!
Where a walk stands. A walk that proceeds at every code character comes to stand before each part of a
text that no earlier literal reaches into. Main statements: what it has visited by then does not depend
on what follows, but for the next character, and the characters that it visits are those before which it
comes to stand and that open no literal.

The characters that follow are kept in the judgment that a walk comes to stand somewhere, because they
decide with the earlier ones whether a percent sign or a slash opens a literal and where a literal ends.
-/

namespace ForeignKeyLint.Ruby

open Text

section Walk

variable {flow : Visit → Flow} {context : Context} {offset : Nat} {c : Char}
  {rest literal after : List Char}

theorem walkFrom_of_literal (h : splitLiteral? context c rest = some (literal, after)) :
    walkFrom flow context offset (c :: rest) =
      walkFrom flow .value (offset + c.utf8Size + byteLength literal) after := by
  rw [walkFrom]
  split <;> simp_all

theorem walkFrom_of_code (h : splitLiteral? context c rest = none) :
    walkFrom flow context offset (c :: rest) =
      { offset, char := c, rest } ::
        match flow { offset, char := c, rest } with
        | .proceed => walkFrom flow (context.push c) (offset + c.utf8Size) rest
        | .resumeAt target =>
          walkFrom flow .value
            (offset + c.utf8Size + byteLength (splitAtByte (offset + c.utf8Size) target rest).1)
            (splitAtByte (offset + c.utf8Size) target rest).2
        | .stop => [] := by
  rw [walkFrom]
  split
  · simp_all
  · rfl

/-- All code characters of a text that starts at byte `offset` in this context. -/
def codeFrom (context : Context) (offset : Nat) (text : List Char) : List Visit :=
  walkFrom (fun _ => .proceed) context offset text

@[simp]
theorem codeFrom_nil (context : Context) (offset : Nat) : codeFrom context offset [] = [] := by
  rw [codeFrom, walkFrom]

theorem codeFrom_of_literal (offset : Nat)
    (h : splitLiteral? context c rest = some (literal, after)) :
    codeFrom context offset (c :: rest) =
      codeFrom .value (offset + c.utf8Size + byteLength literal) after :=
  walkFrom_of_literal h

theorem codeFrom_of_code (offset : Nat) (h : splitLiteral? context c rest = none) :
    codeFrom context offset (c :: rest) =
      { offset, char := c, rest } :: codeFrom (context.push c) (offset + c.utf8Size) rest :=
  walkFrom_of_code h

/-- Induction along a walk that proceeds at every code character. -/
theorem along_code {motive : Context → List Char → Prop} (nil : ∀ context, motive context [])
    (literal : ∀ context c rest literal after,
      splitLiteral? context c rest = some (literal, after) → motive .value after →
        motive context (c :: rest))
    (code : ∀ context c rest, splitLiteral? context c rest = none →
      motive (context.push c) rest → motive context (c :: rest))
    (context : Context) (text : List Char) : motive context text := by
  match text with
  | [] => exact nil context
  | c :: rest =>
    match h : splitLiteral? context c rest with
    | none => exact code context c rest h (along_code nil literal code (context.push c) rest)
    | some (body, after) =>
      have := length_after_literal_le h
      exact literal context c rest body after h (along_code nil literal code .value after)
termination_by text.length

/-- The visit, that many bytes further on. -/
def Visit.later (shift : Nat) (visit : Visit) : Visit :=
  { visit with offset := visit.offset + shift }

theorem codeFrom_add (shift : Nat) (context : Context) (offset : Nat) (text : List Char) :
    codeFrom context (offset + shift) text =
      (codeFrom context offset text).map (Visit.later shift) := by
  induction context, text using along_code generalizing offset with
  | nil => simp
  | literal context c rest literal after h ih =>
    have hoffset : offset + shift + c.utf8Size + byteLength literal =
        offset + c.utf8Size + byteLength literal + shift := by omega
    rw [codeFrom_of_literal _ h, codeFrom_of_literal _ h, hoffset, ih]
  | code context c rest h ih =>
    have hoffset : offset + shift + c.utf8Size = offset + c.utf8Size + shift := by omega
    rw [codeFrom_of_code _ h, codeFrom_of_code _ h, hoffset, ih, List.map_cons]
    rfl

end Walk

/-- A walk that stands in `context` before `lead ++ rest` comes to stand before `rest`, outside of
literals, in the context `next`. -/
inductive Reaches (rest : List Char) : (context : Context) → (lead : List Char) → (next : Context) →
    Prop where
  | here {context : Context} : Reaches rest context [] context
  | literal {context next : Context} {c : Char} {literal more : List Char}
    (hliteral : splitLiteral? context c (literal ++ (more ++ rest)) = some (literal, more ++ rest))
    (hmore : Reaches rest .value more next) : Reaches rest context (c :: (literal ++ more)) next
  | code {context next : Context} {c : Char} {more : List Char}
    (hcode : splitLiteral? context c (more ++ rest) = none)
    (hmore : Reaches rest (context.push c) more next) : Reaches rest context (c :: more) next

/-- The visit of a text, when `rest` follows that text. -/
def Visit.onto (rest : List Char) (visit : Visit) : Visit :=
  { visit with rest := visit.rest ++ rest }

namespace Reaches

variable {context next : Context} {lead rest other : List Char}

/-- What a walk has passed does not depend on what follows, if it goes on in the same way or ends. -/
theorem of_keepsHead (h : Reaches rest context lead next) (hother : KeepsHead rest other) :
    Reaches other context lead next := by
  induction h with
  | here => exact .here
  | literal hliteral _ ih => exact .literal (splitLiteral?_of_keepsHead hother hliteral) ih
  | code hcode _ ih => exact .code (splitLiteral?_eq_none_of_keepsHead hother hcode) ih

/-- A walk that comes to stand before `rest` has visited what the text before it holds, and goes on
from there. -/
theorem codeFrom_append (h : Reaches rest context lead next) (offset : Nat) :
    codeFrom context offset (lead ++ rest) =
      (codeFrom context offset lead).map (Visit.onto rest) ++
        codeFrom next (offset + byteLength lead) rest := by
  induction h generalizing offset with
  | here => simp [byteLength]
  | @literal context next c literal more hliteral hmore ih =>
    have halone := splitLiteral?_of_keepsHead (keepsHead_nil rest) hliteral
    rw [List.append_nil] at halone
    rw [List.cons_append, List.append_assoc, codeFrom_of_literal _ hliteral,
      codeFrom_of_literal _ halone, ih, byteLength, byteLength_append]
    simp only [Nat.add_assoc]
  | @code context next c more hcode hmore ih =>
    have halone := splitLiteral?_eq_none_of_keepsHead (keepsHead_nil rest) hcode
    rw [List.append_nil] at halone
    rw [List.cons_append, codeFrom_of_code _ hcode, codeFrom_of_code _ halone, ih, byteLength]
    simp only [Nat.add_assoc, List.map_cons, List.cons_append]
    rfl

end Reaches

/-- The place of a visit in a walk: the walk comes to stand before it, and it opens no literal. What is
visited before is what the text up to there holds, and what is visited later is what follows. -/
structure Visited (context : Context) (offset : Nat) (text : List Char) (earlier : List Visit)
    (visit : Visit) (later : List Visit) (lead : List Char) (next : Context) : Prop where
  split : text = lead ++ visit.char :: visit.rest
  reaches : Reaches (visit.char :: visit.rest) context lead next
  code : splitLiteral? next visit.char visit.rest = none
  offset_eq : visit.offset = offset + byteLength lead
  earlier_eq : earlier = (codeFrom context offset lead).map (Visit.onto (visit.char :: visit.rest))
  later_eq : later = codeFrom (next.push visit.char) (visit.offset + visit.char.utf8Size) visit.rest

theorem exists_visited {context : Context} {offset : Nat} {text : List Char}
    {earlier later : List Visit} {visit : Visit}
    (h : codeFrom context offset text = earlier ++ visit :: later) :
    ∃ lead next, Visited context offset text earlier visit later lead next := by
  induction context, text using along_code generalizing offset earlier with
  | nil => simp at h
  | literal context c rest literal after hliteral ih =>
    rw [codeFrom_of_literal _ hliteral] at h
    obtain ⟨lead, next, hvisited⟩ := ih h
    obtain rfl := splitLiteral?_append hliteral
    obtain ⟨rfl, hreaches, hcode, hoffset, rfl, hlater⟩ := hvisited
    have halone := splitLiteral?_of_keepsHead (keepsHead_nil _) hliteral
    rw [List.append_nil] at halone
    refine ⟨c :: (literal ++ lead), next, ?_, .literal hliteral hreaches, hcode, ?_, ?_, hlater⟩
    · simp
    · simp only [hoffset, byteLength, byteLength_append]
      omega
    · rw [codeFrom_of_literal _ halone]
  | code context c rest hcode ih =>
    rw [codeFrom_of_code _ hcode] at h
    cases earlier with
    | nil =>
      obtain ⟨rfl, rfl⟩ := List.cons.inj h
      exact ⟨[], context, rfl, .here, hcode, rfl, by simp, rfl⟩
    | cons first earlier =>
      obtain ⟨rfl, htail⟩ := List.cons.inj h
      obtain ⟨lead, next, rfl, hreaches, hopen, hoffset, rfl, hlater⟩ := ih htail
      have halone := splitLiteral?_eq_none_of_keepsHead (keepsHead_nil _) hcode
      rw [List.append_nil] at halone
      refine ⟨c :: lead, next, rfl, .code hcode hreaches, hopen, ?_, ?_, hlater⟩
      · simp only [hoffset, byteLength]
        omega
      · rw [codeFrom_of_code _ halone]
        rfl

/-- A walk visits the characters before which it comes to stand and that open no literal. -/
theorem mem_code_iff {text : List Char} {visit : Visit} :
    visit ∈ code text ↔ ∃ lead context, text = lead ++ visit.char :: visit.rest ∧
      Reaches (visit.char :: visit.rest) {} lead context ∧
      splitLiteral? context visit.char visit.rest = none ∧ visit.offset = byteLength lead := by
  constructor
  · intro h
    obtain ⟨earlier, later, hsplit⟩ := List.append_of_mem h
    obtain ⟨lead, context, hvisited⟩ := exists_visited hsplit
    refine ⟨lead, context, hvisited.split, hvisited.reaches, hvisited.code, ?_⟩
    rw [hvisited.offset_eq, Nat.zero_add]
  · rintro ⟨lead, context, rfl, hreaches, hcode, hoffset⟩
    have hvisit : { offset := 0 + byteLength lead, char := visit.char, rest := visit.rest } = visit := by
      rw [Nat.zero_add, ← hoffset]
    change visit ∈ codeFrom {} 0 (lead ++ visit.char :: visit.rest)
    rw [hreaches.codeFrom_append, codeFrom_of_code _ hcode, hvisit]
    simp

end ForeignKeyLint.Ruby
