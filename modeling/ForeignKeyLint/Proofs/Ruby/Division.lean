import ForeignKeyLint.Proofs.Ruby.Quotation
import ForeignKeyLint.Proofs.Ruby.Reach

/-!
The division of a text at the separators outside literals and brackets. Main statement: the segments
joined by the separator are the text, the separators between them are those that a walk visits outside
brackets, and a part that is divided again on its own stays in one piece.

The last of these is not for every separator. A part is read again at the start of a text, where an
operand is due, and a comma or a semicolon is an operator, after which an operand is due as well. Blanks
that are trimmed off a part open no literal and close none.
-/

namespace ForeignKeyLint.Ruby

open Text

/-- The opening brackets among the visits less the closing ones. -/
def balance (visits : List Visit) : Int :=
  visits.foldr (fun visit depth => bracketStep visit.char + depth) 0

@[simp]
theorem balance_nil : balance [] = 0 := rfl

@[simp]
theorem balance_cons (visit : Visit) (visits : List Visit) :
    balance (visit :: visits) = bracketStep visit.char + balance visits := rfl

theorem balance_append (first second : List Visit) :
    balance (first ++ second) = balance first + balance second := by
  induction first with
  | nil => simp
  | cons visit first ih => simp [ih, Int.add_assoc]

theorem balance_map (move : Visit → Visit) (hmove : ∀ visit, (move visit).char = visit.char)
    (visits : List Visit) : balance (visits.map move) = balance visits := by
  induction visits with
  | nil => rfl
  | cons visit visits ih => rw [List.map_cons, balance_cons, balance_cons, hmove, ih]

theorem balance_map_onto (rest : List Char) (visits : List Visit) :
    balance (visits.map (Visit.onto rest)) = balance visits :=
  balance_map (Visit.onto rest) (fun _ => rfl) visits

theorem balance_map_later (shift : Nat) (visits : List Visit) :
    balance (visits.map (Visit.later shift)) = balance visits :=
  balance_map (Visit.later shift) (fun _ => rfl) visits

section Separators

variable {separator : Char} {depth : Int} {visits : List Visit}

theorem separatorsFrom_of_cut {visit : Visit} (hchar : visit.char = separator)
    (hstep : bracketStep separator = 0) (visits : List Visit) :
    separatorsFrom separator 0 (visit :: visits) = visit :: separatorsFrom separator 0 visits := by
  subst hchar
  simp [separatorsFrom, hstep]

theorem separatorsFrom_of_kept {visit : Visit}
    (h : ¬(visit.char = separator ∧ bracketStep separator = 0 ∧ depth = 0)) (visits : List Visit) :
    separatorsFrom separator depth (visit :: visits) =
      separatorsFrom separator (depth + bracketStep visit.char) visits := by
  rw [separatorsFrom, if_neg]
  rintro ⟨rfl, hcut⟩
  exact h ⟨rfl, hcut⟩

theorem mem_separatorsFrom_iff {visit : Visit} :
    visit ∈ separatorsFrom separator depth visits ↔
      visit.char = separator ∧ bracketStep separator = 0 ∧
        ∃ earlier later, visits = earlier ++ visit :: later ∧ depth + balance earlier = 0 := by
  induction visits generalizing depth with
  | nil => simp [separatorsFrom]
  | cons first visits ih =>
    have hcons : (∃ earlier later, first :: visits = earlier ++ visit :: later ∧
          depth + balance earlier = 0) ↔ first = visit ∧ depth = 0 ∨
        ∃ earlier later, visits = earlier ++ visit :: later ∧
          depth + bracketStep first.char + balance earlier = 0 := by
      constructor
      · rintro ⟨earlier, later, hsplit, hdepth⟩
        cases earlier with
        | nil => exact .inl ⟨(List.cons.inj hsplit).1, by simpa using hdepth⟩
        | cons other earlier =>
          obtain ⟨rfl, rfl⟩ := List.cons.inj hsplit
          exact .inr ⟨earlier, later, rfl, by rw [Int.add_assoc]; exact hdepth⟩
      · rintro (⟨rfl, rfl⟩ | ⟨earlier, later, rfl, hdepth⟩)
        · exact ⟨[], visits, rfl, rfl⟩
        · exact ⟨first :: earlier, later, rfl, by rw [balance_cons, ← Int.add_assoc]; exact hdepth⟩
    rw [hcons]
    by_cases hcut : first.char = separator ∧ bracketStep separator = 0 ∧ depth = 0
    · obtain ⟨hchar, hstep, rfl⟩ := hcut
      have hsame : (0 : Int) + bracketStep first.char = 0 := by rw [hchar, hstep]; rfl
      rw [separatorsFrom_of_cut hchar hstep, List.mem_cons, ih, hsame]
      constructor
      · rintro (rfl | ⟨hvisit, -, hlater⟩)
        · exact ⟨hchar, hstep, .inl ⟨rfl, rfl⟩⟩
        · exact ⟨hvisit, hstep, .inr hlater⟩
      · rintro ⟨hvisit, -, ⟨rfl, -⟩ | hlater⟩
        · exact .inl rfl
        · exact .inr ⟨hvisit, hstep, hlater⟩
    · rw [separatorsFrom_of_kept hcut, ih]
      refine and_congr_right fun hvisit => and_congr_right fun hstep => ?_
      refine ⟨.inr, ?_⟩
      rintro (⟨rfl, hdepth⟩ | hlater)
      · exact absurd ⟨hvisit, hstep, hdepth⟩ hcut
      · exact hlater

/-- Before the first separator outside brackets there is none, and the others come after it. No bracket is
open there. -/
theorem exists_split_of_separatorsFrom {first : Visit} {others : List Visit}
    (h : separatorsFrom separator depth visits = first :: others) :
    ∃ earlier later, visits = earlier ++ first :: later ∧ first.char = separator ∧
      separatorsFrom separator depth earlier = [] ∧ others = separatorsFrom separator 0 later ∧
      depth + balance earlier = 0 := by
  induction visits generalizing depth with
  | nil => simp [separatorsFrom] at h
  | cons visit visits ih =>
    by_cases hcut : visit.char = separator ∧ bracketStep separator = 0 ∧ depth = 0
    · obtain ⟨hchar, hstep, rfl⟩ := hcut
      rw [separatorsFrom_of_cut hchar hstep] at h
      obtain ⟨rfl, rfl⟩ := List.cons.inj h
      exact ⟨[], visits, rfl, hchar, rfl, rfl, rfl⟩
    · rw [separatorsFrom_of_kept hcut] at h
      obtain ⟨earlier, later, rfl, hchar, hnone, hothers, hdepth⟩ := ih h
      exact ⟨visit :: earlier, later, rfl, hchar, by rw [separatorsFrom_of_kept hcut, hnone], hothers,
        by rw [balance_cons, ← Int.add_assoc]; exact hdepth⟩

/-- No separator stands among the characters outside brackets, of which `depth` are open before. -/
def Undivided (separator : Char) : (depth : Int) → List Char → Prop
  | _, [] => True
  | depth, c :: rest =>
    ¬(c = separator ∧ bracketStep separator = 0 ∧ depth = 0) ∧
      Undivided separator (depth + bracketStep c) rest

theorem separatorsFrom_eq_nil_iff :
    separatorsFrom separator depth visits = [] ↔
      Undivided separator depth (visits.map Visit.char) := by
  induction visits generalizing depth with
  | nil => simp [separatorsFrom, Undivided]
  | cons visit visits ih =>
    rw [List.map_cons, Undivided, ← ih]
    by_cases hcut : visit.char = separator ∧ bracketStep separator = 0 ∧ depth = 0
    · obtain ⟨hchar, hstep, rfl⟩ := hcut
      simp [separatorsFrom_of_cut hchar hstep, hchar, hstep]
    · rw [separatorsFrom_of_kept hcut]
      exact (and_iff_right hcut).symm

theorem bracketStep_of_isBlank {c : Char} (h : isBlank c = true) : bracketStep c = 0 := by
  unfold bracketStep
  split
  case h_7 => rfl
  all_goals exact absurd h (by decide)

theorem undivided_filter_blank (hseparator : isBlank separator = false) (text : List Char) :
    Undivided separator depth (text.filter (!isBlank ·)) ↔ Undivided separator depth text := by
  induction text generalizing depth with
  | nil => rfl
  | cons c text ih =>
    cases hblank : isBlank c with
    | false => rw [List.filter_cons_of_pos (by simp [hblank]), Undivided, Undivided, ih]
    | true =>
      have hother : c ≠ separator := ne_of_test hblank hseparator
      have hstep : bracketStep c = 0 := bracketStep_of_isBlank hblank
      rw [List.filter_cons_of_neg (by simp [hblank]), ih, Undivided, hstep, Int.add_zero]
      simp [hother]

end Separators

section Blanks

/-- The characters that a walk visits. -/
def codeChars (context : Context) (text : List Char) : List Char :=
  (codeFrom context 0 text).map Visit.char

theorem map_char_codeFrom (context : Context) (offset : Nat) (text : List Char) :
    (codeFrom context offset text).map Visit.char = codeChars context text := by
  have hadd := codeFrom_add offset context 0 text
  rw [Nat.zero_add] at hadd
  rw [hadd, List.map_map]
  rfl

variable {context : Context} {c : Char} {rest literal after blanks : List Char}

@[simp]
theorem codeChars_nil (context : Context) : codeChars context [] = [] := by
  simp [codeChars]

theorem codeChars_of_literal (h : splitLiteral? context c rest = some (literal, after)) :
    codeChars context (c :: rest) = codeChars .value after := by
  rw [codeChars, codeFrom_of_literal _ h, map_char_codeFrom]

theorem codeChars_of_code (h : splitLiteral? context c rest = none) :
    codeChars context (c :: rest) = c :: codeChars (context.push c) rest := by
  rw [codeChars, codeFrom_of_code _ h, List.map_cons, map_char_codeFrom]

theorem splitLiteral?_of_isBlank (context : Context) (hc : isBlank c = true) (rest : List Char) :
    splitLiteral? context c rest = none := by
  unfold splitLiteral?
  split
  case h_6 => rfl
  all_goals contradiction

theorem expectsOperand_push_blank (hc : isBlank c = true) :
    (context.push c).expectsOperand none = context.expectsOperand none := by
  simp [Context.expectsOperand, Context.push, hc]

/-- Two walks that begin where an operand is due visit the same characters. -/
theorem codeChars_congr {other : Context} (hcontext : context.expectsOperand none = true)
    (hother : other.expectsOperand none = true) (text : List Char) :
    codeChars context text = codeChars other text := by
  induction text generalizing context other with
  | nil => simp
  | cons c rest ih =>
    have hsplit : splitLiteral? context c rest = splitLiteral? other c rest := by
      unfold splitLiteral?
      rw [expectsOperand_of_none hcontext, expectsOperand_of_none hother]
    cases h : splitLiteral? other c rest with
    | some found => rw [codeChars_of_literal (hsplit.trans h), codeChars_of_literal h]
    | none =>
      rw [codeChars_of_code (hsplit.trans h), codeChars_of_code h]
      cases hblank : isBlank c with
      | true =>
        have hrest := ih ((expectsOperand_push_blank hblank).trans hcontext)
          ((expectsOperand_push_blank hblank).trans hother)
        rw [hrest]
      | false =>
        have hsame : context.push c = other.push c := by simp [Context.push, hblank]
        rw [hsame]

theorem mem_of_mem_codeChars {text : List Char} (h : c ∈ codeChars context text) : c ∈ text := by
  obtain ⟨visit, hvisit, rfl⟩ := List.mem_map.mp h
  exact (suffix_of_mem_walkFrom hvisit).subset List.mem_cons_self

/-- Blanks at the end of a text are visited at most. -/
theorem codeChars_append_blanks (context : Context) (text : List Char)
    (hblanks : ∀ c ∈ blanks, isBlank c = true) :
    (codeChars context (text ++ blanks)).filter (!isBlank ·) =
      (codeChars context text).filter (!isBlank ·) := by
  induction context, text using along_code with
  | nil context =>
    rw [codeChars_nil, List.nil_append, List.filter_nil, List.filter_eq_nil_iff]
    intro c hc
    simp [hblanks c (mem_of_mem_codeChars hc)]
  | literal context c rest literal after h ih =>
    have halike := splitLiteral?_append_blanks context c rest hblanks
    rw [List.cons_append, codeChars_of_literal h]
    generalize hlonger : splitLiteral? context c (rest ++ blanks) = longer at halike
    rw [h] at halike
    cases halike with
    | closed => rw [codeChars_of_literal hlonger, ih]
    | unclosed => rw [codeChars_of_literal hlonger]
  | code context c rest h ih =>
    have halike := splitLiteral?_append_blanks context c rest hblanks
    rw [List.cons_append, codeChars_of_code h]
    generalize hlonger : splitLiteral? context c (rest ++ blanks) = longer at halike
    rw [h] at halike
    cases halike
    rw [codeChars_of_code hlonger, List.filter_cons, List.filter_cons, ih]

theorem codeChars_trimStart (hcontext : context.expectsOperand none = true) (text : List Char) :
    (codeChars context (trimStart text)).filter (!isBlank ·) =
      (codeChars context text).filter (!isBlank ·) := by
  induction text generalizing context with
  | nil => rfl
  | cons c rest ih =>
    cases hblank : isBlank c with
    | false => rw [trimStart, List.dropWhile_cons_of_neg (by simp [hblank])]
    | true =>
      have hpush := (expectsOperand_push_blank hblank).trans hcontext
      rw [trimStart, List.dropWhile_cons_of_pos hblank,
        codeChars_of_code (splitLiteral?_of_isBlank context hblank rest),
        List.filter_cons_of_neg (by simp [hblank]), ← ih hpush, codeChars_congr hcontext hpush]
      rfl

theorem exists_blanks_of_trimEnd (text : List Char) :
    ∃ blanks, text = trimEnd text ++ blanks ∧ ∀ c ∈ blanks, isBlank c = true :=
  ⟨_, List.rdropWhile_append_rtakeWhile.symm, fun _ => List.mem_rtakeWhile_imp⟩

/-- Blanks around a text make no difference where an operand is due. -/
theorem codeChars_trim (hcontext : context.expectsOperand none = true) (text : List Char) :
    (codeChars {} (trim text)).filter (!isBlank ·) =
      (codeChars context text).filter (!isBlank ·) := by
  obtain ⟨blanks, hstart, hblanks⟩ := exists_blanks_of_trimEnd (trimStart text)
  calc
    _ = (codeChars context (trim text)).filter (!isBlank ·) := by
      rw [codeChars_congr rfl hcontext]
    _ = (codeChars context (trim text ++ blanks)).filter (!isBlank ·) :=
      (codeChars_append_blanks context (trim text) hblanks).symm
    _ = (codeChars context (trimStart text)).filter (!isBlank ·) := by
      rw [hstart]
      rfl
    _ = _ := codeChars_trimStart hcontext text

end Blanks

/-- The separators outside brackets of a text that starts at byte `offset` in this context, found one
after the other: the text before a separator holds none, and a walk goes on after it. -/
inductive Divided (separator : Char) : Context → (offset : Nat) → List Char → List Visit → Prop where
  | last {context : Context} {offset : Nat} {text : List Char}
    (hnone : separatorsFrom separator 0 (codeFrom context offset text) = []) :
    Divided separator context offset text []
  | cut {context next : Context} {offset : Nat} {lead : List Char} {first : Visit}
    {others : List Visit} (hchar : first.char = separator)
    (hnone : separatorsFrom separator 0 (codeFrom context offset lead) = [])
    (hoffset : first.offset = offset + byteLength lead)
    (hothers : Divided separator (next.push separator) (first.offset + separator.utf8Size) first.rest
      others) :
    Divided separator context offset (lead ++ separator :: first.rest) (first :: others)

section Divided

variable {separator : Char} {context : Context} {offset : Nat} {text : List Char}
  {cuts : List Visit}

theorem divided_codeFrom (separator : Char) (context : Context) (offset : Nat) (text : List Char) :
    Divided separator context offset text
      (separatorsFrom separator 0 (codeFrom context offset text)) := by
  match h : separatorsFrom separator 0 (codeFrom context offset text) with
  | [] => exact .last h
  | first :: others =>
    obtain ⟨earlier, later, hsplit, rfl, hnone, rfl, -⟩ := exists_split_of_separatorsFrom h
    obtain ⟨lead, next, rfl, -, -, hoffset, rfl, rfl⟩ := exists_visited hsplit
    have hshorter : first.rest.length < (lead ++ first.char :: first.rest).length := by
      rw [List.length_append, List.length_cons]
      omega
    refine .cut rfl ?_ hoffset (divided_codeFrom _ _ _ _)
    rw [separatorsFrom_eq_nil_iff, List.map_map] at hnone
    rw [separatorsFrom_eq_nil_iff]
    exact hnone
termination_by text.length

theorem segments_ne_nil (text : List Char) (cuts : List Visit) : segments text cuts ≠ [] := by
  cases cuts <;> exact List.cons_ne_nil _ _

theorem segments_cut (lead : List Char) (first : Visit) (others : List Visit) :
    segments (lead ++ first.char :: first.rest) (first :: others) =
      lead :: segments first.rest others := by
  rw [segments, before_append]

namespace Divided

/-- The segments joined by the separator are the text. -/
theorem intercalate_segments (h : Divided separator context offset text cuts) :
    [separator].intercalate (segments text cuts) = text := by
  induction h with
  | last => exact List.intercalate_singleton
  | @cut context next offset lead first others hchar _ _ _ ih =>
    rw [← hchar, segments_cut, hchar, List.intercalate_cons_of_ne_nil (segments_ne_nil _ _), ih]
    simp

/-- The separators stand between the segments. -/
theorem mem_iff (h : Divided separator context offset text cuts) (visit : Visit) :
    visit ∈ cuts ↔ ∃ before after, before ≠ [] ∧ after ≠ [] ∧ before ++ after = segments text cuts ∧
      visit = {
        offset := offset + byteLength ([separator].intercalate before)
        char := separator
        rest := [separator].intercalate after } := by
  induction h with
  | last =>
    constructor
    · exact fun hmem => absurd hmem List.not_mem_nil
    · rintro ⟨before, after, hbefore, hafter, hsplit, -⟩
      rcases List.append_eq_singleton_iff.mp hsplit with ⟨rfl, -⟩ | ⟨-, rfl⟩
      · contradiction
      · contradiction
  | @cut context next offset lead first others hchar hnone hoffset hothers ih =>
    have hsegments : segments (lead ++ separator :: first.rest) (first :: others) =
        lead :: segments first.rest others := by
      rw [← hchar, segments_cut]
    rw [hsegments, List.mem_cons, ih]
    constructor
    · rintro (rfl | ⟨before, after, hbefore, hafter, hsplit, rfl⟩)
      · refine ⟨[lead], segments visit.rest others, by simp, segments_ne_nil _ _, rfl, ?_⟩
        rw [List.intercalate_singleton, hothers.intercalate_segments, ← hoffset, ← hchar]
      · refine ⟨lead :: before, after, by simp, hafter, by rw [← hsplit]; rfl, ?_⟩
        rw [List.intercalate_cons_of_ne_nil hbefore, hoffset]
        simp [byteLength]
        omega
    · rintro ⟨before, after, hbefore, hafter, hsplit, rfl⟩
      obtain ⟨segment, before, rfl⟩ := List.exists_cons_of_ne_nil hbefore
      obtain ⟨rfl, hrest⟩ := List.cons.inj hsplit
      cases before with
      | nil =>
        obtain rfl : after = segments first.rest others := hrest
        left
        rw [List.intercalate_singleton, hothers.intercalate_segments, ← hoffset, ← hchar]
      | cons other before =>
        refine .inr ⟨other :: before, after, by simp, hafter, hrest, ?_⟩
        rw [List.intercalate_cons_of_ne_nil (by simp), hoffset]
        simp [byteLength]
        omega

/-- A segment holds no separator outside brackets when it is trimmed and stands alone, if an operand is
due after the separator. -/
theorem separatorsFrom_trim (h : Divided separator context offset text cuts)
    (hoperator : separator ∈ Context.operators) (hseparator : isBlank separator = false)
    (hcontext : context.expectsOperand none = true) :
    ∀ segment ∈ segments text cuts, separatorsFrom separator 0 (code (trim segment)) = [] := by
  have hwhole {context : Context} {offset : Nat} {segment : List Char}
      (hcontext : context.expectsOperand none = true)
      (hnone : separatorsFrom separator 0 (codeFrom context offset segment) = []) :
      separatorsFrom separator 0 (code (trim segment)) = [] := by
    rw [separatorsFrom_eq_nil_iff, map_char_codeFrom, ← undivided_filter_blank hseparator,
      ← codeChars_trim hcontext, undivided_filter_blank hseparator] at hnone
    exact separatorsFrom_eq_nil_iff.mpr hnone
  have hpush (context : Context) : (context.push separator).expectsOperand none = true := by
    simp [Context.expectsOperand, Context.push, hseparator, hoperator]
  induction h with
  | last hnone =>
    intro segment hsegment
    obtain rfl := List.mem_singleton.mp hsegment
    exact hwhole hcontext hnone
  | @cut context next offset lead first others hchar hnone _ _ ih =>
    rw [← hchar, segments_cut, hchar]
    intro segment hsegment
    rcases List.mem_cons.mp hsegment with rfl | hsegment
    · exact hwhole hcontext hnone
    · exact ih (hpush next) segment hsegment

end Divided

end Divided

theorem trim_trim (text : List Char) : trim (trim text) = trim text := by
  have hstart : trimStart (trim text) = trim text := by
    cases h : trim text with
    | nil => rfl
    | cons c rest => simp [trimStart, isBlank_head_trim h]
  rw [trim, hstart]
  exact List.rdropWhile_idempotent isBlank (trimStart text)

/-- A walk over the text visits this separator where no bracket is open. -/
def DividesAt (separator : Char) (text : List Char) (visit : Visit) : Prop :=
  visit.char = separator ∧ ∃ earlier later, code text = earlier ++ visit :: later ∧ balance earlier = 0

theorem dividesAt_iff {separator : Char} (hstep : bracketStep separator = 0) {text : List Char}
    {visit : Visit} :
    DividesAt separator text visit ↔ visit ∈ separatorsFrom separator 0 (code text) := by
  rw [mem_separatorsFrom_iff, and_iff_right hstep]
  simp [DividesAt]

/-- The separator between some segments and those after them. -/
def separatorBetween (separator : Char) (before after : List (List Char)) : Visit where
  offset := byteLength ([separator].intercalate before)
  char := separator
  rest := [separator].intercalate after

/-- A text is divided at the separators outside literals and brackets and nowhere else, and a part of
it is not divided again. -/
theorem splitOutside_divides {separator : Char} (hseparator : separator = ',' ∨ separator = ';')
    (text : List Char) :
    (∃ segments, segments ≠ [] ∧ [separator].intercalate segments = text ∧
      (∀ visit, DividesAt separator text visit ↔ ∃ before after, before ≠ [] ∧ after ≠ [] ∧
        before ++ after = segments ∧ visit = separatorBetween separator before after) ∧
      splitOutside separator text = (segments.map trim).filter (!·.isEmpty)) ∧
    ∀ part ∈ splitOutside separator text, splitOutside separator part = [part] := by
  have hstep : bracketStep separator = 0 := by rcases hseparator with rfl | rfl <;> rfl
  have hoperator : separator ∈ Context.operators := by
    rcases hseparator with rfl | rfl <;> decide
  have hblank : isBlank separator = false := by rcases hseparator with rfl | rfl <;> rfl
  have hdivided := divided_codeFrom separator {} 0 text
  refine ⟨⟨segments text (separatorsFrom separator 0 (code text)), segments_ne_nil _ _,
    hdivided.intercalate_segments, fun visit => ?_, rfl⟩, fun part hpart => ?_⟩
  · have hmem := hdivided.mem_iff visit
    simp only [Nat.zero_add] at hmem
    exact (dividesAt_iff hstep).trans hmem
  · obtain ⟨hmem, hne⟩ := List.mem_filter.mp hpart
    obtain ⟨segment, hsegment, rfl⟩ := List.mem_map.mp hmem
    have hnone := hdivided.separatorsFrom_trim hoperator hblank rfl segment hsegment
    simp only [splitOutside, hnone, segments, List.map_singleton, trim_trim]
    simpa using hne

/-- Commas between parts, in a percent literal, in brackets, and as the delimiter of a percent literal
with a quote in it; and two percent signs that divide. -/
def mixedList : List Char :=
  "x % y, %w(a, b) , [c, d % e],, f %, 'g, ".toList

theorem splitOutside_mixedList :
    splitOutside ',' mixedList =
        ["x % y", "%w(a, b)", "[c, d % e]", "f %, 'g,"].map String.toList ∧
      (∃ segments, segments ≠ [] ∧ [','].intercalate segments = mixedList ∧
        (∀ visit, DividesAt ',' mixedList visit ↔ ∃ before after, before ≠ [] ∧ after ≠ [] ∧
          before ++ after = segments ∧ visit = separatorBetween ',' before after) ∧
        splitOutside ',' mixedList = (segments.map trim).filter (!·.isEmpty)) ∧
      ∀ part ∈ splitOutside ',' mixedList, splitOutside ',' part = [part] :=
  ⟨by decide +kernel, splitOutside_divides (.inl rfl) mixedList⟩

end ForeignKeyLint.Ruby
