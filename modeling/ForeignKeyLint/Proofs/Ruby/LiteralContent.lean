import ForeignKeyLint.Proofs.Ruby.Comment
import ForeignKeyLint.Proofs.Ruby.Division
import Mathlib.Data.List.Forall2

/-!
The content of a string literal. Main statement: a walk that comes to stand before a string literal
visits the same characters whatever stands between the quotes, so that the depth of brackets and the
number of parts at any separator are the same. Only the places after the literal move, by the difference
in length.

A quote is a delimiter, and so what stands before it is read in the same way whatever comes after the
quote; and after a literal the context is the same whatever literal it was.
-/

namespace ForeignKeyLint.Ruby

open Text

section Parts

variable {separator : Char} {depth : Int}

theorem separatorsFrom_append (first second : List Visit) :
    separatorsFrom separator depth (first ++ second) =
      separatorsFrom separator depth first ++
        separatorsFrom separator (depth + balance first) second := by
  induction first generalizing depth with
  | nil => simp [separatorsFrom]
  | cons visit first ih =>
    by_cases hcut : visit.char = separator ∧ bracketStep separator = 0 ∧ depth = 0
    · obtain ⟨hchar, hstep, rfl⟩ := hcut
      simp [separatorsFrom_of_cut hchar hstep, ih, hchar, hstep]
    · rw [List.cons_append, separatorsFrom_of_kept hcut, separatorsFrom_of_kept hcut, ih,
        balance_cons, Int.add_assoc]

/-- The separators depend on the characters that are visited, and on nothing else of a visit. -/
theorem separatorsFrom_map (move : Visit → Visit) (hmove : ∀ visit, (move visit).char = visit.char)
    (visits : List Visit) :
    separatorsFrom separator depth (visits.map move) =
      (separatorsFrom separator depth visits).map move := by
  induction visits generalizing depth with
  | nil => rfl
  | cons visit visits ih =>
    rw [List.map_cons]
    by_cases hcut : visit.char = separator ∧ bracketStep separator = 0 ∧ depth = 0
    · obtain ⟨hchar, hstep, rfl⟩ := hcut
      rw [separatorsFrom_of_cut hchar hstep, separatorsFrom_of_cut ((hmove visit).trans hchar) hstep,
        ih, List.map_cons]
    · rw [separatorsFrom_of_kept hcut, separatorsFrom_of_kept (by rwa [hmove]), hmove, ih]

theorem separatorsFrom_map_onto (rest : List Char) (visits : List Visit) :
    separatorsFrom separator depth (visits.map (Visit.onto rest)) =
      (separatorsFrom separator depth visits).map (Visit.onto rest) :=
  separatorsFrom_map (Visit.onto rest) (fun _ => rfl) visits

theorem separatorsFrom_map_later (shift : Nat) (visits : List Visit) :
    separatorsFrom separator depth (visits.map (Visit.later shift)) =
      (separatorsFrom separator depth visits).map (Visit.later shift) :=
  separatorsFrom_map (Visit.later shift) (fun _ => rfl) visits

theorem segments_map_later (shift : Nat) (text : List Char) (cuts : List Visit) :
    segments text (cuts.map (Visit.later shift)) = segments text cuts := by
  induction cuts generalizing text with
  | nil => rfl
  | cons cut cuts ih => exact congrArg (_ :: ·) (ih cut.rest)

/-- A text that follows goes on with the last segment, and its own segments come after it. -/
theorem Divided.segments_append {context : Context} {offset : Nat} {text : List Char}
    {cuts : List Visit} (h : Divided separator context offset text cuts) :
    ∃ initial last, ∀ (more : List Char) (others : List Visit) (first : List Char)
      (rest : List (List Char)), segments more others = first :: rest →
        (∀ cut ∈ others, cut.rest.length < more.length) →
          segments (text ++ more) (cuts.map (Visit.onto more) ++ others) =
            initial ++ (last ++ first) :: rest := by
  induction h with
  | @last context offset text hnone =>
    exact ⟨[], text, fun more others first rest hfirst hshort =>
      Ruby.segments_append text more others hshort hfirst⟩
  | @cut context next offset lead cut others hchar hnone hoffset hothers ih =>
    obtain ⟨initial, last, hsegments⟩ := ih
    refine ⟨lead :: initial, last, fun more later first rest hfirst hshort => ?_⟩
    have hlead := segments_cut lead (cut.onto more) (others.map (Visit.onto more) ++ later)
    have hrest : (cut.onto more).rest = cut.rest ++ more := rfl
    rw [hrest, hsegments more later first rest hfirst hshort] at hlead
    rw [← hchar, List.append_assoc]
    exact hlead

end Parts

theorem offset_lt_of_mem_code {text : List Char} {visit : Visit} (h : visit ∈ code text) :
    visit.offset < byteLength text := by
  obtain ⟨lead, context, rfl, -, -, hoffset⟩ := mem_code_iff.mp h
  have hsize := visit.char.utf8Size_pos
  rw [hoffset, byteLength_append, byteLength]
  omega

section Content

variable {quote : Char} {before content after : List Char}

/-- The characters that open a string literal. -/
def quotes : List Char :=
  ['"', '\'', '\x60']

theorem facts_of_mem_quotes (hquote : quote ∈ quotes) :
    isDelimiter quote = true ∧ quote ≠ '\\' ∧ isBlank quote = false ∧ quote.utf8Size = 1 := by
  simp only [quotes, List.mem_cons, List.not_mem_nil, or_false] at hquote
  rcases hquote with rfl | rfl | rfl
  all_goals decide +kernel

theorem splitLiteral?_quote (hquote : quote ∈ quotes) (hclosing : quote ∉ content)
    (hescape : '\\' ∉ content) (context : Context) (after : List Char) :
    splitLiteral? context quote (content ++ quote :: after) = some (content ++ [quote], after) := by
  obtain ⟨-, hbackslash, -⟩ := facts_of_mem_quotes hquote
  rw [← splitDelimited_quoted hbackslash content after hclosing hescape]
  simp only [quotes, List.mem_cons, List.not_mem_nil, or_false] at hquote
  rcases hquote with rfl | rfl | rfl <;> rfl

/-- What a walk visits in a text with a string literal: what stands before the literal, and what stands
after it. -/
theorem code_of_content {context : Context} (hquote : quote ∈ quotes) (hclosing : quote ∉ content)
    (hescape : '\\' ∉ content)
    (hreaches : Reaches (quote :: (content ++ quote :: after)) {} before context) :
    code (before ++ quote :: (content ++ quote :: after)) =
      (code before).map (Visit.onto (quote :: (content ++ quote :: after))) ++
        (codeFrom .value 0 after).map
          (Visit.later (byteLength before + byteLength content + 2)) := by
  have hliteral := splitLiteral?_quote hquote hclosing hescape context after
  obtain ⟨-, -, -, hsize⟩ := facts_of_mem_quotes hquote
  have hoffset : 0 + byteLength before + quote.utf8Size + byteLength (content ++ [quote]) =
      0 + (byteLength before + byteLength content + 2) := by
    simp only [byteLength_append, byteLength, hsize]
    omega
  have hcode := hreaches.codeFrom_append 0
  rw [codeFrom_of_literal _ hliteral, hoffset, codeFrom_add] at hcode
  exact hcode

/-- The number of parts does not depend on the content of the literal. -/
theorem exists_partCount (hquote : quote ∈ quotes) (separator : Char) (before after : List Char) :
    ∃ count, ∀ content context, quote ∉ content → '\\' ∉ content →
      Reaches (quote :: (content ++ quote :: after)) {} before context →
        (splitOutside separator (before ++ quote :: (content ++ quote :: after))).length = count := by
  let kept (parts : List (List Char)) : Nat := ((parts.map trim).filter (!·.isEmpty)).length
  let others := separatorsFrom separator (balance (code before)) (codeFrom .value 0 after)
  obtain ⟨initial, last, hsegments⟩ := (divided_codeFrom separator {} 0 before).segments_append
  obtain ⟨first, rest, hfirst⟩ := List.exists_cons_of_ne_nil (segments_ne_nil after others)
  refine ⟨kept initial + (kept rest + 1), fun content context hclosing hescape hreaches => ?_⟩
  let shift := byteLength before + byteLength content + 2
  have hcuts : separatorsFrom separator 0 (code (before ++ quote :: (content ++ quote :: after))) =
      (separatorsFrom separator 0 (code before)).map
        (Visit.onto (quote :: (content ++ quote :: after))) ++ others.map (Visit.later shift) := by
    rw [code_of_content hquote hclosing hescape hreaches, separatorsFrom_append,
      separatorsFrom_map_onto, balance_map_onto, separatorsFrom_map_later, Int.zero_add]
  have hshort : ∀ cut ∈ others.map (Visit.later shift), cut.rest.length < after.length := by
    intro cut hcut
    obtain ⟨visit, hvisit, rfl⟩ := List.mem_map.mp hcut
    have hmem : visit ∈ codeFrom .value 0 after := mem_of_mem_separatorsFrom hvisit
    have hlt : visit.rest.length < after.length := length_rest_lt_of_mem_walkFrom _ _ _ _ _ hmem
    exact hlt
  have hliteral : segments (quote :: (content ++ quote :: after)) (others.map (Visit.later shift)) =
      (quote :: (content ++ [quote]) ++ first) :: rest := by
    have happend := segments_append (quote :: (content ++ [quote])) after _ hshort
      ((segments_map_later shift after others).trans hfirst)
    simpa using happend
  have hall := hsegments _ _ _ _ hliteral fun cut hcut => by
    have hcut := hshort cut hcut
    simp only [List.length_cons, List.length_append]
    omega
  -- The segment with the literal is no blank one, since a quote is no blank.
  have hmem : quote ∈ trim (last ++ (quote :: (content ++ [quote]) ++ first)) :=
    mem_trim (facts_of_mem_quotes hquote).2.2.1 (by simp)
  have hne : (trim (last ++ (quote :: (content ++ [quote]) ++ first))).isEmpty = false := by
    rw [List.isEmpty_eq_false_iff]
    exact List.ne_nil_of_mem hmem
  have hkept : kept ((last ++ (quote :: (content ++ [quote]) ++ first)) :: rest) = kept rest + 1 := by
    simp only [kept, List.map_cons]
    rw [List.filter_cons_of_pos (by rw [hne]; rfl), List.length_cons]
  have happend (before after : List (List Char)) : kept (before ++ after) = kept before + kept after := by
    simp [kept]
  rw [splitOutside, hcuts]
  refine (congrArg kept hall).trans ?_
  rw [happend, hkept]

/-- What stands between two quotes cannot be told from the visits of a walk, from the depth of brackets
or from the number of parts. -/
theorem content_invisible {other : List Char} (hquote : quote ∈ quotes)
    (hcontent : quote ∉ content ∧ '\\' ∉ content) (hother : quote ∉ other ∧ '\\' ∉ other)
    (hreaches : ∃ context, Reaches (quote :: (content ++ quote :: after)) {} before context) :
    let text := before ++ quote :: (content ++ quote :: after)
    let text' := before ++ quote :: (other ++ quote :: after)
    List.Forall₂
        (fun visit visit' : Visit => visit'.char = visit.char ∧
          (visit.offset < byteLength before ∧ visit'.offset = visit.offset ∨
            byteLength before + byteLength content + 2 ≤ visit.offset ∧
              (visit'.offset : Int) - visit.offset = byteLength other - byteLength content))
        (code text) (code text') ∧
      bracketDepth text' = bracketDepth text ∧
      ∀ separator, (splitOutside separator text').length = (splitOutside separator text).length := by
  intro text text'
  obtain ⟨context, hreaches⟩ := hreaches
  have hdelimiter := (facts_of_mem_quotes hquote).1
  have hreaches' : Reaches (quote :: (other ++ quote :: after)) {} before context :=
    hreaches.of_keepsHead (keepsHead_cons hdelimiter _ _)
  have hcode := code_of_content hquote hcontent.1 hcontent.2 hreaches
  have hcode' := code_of_content hquote hother.1 hother.2 hreaches'
  refine ⟨?_, ?_, fun separator => ?_⟩
  · rw [hcode, hcode']
    apply List.rel_append
    · rw [List.forall₂_map_left_iff, List.forall₂_map_right_iff, List.forall₂_same]
      intro visit hvisit
      have hlt : visit.offset < byteLength before := offset_lt_of_mem_code hvisit
      exact ⟨rfl, .inl ⟨hlt, rfl⟩⟩
    · rw [List.forall₂_map_left_iff, List.forall₂_map_right_iff, List.forall₂_same]
      intro visit _
      refine ⟨rfl, .inr ⟨Nat.le_add_left _ _, ?_⟩⟩
      simp only [Visit.later]
      omega
  · change balance (code text') = balance (code text)
    rw [hcode, hcode', balance_append, balance_append, balance_map_onto, balance_map_onto,
      balance_map_later, balance_map_later]
  · obtain ⟨count, hcount⟩ := exists_partCount hquote separator before after
    rw [hcount content context hcontent.1 hcontent.2 hreaches,
      hcount other context hother.1 hother.2 hreaches']

/-- A percent literal that holds a quote, before a string literal. -/
def percentStart : List Char :=
  ['f', ' ', '%', '(', '"', ')', ' ', '+', ' ']

theorem reaches_percentStart (rest : List Char) :
    Reaches ('"' :: rest) {} percentStart { last := ' ', lastCode := '+' } := by
  have hquote : isDelimiter '"' = true := by decide +kernel
  have hend : Reaches ['"'] .value [' ', '+', ' '] { last := ' ', lastCode := '+' } :=
    .code (by decide +kernel) (.code (by decide +kernel) (.code (by decide +kernel) .here))
  have hliteral : Reaches ['"'] { last := ' ', lastCode := 'f' }
      ('%' :: (['(', '"', ')'] ++ [' ', '+', ' '])) { last := ' ', lastCode := '+' } :=
    .literal (by decide +kernel) hend
  have halone : Reaches ['"'] {} percentStart { last := ' ', lastCode := '+' } :=
    .code (by decide +kernel) (.code (by decide +kernel) hliteral)
  exact halone.of_keepsHead (keepsHead_cons hquote [] rest)

/-- Brackets and a semicolon in the literal, which closes the same call whatever it holds. -/
theorem content_invisible_percentStart :
    let text := percentStart ++ '"' :: (");".toList ++ '"' :: ", c % d; (e".toList)
    let text' := percentStart ++ '"' :: ("[%('".toList ++ '"' :: ", c % d; (e".toList)
    (List.Forall₂
        (fun visit visit' : Visit => visit'.char = visit.char ∧
          (visit.offset < byteLength percentStart ∧ visit'.offset = visit.offset ∨
            byteLength percentStart + byteLength ");".toList + 2 ≤ visit.offset ∧
              (visit'.offset : Int) - visit.offset =
                byteLength "[%('".toList - byteLength ");".toList))
        (code text) (code text') ∧
      bracketDepth text' = bracketDepth text ∧
      ∀ separator, (splitOutside separator text').length = (splitOutside separator text).length) ∧
    (code text').length = 16 ∧ bracketDepth text' = 1 ∧ (splitOutside ';' text').length = 2 :=
  ⟨content_invisible (by decide) (by decide) (by decide) ⟨_, reaches_percentStart _⟩,
    by decide +kernel, by decide +kernel, by decide +kernel⟩

end Content

end ForeignKeyLint.Ruby
