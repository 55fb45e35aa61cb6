import ForeignKeyLint.Proofs.Ruby.Reach
import ForeignKeyLint.Proofs.Ruby.Quotation
import ForeignKeyLint.Proofs.Ruby.StatementHead

/-!
The comment of a line. Where the code of a line ends at a `#`, what stands after it makes no
difference: the line has the same code, opens the same here documents, and begins a statement of its
own or not, whatever the comment says. Main statement: the same line with another comment is read in
the same way.

A walk looks at what it has passed and at the next character at most. A literal or an opener of a here
document that ends before the `#` therefore ends at the same place under any comment, and what is no
literal or opener before the `#` is none under any comment.
-/

namespace ForeignKeyLint.Ruby

open Text

section Literal

/-- What is no literal before the comment is none under any comment. -/
theorem splitLiteral?_hash_eq_none {context : Context} {c : Char} {lead comment : List Char}
    (h : splitLiteral? context c (lead ++ '#' :: comment) = none) (other : List Char) :
    splitLiteral? context c (lead ++ '#' :: other) = none := by
  have hdelimiter : isDelimiter '#' = true := by decide +kernel
  exact splitLiteral?_eq_none_of_keepsHead (keepsHead_cons hdelimiter comment other) h

end Literal

section Heredoc

/-- An opener is found before the comment or not at all, whatever the comment says. -/
def Settled (read : List Char → Option Heredoc) : Prop :=
  (∃ heredoc : Heredoc, ∀ comment,
    read comment = some { heredoc with after := heredoc.after ++ '#' :: comment }) ∨
  ∀ comment, read comment = none

/-- The opener of a here document after its sign and its opening quote. -/
def heredocBody? (sign quote body : List Char) : Option Heredoc :=
  let terminator := body.takeWhile isTerminatorChar
  match terminator, afterPrefix? quote (body.dropWhile isTerminatorChar) with
  | first :: _, some after =>
    if first.isDigit then none
    else some { terminator, opener := '<' :: sign ++ quote ++ terminator ++ quote, after }
  | _, _ => none

/-- Splits one of two marks off a text, if it begins with one. -/
def splitMark (first second : Char) (text : List Char) : List Char × List Char :=
  match text with
  | c :: rest => if c = first ∨ c = second then ([c], rest) else ([], c :: rest)
  | [] => ([], [])

theorem splitMark_hash {first second : Char} (hfirst : '#' ≠ first) (hsecond : '#' ≠ second)
    (lead comment : List Char) : splitMark first second (lead ++ '#' :: comment) =
      ((splitMark first second lead).1, (splitMark first second lead).2 ++ '#' :: comment) := by
  cases lead with
  | nil => simp [splitMark, hfirst, hsecond]
  | cons c lead => by_cases hc : c = first ∨ c = second <;> simp [splitMark, hc]

theorem not_mem_splitMark {first second : Char} (hfirst : '#' ≠ first) (hsecond : '#' ≠ second)
    (text : List Char) : '#' ∉ (splitMark first second text).1 := by
  cases text with
  | nil => simp [splitMark]
  | cons c rest =>
    by_cases hc : c = first ∨ c = second
    · rcases hc with rfl | rfl <;> simp [splitMark, hfirst, hsecond]
    · simp [splitMark, hc]

theorem splitMark_marked {first second c : Char} (h : c = first ∨ c = second) (rest : List Char) :
    splitMark first second (c :: rest) = ([c], rest) :=
  if_pos h

theorem splitMark_unmarked {first second : Char} {text : List Char}
    (hfirst : ∀ rest, text ≠ first :: rest) (hsecond : ∀ rest, text ≠ second :: rest) :
    splitMark first second text = ([], text) := by
  cases text with
  | nil => rfl
  | cons c rest =>
    refine if_neg ?_
    rintro (rfl | rfl)
    · exact hfirst rest rfl
    · exact hsecond rest rfl

theorem heredoc?_angle (rest : List Char) : heredoc? ('<' :: rest) =
    let signed := splitMark '~' '-' rest
    let quoted := splitMark '\'' '"' signed.2
    heredocBody? signed.1 quoted.1 quoted.2 := by
  unfold heredoc?
  split
  · next after hafter =>
    obtain rfl := List.tail_eq_of_cons_eq hafter
    split
    next sign after hsign =>
    split
    next quote body hquote =>
    have hsigned : splitMark '~' '-' rest = (sign, after) := by
      split at hsign
      · exact (splitMark_marked (.inl rfl) _).trans hsign
      · exact (splitMark_marked (.inr rfl) _).trans hsign
      · next htilde hdash => exact (splitMark_unmarked htilde hdash).trans hsign
    have hquoted : splitMark '\'' '"' after = (quote, body) := by
      split at hquote
      · exact (splitMark_marked (.inl rfl) _).trans hquote
      · exact (splitMark_marked (.inr rfl) _).trans hquote
      · next hsingle hdouble => exact (splitMark_unmarked hsingle hdouble).trans hquote
    simp only [hsigned, hquoted]
    rfl
  · next hangle => exact absurd rfl (hangle rest)

theorem settled_heredocBody? (sign : List Char) {quote : List Char} (hquote : '#' ∉ quote)
    (lead : List Char) : Settled fun comment => heredocBody? sign quote (lead ++ '#' :: comment) := by
  have hword (comment : List Char) : Halts isTerminatorChar ('#' :: comment) := halts_cons rfl comment
  have hnot (comment : List Char) : ∀ c ∈ ('#' :: comment).head?, c ∉ quote := by simpa using hquote
  simp only [heredocBody?, takeWhile_append_of_halts (hword _), dropWhile_append_of_halts (hword _),
    afterPrefix?_append (hnot _)]
  cases lead.takeWhile isTerminatorChar with
  | nil => exact .inr fun _ => rfl
  | cons first others =>
    cases afterPrefix? quote (lead.dropWhile isTerminatorChar) with
    | none => exact .inr fun _ => rfl
    | some after =>
      by_cases hdigit : first.isDigit = true
      · exact .inr fun _ => if_pos hdigit
      · exact .inl ⟨{
          terminator := first :: others
          opener := '<' :: sign ++ quote ++ (first :: others) ++ quote
          after }, fun _ => if_neg hdigit⟩

theorem settled_heredoc? (lead : List Char) :
    Settled fun comment => heredoc? (lead ++ '#' :: comment) := by
  cases lead with
  | nil => exact .inr fun _ => rfl
  | cons c lead =>
    by_cases hangle : c = '<'
    · subst hangle
      have hsign := @splitMark_hash '~' '-' (by decide) (by decide) lead
      have hquote := @splitMark_hash '\'' '"' (by decide) (by decide)
        (splitMark '~' '-' lead).2
      simp only [List.cons_append, heredoc?_angle, hsign, hquote]
      exact settled_heredocBody? _ (not_mem_splitMark (by decide) (by decide) _) _
    · refine .inr fun comment => ?_
      simp [heredoc?, hangle]

/-- A code character before the comment opens a here document under any comment or under none. -/
theorem settled_visit (offset : Nat) (c : Char) (lead : List Char) :
    (c = '<' ∧ ∃ heredoc : Heredoc, ∀ comment, heredoc? (lead ++ '#' :: comment) =
      some { heredoc with after := heredoc.after ++ '#' :: comment }) ∨
    ∀ comment, Visit.heredoc? { offset, char := c, rest := lead ++ '#' :: comment } = none := by
  by_cases hangle : c = '<'
  · subst hangle
    rcases settled_heredoc? lead with hopens | hnone
    · exact .inl ⟨rfl, hopens⟩
    · exact .inr hnone
  · exact .inr fun _ => if_neg hangle

end Heredoc

section Walk

variable {context : Context} {offset : Nat} {c : Char} {rest literal after : List Char}

/-- The code of a line and the terminators of the here documents it opens, when the walk over it has
come to `text` and has passed `start` since the last here document. -/
def stripFrom (start : List Char) (context : Context) (offset : Nat) (text : List Char) :
    List Char × List (List Char) :=
  let visits := walkFrom Visit.lineFlow context offset text
  (codeOf (start ++ text) visits, visits.filterMap fun visit => visit.heredoc?.map (·.terminator))

theorem stripFrom_of_literal (start : List Char)
    (h : splitLiteral? context c rest = some (literal, after)) :
    stripFrom start context offset (c :: rest) =
      stripFrom (start ++ c :: literal) .value (offset + c.utf8Size + byteLength literal) after := by
  have hsplit : start ++ c :: rest = start ++ c :: literal ++ after := by
    simp [← splitLiteral?_append h]
  rw [stripFrom, walkFrom_of_literal h, hsplit]
  rfl

theorem stripFrom_hash (start comment : List Char) (context : Context) (offset : Nat) :
    stripFrom start context offset ('#' :: comment) = (start, []) := by
  have hbefore := before_append { offset, char := '#', rest := comment } start
  rw [stripFrom, walkFrom_of_code rfl]
  simpa [codeOf, Visit.lineFlow, Visit.heredoc?] using hbefore

theorem lineFlow_of_heredoc (offset : Nat) {heredoc : Heredoc} (h : heredoc? rest = some heredoc) :
    Visit.lineFlow { offset, char := '<', rest } =
      .resumeAt (offset + '<'.utf8Size + byteLength heredoc.opener) := by
  have hvisit : Visit.heredoc? { offset, char := '<', rest } = some heredoc := h
  simp [Visit.lineFlow, hvisit]

theorem lineFlow_of_plain (hcomment : c ≠ '#')
    (h : Visit.heredoc? { offset, char := c, rest } = none) :
    Visit.lineFlow { offset, char := c, rest } = .proceed := by
  rw [Visit.lineFlow, if_neg hcomment, h]

theorem splitAtByte_of_heredoc? (offset : Nat) {heredoc : Heredoc}
    (h : heredoc? rest = some heredoc) :
    splitAtByte offset (offset + byteLength heredoc.opener) rest =
      (heredoc.opener, heredoc.after) := by
  obtain ⟨hrest, -⟩ := eq_append_of_heredoc? h
  rw [hrest]
  exact splitAtByte_byteLength _ _ _

theorem stripFrom_of_heredoc (start : List Char) {heredoc : Heredoc}
    (hliteral : splitLiteral? context '<' rest = none) (h : heredoc? rest = some heredoc) :
    stripFrom start context offset ('<' :: rest) =
      let later := stripFrom [] .value (offset + '<'.utf8Size + byteLength heredoc.opener)
        heredoc.after
      (start ++ '"' :: '"' :: later.1, heredoc.terminator :: later.2) := by
  have hbefore := before_append { offset, char := '<', rest } start
  have hvisit : Visit.heredoc? { offset, char := '<', rest } = some heredoc := h
  rw [stripFrom, walkFrom_of_code hliteral, lineFlow_of_heredoc offset h]
  simp only [splitAtByte_of_heredoc? _ h, codeOf, hvisit, List.filterMap_cons, Option.map_some,
    hbefore]
  rfl

theorem stripFrom_of_plain (start : List Char) (hcomment : c ≠ '#')
    (hliteral : splitLiteral? context c rest = none)
    (h : Visit.heredoc? { offset, char := c, rest } = none) :
    stripFrom start context offset (c :: rest) =
      stripFrom (start ++ [c]) (context.push c) (offset + c.utf8Size) rest := by
  have hstart : start ++ c :: rest = start ++ [c] ++ rest := by simp
  rw [stripFrom, walkFrom_of_code hliteral, lineFlow_of_plain hcomment h]
  simp only [codeOf, hcomment, if_false, h, List.filterMap_cons, Option.map_none, hstart]
  rfl

/-- A literal before the `#` is passed in the same way under any comment. -/
theorem stripFrom_of_literal_hash (start : List Char) {later comment : List Char}
    (h : splitLiteral? context c rest = some (literal, later ++ '#' :: comment))
    (other : List Char) :
    stripFrom start context offset (c :: literal ++ later ++ '#' :: other) =
      stripFrom (start ++ c :: literal) .value (offset + c.utf8Size + byteLength literal)
        (later ++ '#' :: other) := by
  have hother : splitLiteral? context c (literal ++ (later ++ '#' :: other)) =
      some (literal, later ++ '#' :: other) := by
    refine splitLiteral?_of_closed h (by simp) fun c hc => ?_
    cases later <;> exact hc
  rw [List.cons_append, List.cons_append, List.append_assoc]
  exact stripFrom_of_literal start hother

/-- A walk that ends at the `#` of a comment reads the same code under another comment. -/
theorem stripFrom_of_cut (start : List Char) {lead comment : List Char} {context : Context}
    {offset : Nat}
    (h : ∃ visit ∈ walkFrom Visit.lineFlow context offset (lead ++ '#' :: comment),
      visit.char = '#' ∧ visit.rest = comment) (other : List Char) :
    stripFrom start context offset (lead ++ '#' :: other) =
      stripFrom start context offset (lead ++ '#' :: comment) := by
  -- The induction is along the walk; `lead` is what is left of the line before the comment.
  generalize htext : lead ++ '#' :: comment = text at h ⊢
  fun_induction walkFrom Visit.lineFlow context offset text generalizing start lead
  case case1 => simp at htext
  case case2 context offset c rest literal after hliteral _ ih =>
    obtain ⟨visit, hvisit, hchar, hcomment⟩ := h
    have hsuffix := suffix_of_mem_walkFrom hvisit
    rw [hchar, hcomment] at hsuffix
    obtain ⟨later, rfl⟩ := hsuffix
    obtain rfl : lead = c :: literal ++ later := by
      rw [← splitLiteral?_append hliteral] at htext
      refine (List.append_left_inj ('#' :: comment)).mp ?_
      simp only [htext, List.cons_append, List.append_assoc]
    rw [stripFrom_of_literal_hash start hliteral, stripFrom_of_literal start hliteral]
    exact ih _ rfl ⟨visit, hvisit, hchar, hcomment⟩
  case case3 context offset c rest hliteral proceeded jumped =>
    cases lead with
    | nil =>
      obtain ⟨rfl, rfl⟩ := List.cons.inj htext
      rw [List.nil_append, stripFrom_hash, stripFrom_hash]
    | cons d lead =>
      rw [List.cons_append] at htext ⊢
      obtain ⟨rfl, rfl⟩ := List.cons.inj htext
      have hliteral' := splitLiteral?_hash_eq_none hliteral other
      obtain ⟨visit, hvisit, hchar, hcomment⟩ := h
      by_cases hhash : d = '#'
      · -- The walk would have ended at this `#` already.
        subst hhash
        have hlength := congrArg List.length hcomment
        rw [List.mem_singleton.mp hvisit] at hlength
        simp only [List.length_append, List.length_cons] at hlength
        omega
      · rcases List.mem_cons.mp hvisit with rfl | hlater
        · exact absurd hchar hhash
        rcases settled_visit offset d lead with ⟨rfl, heredoc, hheredoc⟩ | hnone
        · have hflow := lineFlow_of_heredoc offset (hheredoc comment)
          have hjump := splitAtByte_of_heredoc? (offset + '<'.utf8Size) (hheredoc comment)
          simp only [hflow, hjump] at hlater
          have hsame := jumped _ _ _ hjump [] rfl ⟨visit, hlater, hchar, hcomment⟩
          rw [stripFrom_of_heredoc start hliteral (hheredoc comment),
            stripFrom_of_heredoc start hliteral' (hheredoc other)]
          simp only [hsame]
        · rw [lineFlow_of_plain hhash (hnone comment)] at hlater
          rw [stripFrom_of_plain start hhash hliteral (hnone comment),
            stripFrom_of_plain start hhash hliteral' (hnone other)]
          exact proceeded _ rfl ⟨visit, hlater, hchar, hcomment⟩

end Walk

section Reading

/-- The comment of a line begins at the `#` between `lead` and `comment`, where the walk over the line
ends. -/
def CutAt (lead comment : List Char) : Prop :=
  ∃ visit ∈ walk Visit.lineFlow (lead ++ '#' :: comment), visit.char = '#' ∧ visit.rest = comment

instance (lead comment : List Char) : Decidable (CutAt lead comment) :=
  inferInstanceAs (Decidable (∃ visit ∈ walk Visit.lineFlow (lead ++ '#' :: comment),
    visit.char = '#' ∧ visit.rest = comment))

variable {lead comment : List Char}

theorem CutAt.stripLine_eq (h : CutAt lead comment) (other : List Char) :
    stripLine (lead ++ '#' :: other) = stripLine (lead ++ '#' :: comment) :=
  stripFrom_of_cut [] h other

theorem mem_dropWhile {p : Char → Bool} {c : Char} {text : List Char} (hc : p c = false)
    (h : c ∈ text) : c ∈ text.dropWhile p := by
  rw [← List.takeWhile_append_dropWhile (p := p) (l := text), List.mem_append] at h
  refine h.resolve_left fun hrun => ?_
  have htrue := List.mem_takeWhile_imp hrun
  rw [hc] at htrue
  contradiction

theorem mem_trim {c : Char} {text : List Char} (hc : isBlank c = false) (h : c ∈ text) :
    c ∈ trim text := by
  rw [trim, trimEnd, dropEndWhile, List.mem_reverse]
  exact mem_dropWhile hc (List.mem_reverse.mpr (mem_dropWhile hc h))

theorem trim_hash_ne_end (lead comment : List Char) :
    trim (lead ++ '#' :: comment) ≠ "__END__".toList := by
  intro h
  have hhash : '#' ∈ trim (lead ++ '#' :: comment) := mem_trim (by decide) (by simp)
  rw [h] at hhash
  revert hhash
  decide

/-- A line of code is read in the same way under another comment. -/
theorem CutAt.read_eq (h : CutAt lead comment) {mode : Mode} (hmode : mode.isCode = true)
    (other : List Char) :
    mode.read (lead ++ '#' :: other) = mode.read (lead ++ '#' :: comment) := by
  obtain ⟨hcomment, hheredocs⟩ : mode.inComment = false ∧ mode.heredocs = [] := by
    simpa [Mode.isCode] using hmode
  simp only [Mode.read, hcomment, hheredocs, beginsWith_append (by decide : '#' ∉ "=begin".toList),
    trim_hash_ne_end, h.stripLine_eq other, Bool.false_eq_true, if_false]

end Reading

end ForeignKeyLint.Ruby
