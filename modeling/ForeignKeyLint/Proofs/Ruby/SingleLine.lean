import ForeignKeyLint.Proofs.Ruby.Quotation
import ForeignKeyLint.Ruby.Statement

/-!
Files with one statement a line. Main statement: where each line is a phrase of plain characters,
the statements of the file are its lines, each with its own number and none of them cut short. No
line is taken for a comment, for a here document or for the end of the program, and none is joined
with another or divided.
-/

namespace ForeignKeyLint.Ruby

open Text

theorem lines_append {text : List Char} (hbreak : '\n' ∉ text) (hlast : text.getLast? ≠ some '\r')
    (rest : List Char) : lines (text ++ '\n' :: rest) = text :: lines rest := by
  induction text with
  | nil => rw [List.nil_append, lines]
  | cons c text ih =>
    simp only [List.mem_cons, not_or] at hbreak
    have hlater : text.getLast? ≠ some '\r' := by
      cases text with
      | nil => simp
      | cons next text => simpa [List.getLast?_cons_cons] using hlast
    have hreturn : ∀ after, c = '\r' → text ++ '\n' :: rest ≠ '\n' :: after := by
      rintro after rfl heq
      cases text with
      | nil => simp at hlast
      | cons next text =>
        obtain ⟨rfl, -⟩ := List.cons.inj heq
        simp at hbreak
    rw [List.cons_append, lines, ih hbreak.2 hlater]
    · exact fun heq => hbreak.1 heq.symm
    · exact hreturn

theorem lines_eq_singleton {text : List Char} (hbreak : '\n' ∉ text) (hne : text ≠ []) :
    lines text = [text] := by
  induction text with
  | nil => contradiction
  | cons c text ih =>
    simp only [List.mem_cons, not_or] at hbreak
    have hreturn : ∀ after, c = '\r' → text ≠ '\n' :: after := by
      rintro after - rfl
      simp at hbreak
    rw [lines]
    · cases text with
      | nil => rfl
      | cons next text => rw [ih hbreak.2 (List.cons_ne_nil _ _)]
    · exact fun heq => hbreak.1 heq.symm
    · exact hreturn

/-- The texts, each of them ended by a line feed. -/
def endLines (texts : List (List Char)) : List Char :=
  texts.flatMap (· ++ ['\n'])

theorem lines_endLines {texts : List (List Char)}
    (h : ∀ text ∈ texts, '\n' ∉ text ∧ text.getLast? ≠ some '\r') :
    lines (endLines texts) = texts := by
  induction texts with
  | nil => rfl
  | cons text texts ih =>
    obtain ⟨hbreak, hlast⟩ := h text List.mem_cons_self
    have hrest := ih fun other hother => h other (List.mem_cons_of_mem _ hother)
    rw [endLines, List.flatMap_cons, List.append_assoc, List.singleton_append,
      lines_append hbreak hlast]
    exact congrArg (text :: ·) hrest

theorem codeOf_eq_self {visits : List Visit} (text : List Char)
    (h : ∀ visit ∈ visits, visit.char ≠ '#' ∧ visit.heredoc? = none) :
    codeOf text visits = text := by
  induction visits with
  | nil => rfl
  | cons visit visits ih =>
    obtain ⟨hcomment, hheredoc⟩ := h visit List.mem_cons_self
    rw [codeOf, if_neg hcomment, hheredoc]
    exact ih fun other hother => h other (List.mem_cons_of_mem _ hother)

theorem heredoc?_eq_none {rest : List Char} (h : '<' ∉ rest.head?) : heredoc? rest = none := by
  unfold heredoc?
  split
  · simp at h
  · rfl

/-- A line with no comment and no opener of a here document is code as it stands. -/
theorem stripLine_eq_self {text : List Char} (hcomment : '#' ∉ text) (hheredoc : ¬['<', '<'] <:+: text) :
    stripLine text = (text, []) := by
  have hplain : ∀ visit ∈ walk Visit.lineFlow text, visit.char ≠ '#' ∧ visit.heredoc? = none := by
    intro visit hvisit
    have hsuffix := suffix_of_mem_walkFrom hvisit
    constructor
    · intro hchar
      exact hcomment (hsuffix.subset (by simp [hchar]))
    · rw [Visit.heredoc?]
      split
      · next hangle =>
        refine heredoc?_eq_none fun hnext => hheredoc ?_
        obtain ⟨more, hrest⟩ := List.head?_eq_some_iff.mp hnext
        rw [hangle, hrest] at hsuffix
        exact (List.prefix_append ['<', '<'] more).isInfix.trans hsuffix.isInfix
      · rfl
  have hnone : (walk Visit.lineFlow text).filterMap (fun visit => visit.heredoc?.map (·.terminator)) =
      [] := by
    rw [List.filterMap_eq_nil_iff]
    intro visit hvisit
    rw [(hplain visit hvisit).2, Option.map_none]
  simp only [stripLine, codeOf_eq_self text hplain, hnone]

variable {text : List Char}

theorem ne_nil_of_phrase (h : Phrase (ofText text)) : text ≠ [] := by
  simpa using h.trimmed.ne_nil

theorem trimmed_of_phrase (h : Phrase (ofText text)) : Trimmed text := by
  simpa using h.trimmed

theorem not_mem_of_phrase (h : Phrase (ofText text)) {c : Char} (hc : isPlain c = false) :
    c ∉ text := by
  intro hmem
  have hplain : isPlain c = true := h.plain (.char c) (List.mem_map_of_mem hmem)
  rw [hplain] at hc
  contradiction

/-- Nothing of a phrase is a comment or the opener of a here document. -/
theorem stripLine_ofText (h : Phrase (ofText text)) : stripLine text = (text, []) := by
  have hangle : '<' ∉ text := not_mem_of_phrase h rfl
  exact stripLine_eq_self (not_mem_of_phrase h rfl) fun hinside => hangle (hinside.subset (by simp))

theorem read_ofText (h : Phrase (ofText text)) (hend : text ≠ "__END__".toList) :
    Mode.read {} text = .code {} text := by
  have htrim := (trimmed_of_phrase h).trim_eq
  have hcomment : beginsWith "=begin".toList text = false := by
    rw [beginsWith, Bool.eq_false_iff]
    intro hbegins
    obtain ⟨rest, rfl⟩ := List.isPrefixOf_iff_prefix.mp hbegins
    have hequals : '=' ∉ "=begin".toList ++ rest := not_mem_of_phrase h rfl
    simp at hequals
  simp only [Mode.read, hcomment, htrim, hend, stripLine_ofText h]
  rfl

theorem splitOutside_semicolon (h : Phrase (ofText text)) : splitOutside ';' text = [text] := by
  have hnone : .char ';' ∉ ofText text := by
    intro hmem
    have hplain : isPlain ';' = true := h.plain _ hmem
    contradiction
  have hsplit := splitOutside_textOf ';' (ofText text) h.regular
  rw [cut_eq_self hnone, textOf_ofText, List.map_nil, List.map_singleton,
    (trimmed_of_phrase h).trim_eq] at hsplit
  rw [hsplit]
  simp [ne_nil_of_phrase h]

/-- A statement on a line of its own. -/
def Line.statement (line : Line) : Statement :=
  { line := line.number, text := line.text, cutShort := false }

theorem endsWith_eq_false {c other : Char} (hc : c ∈ text.getLast?) (hne : c ≠ other) :
    endsWith [other] text = false := by
  rw [endsWith, Bool.eq_false_iff]
  intro hends
  obtain ⟨before, rfl⟩ := List.isSuffixOf_iff_suffix.mp hends
  apply hne
  simpa using hc.symm

theorem bracketDepth_phrase (h : Phrase (ofText text)) : bracketDepth text = 0 := by
  have hdepth := bracketDepth_textOf (ofText text) h.regular
  rw [textOf_ofText, h.level] at hdepth
  exact hdepth

/-- A phrase is neither continued on the next line nor cut short. -/
theorem join_phrase {line : Line} (h : Phrase (ofText line.text))
    (hend : line.text ≠ "__END__".toList) (rest : List Line) :
    join {} {} (line :: rest) =
      { draft := { text := line.text, line := line.number, joined := 1 }, cutShort := false
        reader := { lines := rest } } := by
  have htrimmed := trimmed_of_phrase h
  obtain ⟨last, hlast, hclosing⟩ := h.last
  rw [textOf_ofText] at hlast
  have hcomma : last ≠ ',' := ne_of_test hclosing rfl
  have hbackslash : last ≠ '\\' := ne_of_test hclosing rfl
  have hdrop : dropEndWhile (· == '\\') line.text = line.text :=
    dropEndWhile_eq_self ⟨last, hlast, by simpa using hbackslash⟩
  have hadd : ({} : Draft).add line.number line.text =
      { text := line.text, line := line.number, joined := 1 } := by
    rw [Draft.add, hdrop, htrimmed.trimEnd_eq]
    rfl
  have hcontinues : ({ text := line.text, line := line.number, joined := 1 } : Draft).continues
      line.text = false := by
    rw [Draft.continues, endsWith_eq_false hlast hcomma, endsWith_eq_false hlast hbackslash]
    simp [bracketDepth_phrase h]
  have hread := read_ofText h hend
  cases htext : line.text with
  | nil => exact absurd htext (ne_nil_of_phrase h)
  | cons c code =>
    rw [htext] at hread hadd hcontinues
    simp [join, htext, hread, hadd, hcontinues]

theorem statements_cons {line : Line} (h : Phrase (ofText line.text))
    (hend : line.text ≠ "__END__".toList) (rest : List Line) :
    Reader.statements { lines := line :: rest } =
      line.statement :: Reader.statements { lines := rest } := by
  have hnext : Reader.next { lines := line :: rest } =
      { draft := { text := line.text, line := line.number, joined := 1 }, cutShort := false
        reader := { lines := rest } } := join_phrase h hend rest
  have hne : (Reader.next { lines := line :: rest }).draft.text ≠ [] := by
    rw [hnext]
    exact ne_nil_of_phrase h
  rw [Reader.statements, dif_neg hne]
  simp only [hnext, Joined.statements, splitOutside_semicolon h]
  rfl

theorem statements_numberLines {texts : List (List Char)}
    (h : ∀ text ∈ texts, Phrase (ofText text) ∧ text ≠ "__END__".toList) (first : Nat) :
    Reader.statements { lines := numberLines first texts } =
      (numberLines first texts).map Line.statement := by
  induction texts generalizing first with
  | nil =>
    have hempty : (Reader.next { lines := [] }).draft.text = [] := rfl
    rw [numberLines, Reader.statements, dif_pos hempty, List.map_nil]
  | cons text texts ih =>
    obtain ⟨hphrase, hend⟩ := h text List.mem_cons_self
    have hrest := ih (fun other hother => h other (List.mem_cons_of_mem _ hother)) (first + 1)
    rw [numberLines, statements_cons hphrase hend, hrest, List.map_cons]

/-- A phrase that no line feed ends is a statement. -/
theorem statements_phrase (h : Phrase (ofText text)) (hend : text ≠ "__END__".toList) :
    statements text = [{ line := 1, text, cutShort := false }] := by
  have hlines := lines_eq_singleton (not_mem_of_phrase h rfl) (ne_nil_of_phrase h)
  rw [statements, hlines, statements_numberLines (List.forall_mem_singleton.mpr ⟨h, hend⟩)]
  rfl

/-- The statements of a file of phrases are its lines. -/
theorem statements_endLines {texts : List (List Char)}
    (h : ∀ text ∈ texts, Phrase (ofText text) ∧ text ≠ "__END__".toList) :
    statements (endLines texts) = (numberLines 1 texts).map Line.statement := by
  have hlines : lines (endLines texts) = texts := by
    apply lines_endLines
    intro text htext
    have hphrase := (h text htext).1
    refine ⟨not_mem_of_phrase hphrase rfl, fun hlast => ?_⟩
    exact not_mem_of_phrase hphrase rfl (List.mem_of_getLast? hlast)
  rw [statements, hlines, statements_numberLines h]

end ForeignKeyLint.Ruby
