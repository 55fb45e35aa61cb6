import ForeignKeyLint.Proofs.Ruby.Element
import ForeignKeyLint.Proofs.Ruby.ValueText

/-!
The block that a printed call opens at its end. The reader looks for the first blank with an opener
after it, and looks inside strings too, since it does not tell them from code here. Main statement:
in a printed call the first such blank is the one before the block, if there is a block, whatever the
strings hold. Outside strings every blank stands before an operand. Inside a string the closing quote
has to belong to the parameters, hence to stand before the last bar, and no bar may stand between.
-/

namespace ForeignKeyLint.Ruby

open Text

/-- The parameters of a block as they stand between its bars. -/
def parameterText (names : List String) : List Char :=
  (", ".intercalate names).toList

/-- The text that opens a block with these parameters. -/
def blockText : Option (List String) → List Char
  | none => []
  | some [] => [' ', 'd', 'o']
  | some (first :: others) => [' ', 'd', 'o', ' ', '|'] ++ parameterText (first :: others) ++ ['|']

-- Written out, because the generated equation would take the test for blanks apart.
theorem openerAfterBlank?_cons (c : Char) (rest : List Char) :
    openerAfterBlank? (c :: rest) =
      match if isBlank c then openerAt? rest else none with
      | some parameters => some ([], parameters)
      | none => (openerAfterBlank? rest).map fun (before, parameters) =>
        (c :: before, parameters) := by
  exact (rfl)

/-- Blanks that no opener follows are passed over. -/
theorem openerAfterBlank?_append {text tail : List Char}
    (h : ∀ before c after, text = before ++ c :: after → isBlank c = true →
      openerAt? (after ++ tail) = none) :
    openerAfterBlank? (text ++ tail) =
      (openerAfterBlank? tail).map fun (before, parameters) => (text ++ before, parameters) := by
  induction text with
  | nil => simp
  | cons c rest ih =>
    have hrest := ih fun before other after heq hblank =>
      h (c :: before) other after (congrArg (c :: ·) heq) hblank
    have hhere : (if isBlank c then openerAt? (rest ++ tail) else none) = none := by
      split
      · next hblank => exact h [] c rest rfl hblank
      · rfl
    rw [List.cons_append, openerAfterBlank?_cons, hhere, hrest, Option.map_map]
    rfl

/-- After its first bar the text is not blank. -/
def EndsBeyondBar (text : List Char) : Prop :=
  ∀ names after, text = names ++ '|' :: after → '|' ∉ names → isAllBlank after = false

theorem EndsBeyondBar.of_getLast? {text : List Char}
    (h : ∀ c ∈ text.getLast?, isBlank c = false ∧ (c ≠ '|' ∨ '|' ∈ text.dropLast)) :
    EndsBeyondBar text := by
  rintro names after rfl hnames
  rw [Bool.eq_false_iff]
  intro hblank
  rcases List.eq_nil_or_concat after with rfl | ⟨after, last, rfl⟩
  · obtain ⟨-, hbar | hbar⟩ := h '|' (by simp)
    · exact hbar rfl
    · simp [hnames] at hbar
  · have hconcat : names ++ '|' :: after.concat last = names ++ '|' :: after ++ [last] := by simp
    have hlast := (h last (by rw [hconcat, List.getLast?_concat]; rfl)).1
    have hall := List.all_eq_true.mp hblank last (by simp)
    rw [hall] at hlast
    contradiction

/-- A character on the way to the end that is neither blank nor a bar keeps a text from being parameters. -/
theorem blockParameters?_append_cons {c : Char} (hblank : isBlank c = false) (hbar : c ≠ '|')
    {after : List Char} (h : EndsBeyondBar after) (before : List Char) :
    blockParameters? (before ++ c :: after) = none := by
  have hstart : trimStart (before ++ c :: after) = trimStart before ++ c :: after := by
    have hstop : (c :: after).dropWhile isBlank = c :: after := by simp [hblank]
    rw [trimStart, trimStart, List.dropWhile_append, hstop]
    split
    · next hempty => rw [List.isEmpty_iff.mp hempty, List.nil_append]
    · rfl
  unfold blockParameters?
  rw [hstart]
  cases htrimmed : trimStart before with
  | nil => simp [hbar]
  | cons first rest =>
    by_cases hfirst : first = '|'
    · subst hfirst
      simp only [List.cons_append]
      cases hsplit : splitAtFirst? ['|'] (rest ++ c :: after) with
      | none => rfl
      | some parts =>
        obtain ⟨names, remainder⟩ := parts
        have hnames := not_mem_of_splitAtFirst? hsplit
        have happend := eq_append_of_splitAtFirst? hsplit
        rw [List.append_assoc, List.singleton_append] at happend
        have hremainder : isAllBlank remainder = false := by
          rcases List.append_eq_append_iff.mp happend with ⟨more, rfl, heq⟩ | ⟨more, -, heq⟩
          · cases more with
            | nil => exact absurd (List.cons.inj heq).1 hbar
            | cons next more =>
              obtain ⟨-, rfl⟩ := List.cons.inj heq
              apply h more remainder rfl
              intro hmem
              exact hnames (by simp [hmem])
          · cases more with
            | nil => exact absurd (List.cons.inj heq).1.symm hbar
            | cons bar more =>
              obtain ⟨-, rfl⟩ := List.cons.inj heq
              simp [isAllBlank, hblank]
        simp [hremainder]
    · simp [hfirst]

/-- Such a character keeps a text from opening a block, if it is none of the opener. -/
theorem openerAt?_append_cons {c : Char} (hblank : isBlank c = false) (hc : c ∉ ['|', 'd', 'o'])
    {after : List Char} (h : EndsBeyondBar after) (before : List Char) :
    openerAt? (before ++ c :: after) = none := by
  simp only [List.mem_cons, List.not_mem_nil, or_false, not_or] at hc
  unfold openerAt?
  split
  · next rest heq =>
    rcases before with _ | ⟨first, _ | ⟨second, middle⟩⟩
    · exact absurd (List.cons.inj heq).1 hc.2.1
    · exact absurd (List.cons.inj (List.cons.inj heq).2).1 hc.2.2
    · obtain rfl : middle ++ c :: after = rest := (List.cons.inj (List.cons.inj heq).2).2
      exact blockParameters?_append_cons hblank hc.1 h middle
  · rfl

/-- A character of a text in pieces is a piece of its own or stands in a string. -/
theorem exists_piece_of_textOf {span : List Piece} {before after : List Char} {c : Char}
    (h : textOf span = before ++ c :: after) (hc : c ≠ '"') :
    (∃ first second, span = first ++ .char c :: second ∧ after = textOf second) ∨
      ∃ first content second middle, span = first ++ .quoted content :: second ∧
        after = middle ++ '"' :: textOf second := by
  induction span generalizing before with
  | nil => simp at h
  | cons piece span ih =>
    rw [textOf_cons] at h
    rcases List.append_eq_append_iff.mp h with ⟨middle, rfl, heq⟩ | ⟨middle, hpiece, heq⟩
    · -- The character stands after this piece.
      rcases ih heq with ⟨first, second, rfl, hafter⟩ | ⟨first, content, second, inner, rfl, hafter⟩
      · exact .inl ⟨piece :: first, second, rfl, hafter⟩
      · exact .inr ⟨piece :: first, content, second, inner, rfl, hafter⟩
    · cases middle with
      | nil =>
        have hrest : textOf span = [] ++ c :: after := heq.symm
        rcases ih hrest with
          ⟨first, second, rfl, hafter⟩ | ⟨first, content, second, inner, rfl, hafter⟩
        · exact .inl ⟨piece :: first, second, rfl, hafter⟩
        · exact .inr ⟨piece :: first, content, second, inner, rfl, hafter⟩
      | cons found middle =>
        obtain ⟨rfl, rfl⟩ := List.cons.inj heq
        cases piece with
        | char other =>
          have hsingle : [other] = before ++ c :: middle := hpiece
          rcases List.singleton_eq_append_iff.mp hsingle with ⟨-, hlast⟩ | ⟨-, hlast⟩
          · obtain ⟨rfl, rfl⟩ := List.cons.inj hlast
            exact .inl ⟨[], span, rfl, rfl⟩
          · simp at hlast
        | quoted content =>
          have hlast : (before ++ c :: middle).getLast? = some '"' := by
            rw [← hpiece]
            exact List.getLast?_append_of_ne_nil _ (List.cons_ne_nil _ _)
          rcases List.eq_nil_or_concat middle with rfl | ⟨middle, last, rfl⟩
          · simp [hc] at hlast
          · have hconcat : before ++ c :: middle.concat last = before ++ c :: middle ++ [last] := by
              simp
            rw [hconcat, List.getLast?_concat, Option.some.injEq] at hlast
            subst hlast
            exact .inr ⟨[], content, span, middle, rfl, by simp⟩

/-- A call up to its block, as far as the search for the block depends on it. -/
structure Body (span : List Piece) : Prop where
  regular : ∀ piece ∈ span, piece.Regular
  spaces : ∀ c, .char c ∈ span → isBlank c = true → c = ' '
  steady : Steady span
  head : ∃ c ∈ (textOf span).head?, isBlank c = false
  last : ∃ c ∈ (textOf span).getLast?, isBlank c = false ∧ c ≠ ';' ∧ c ≠ '|'

theorem eq_space_of_isPlain {c : Char} (h : isPlain c = true) (hblank : isBlank c = true) :
    c = ' ' := by
  simp only [isPlain, Bool.or_eq_true, List.contains_eq_mem, decide_eq_true_eq] at h
  rcases h with hword | hmark
  · rw [isBlank_eq_false_of_isWordChar hword] at hblank
    contradiction
  · have hmarks : [':', '.', '!', '?', ',', ' ', '[', ']', '{', '}'].all
        (fun mark => !isBlank mark || mark == ' ') = true := rfl
    have hspace := List.all_eq_true.mp hmarks c hmark
    simpa [hblank] using hspace

theorem Phrase.body {span : List Piece} (h : Phrase span) : Body span := by
  obtain ⟨c, hc, hclosing⟩ := h.last
  refine ⟨h.regular, ?_, h.steady, h.head, c, hc, isBlank_eq_false_of_isClosing hclosing,
    ne_of_test hclosing rfl, ne_of_test hclosing rfl⟩
  intro other hother hblank
  exact eq_space_of_isPlain (h.plain _ hother) hblank

theorem endsBeyondBar_blockText {text : List Char}
    (h : ∀ c ∈ text.getLast?, isBlank c = false ∧ c ≠ '|') (block : Option (List String)) :
    EndsBeyondBar (text ++ blockText block) := by
  apply EndsBeyondBar.of_getLast?
  intro c hc
  cases block with
  | none =>
    rw [blockText, List.append_nil] at hc
    obtain ⟨hblank, hbar⟩ := h c hc
    exact ⟨hblank, .inl hbar⟩
  | some parameters =>
    cases parameters with
    | nil =>
      obtain rfl : 'o' = c := by simpa [blockText] using hc
      exact ⟨rfl, .inl (by decide)⟩
    | cons first others =>
      rw [blockText, ← List.append_assoc, List.getLast?_concat] at hc
      obtain rfl : '|' = c := by simpa using hc
      refine ⟨rfl, .inr ?_⟩
      rw [blockText, ← List.append_assoc, List.dropLast_concat]
      simp

namespace Body

variable {span : List Piece}

/-- No blank of the body has an opener after it. -/
theorem openerAt?_after_blank (h : Body span) (block : Option (List String))
    {before after : List Char} {c : Char} (htext : textOf span = before ++ c :: after)
    (hblank : isBlank c = true) : openerAt? (after ++ blockText block) = none := by
  have hquote : c ≠ '"' := by
    rintro rfl
    contradiction
  rcases exists_piece_of_textOf htext hquote with
    ⟨first, second, rfl, rfl⟩ | ⟨first, content, second, middle, rfl, rfl⟩
  · obtain rfl := h.spaces c (by simp) hblank
    exact (h.steady first second (blockText block) rfl).not_opener
  · have hends : EndsBeyondBar (textOf second ++ blockText block) := by
      apply endsBeyondBar_blockText
      intro last hlast
      obtain ⟨other, hother, hblank, -, hbar⟩ := h.last
      have hne : textOf second ≠ [] := by
        intro hnil
        simp [hnil] at hlast
      rw [textOf_append, textOf_cons, ← List.append_assoc,
        List.getLast?_append_of_ne_nil _ hne] at hother
      obtain rfl : other = last := Option.some.inj (hother.symm.trans hlast)
      exact ⟨hblank, hbar⟩
    rw [List.append_assoc, List.cons_append]
    exact openerAt?_append_cons rfl (by decide) hends _

end Body

theorem map_trim_splitOn_space {c : Char} (hc : ' ' ≠ c) (text : List Char) :
    (splitOn c (' ' :: text)).map trim = (splitOn c text).map trim := by
  rw [splitOn, if_neg hc]
  cases hsplit : splitOn c text with
  | nil => exact absurd hsplit (splitOn_ne_nil c text)
  | cons part others =>
    have hspace : trim (' ' :: part) = trim part := by simp [trim, trimStart, isBlank]
    simp [hspace]

theorem trimmed_of_isIdentifier {text : List Char} (h : isIdentifier text = true) :
    Trimmed text := by
  have hchars := isNameChar_of_mem_identifier h
  obtain ⟨c, hc, hclosing⟩ := getLast?_of_isIdentifier h
  refine ⟨?_, c, hc, isBlank_eq_false_of_isClosing hclosing⟩
  cases text with
  | nil => simp at hc
  | cons first rest =>
    exact ⟨first, rfl, (facts_of_isNameChar (hchars first List.mem_cons_self)).2.2⟩

/-- Parameters are told apart by the commas between them. -/
theorem map_trim_splitOn_parameterText (first : String) (others : List String)
    (h : ∀ name ∈ first :: others, isIdentifier name.toList = true) :
    (splitOn ',' (parameterText (first :: others))).map trim =
      (first :: others).map String.toList := by
  have hcomma (name : String) (hname : isIdentifier name.toList = true) : ',' ∉ name.toList :=
    fun hmem => absurd (isNameChar_of_mem_identifier hname _ hmem) (by decide)
  induction others generalizing first with
  | nil =>
    have hfirst := h first List.mem_cons_self
    simp [parameterText, splitOn_eq_self (hcomma first hfirst),
      (trimmed_of_isIdentifier hfirst).trim_eq]
  | cons next others ih =>
    have hfirst := h first List.mem_cons_self
    have hrest := ih next fun name hname => h name (List.mem_cons_of_mem _ hname)
    have htext : parameterText (first :: next :: others) =
        first.toList ++ ',' :: ' ' :: parameterText (next :: others) := by
      rw [parameterText, String.intercalate_cons_cons]
      simp [parameterText]
    rw [htext, splitOn_append (hcomma first hfirst), List.map_cons,
      map_trim_splitOn_space (by decide), hrest, (trimmed_of_isIdentifier hfirst).trim_eq]
    rfl

theorem not_mem_parameterText {c : Char} (hc : isNameChar c = false) (hcomma : c ≠ ',')
    (hspace : c ≠ ' ') {names : List String}
    (h : ∀ name ∈ names, isIdentifier name.toList = true) :
    c ∉ parameterText names := by
  intro hmem
  have hpiece : .char c ∈ ofText (", ".intercalate names).toList := List.mem_map_of_mem hmem
  rw [← commaJoin_ofText] at hpiece
  rcases mem_commaJoin hpiece with heq | heq | ⟨span, hspan, hpiece⟩
  · exact hcomma (Piece.char.inj heq)
  · exact hspace (Piece.char.inj heq)
  · obtain ⟨name, hname, rfl⟩ := List.mem_map.mp hspan
    obtain ⟨other, hother, heq⟩ := List.mem_map.mp hpiece
    obtain rfl := Piece.char.inj heq
    rw [isNameChar_of_mem_identifier (h name hname) other hother] at hc
    contradiction

theorem blockParameters?_bars {text names : List Char} (h : trimStart text = '|' :: (names ++ ['|']))
    (hnames : '|' ∉ names) :
    blockParameters? text =
      some ((((splitOn ',' names).map trim).filter (!·.isEmpty)).map String.ofList) := by
  have hsplit := splitAtFirst?_char hnames []
  unfold blockParameters?
  rw [h]
  simp only [hsplit]
  rfl

/-- The opener of a block gives its parameters back. -/
theorem openerAfterBlank?_blockText (block : Option (List String))
    (h : ∀ parameters ∈ block, ∀ name ∈ parameters, isIdentifier name.toList = true) :
    openerAfterBlank? (blockText block) = block.map ([], ·) := by
  cases block with
  | none => rfl
  | some parameters =>
    have hnames := h parameters rfl
    cases parameters with
    | nil => rfl
    | cons first others =>
      have hbar : '|' ∉ parameterText (first :: others) :=
        not_mem_parameterText rfl (by decide) (by decide) hnames
      have hkept : ∀ text ∈ (first :: others).map String.toList, (!text.isEmpty) = true := by
        intro text htext
        obtain ⟨name, hname, rfl⟩ := List.mem_map.mp htext
        simpa using ne_nil_of_isIdentifier (hnames name hname)
      have hback : ((first :: others).map String.toList).map String.ofList = first :: others := by
        simp [Function.comp_def]
      have htext : blockText (some (first :: others)) =
          ' ' :: 'd' :: 'o' :: ' ' :: '|' :: (parameterText (first :: others) ++ ['|']) := rfl
      have hstart : trimStart (' ' :: '|' :: (parameterText (first :: others) ++ ['|'])) =
          '|' :: (parameterText (first :: others) ++ ['|']) := rfl
      have hopener : openerAt? ('d' :: 'o' :: ' ' :: '|' ::
          (parameterText (first :: others) ++ ['|'])) = some (first :: others) := by
        have hparameters := blockParameters?_bars hstart hbar
        rw [map_trim_splitOn_parameterText first others hnames, List.filter_eq_self.mpr hkept,
          hback] at hparameters
        exact hparameters
      rw [htext, openerAfterBlank?_cons, hopener]
      rfl

/-- The block of a printed call is found at its end, and none is found if there is none. -/
theorem Body.blockOpener?_blockText {span : List Piece} (h : Body span)
    {block : Option (List String)}
    (hblock : ∀ parameters ∈ block, ∀ name ∈ parameters, isIdentifier name.toList = true)
    (hstart : openerAt? (textOf span ++ blockText block) = none) :
    blockOpener? (textOf span ++ blockText block) = block.map (textOf span, ·) := by
  have hlater := openerAfterBlank?_append fun before c after htext hblank =>
    h.openerAt?_after_blank block htext hblank
  rw [blockOpener?, hstart]
  dsimp only
  rw [hlater, openerAfterBlank?_blockText block hblock, Option.map_map]
  cases block <;> simp

theorem Body.bareStatement_blockText {span : List Piece} (h : Body span)
    (block : Option (List String)) :
    bareStatement (textOf span ++ blockText block) = textOf span ++ blockText block := by
  obtain ⟨last, hlast, hblank, hsemicolon⟩ :
      ∃ c ∈ (textOf span ++ blockText block).getLast?, isBlank c = false ∧ c ≠ ';' := by
    cases block with
    | none =>
      obtain ⟨c, hc, hblank, hsemicolon, -⟩ := h.last
      exact ⟨c, by simpa [blockText] using hc, hblank, hsemicolon⟩
    | some parameters =>
      cases parameters with
      | nil => exact ⟨'o', by simp [blockText], rfl, by decide⟩
      | cons first others =>
        refine ⟨'|', ?_, rfl, by decide⟩
        rw [blockText, ← List.append_assoc, List.getLast?_concat]
        rfl
  have htrimmed : Trimmed (textOf span ++ blockText block) := by
    refine ⟨?_, last, hlast, hblank⟩
    obtain ⟨c, hc, hhead⟩ := h.head
    refine ⟨c, ?_, hhead⟩
    rw [List.head?_append, Option.mem_def.mp hc]
    rfl
  have hend : ∃ c ∈ (textOf span ++ blockText block).getLast?, (c == ';') = false :=
    ⟨last, hlast, by simpa using hsemicolon⟩
  rw [bareStatement, htrimmed.trim_eq, dropEndWhile_eq_self hend, htrimmed.trimEnd_eq]

end ForeignKeyLint.Ruby
