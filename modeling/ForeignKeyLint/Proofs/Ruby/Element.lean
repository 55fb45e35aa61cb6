import ForeignKeyLint.Proofs.Ruby.Pieces
import ForeignKeyLint.Ruby.Call
import Mathlib.Data.List.TakeWhile

/-!
Elements of a printed statement: symbols, strings, words, bracketed lists of elements, and elements
after a key. Whatever the names in it, an element holds no comma outside its brackets, closes the
brackets it opens, and none of its spaces stands before a condition or the opener of a block. These
facts are kept by brackets and by keys, so they hold of elements nested to any depth.
-/

namespace ForeignKeyLint.Ruby

open Text

/-- A letter or an underscore, and then letters, digits and underscores. -/
def isName (text : List Char) : Bool :=
  match text with
  | [] => false
  | first :: rest => (first.isAlpha || first == '_') && rest.all isWordChar

theorem isWordChar_of_mem_name {name : List Char} (h : isName name = true) :
    ∀ c ∈ name, isWordChar c = true := by
  cases name with
  | nil => simp
  | cons first rest =>
    simp only [isName, Bool.and_eq_true, Bool.or_eq_true, List.all_eq_true] at h
    intro c hc
    rcases List.mem_cons.mp hc with rfl | hc
    · simp only [isWordChar, Char.isAlphanum, Bool.or_eq_true]
      exact h.1.imp_left .inl
    · exact h.2 c hc

theorem isIdentifier_of_isName {name : List Char} (h : isName name = true) :
    isIdentifier name = true := by
  cases name with
  | nil => simp [isName] at h
  | cons first rest =>
    simp only [isName, Bool.and_eq_true, List.all_eq_true] at h
    have hrest : rest.dropWhile isWordChar = [] := List.dropWhile_eq_nil_iff.mpr h.2
    simp [isIdentifier, h.1, hrest]

theorem isName_of_isIdentifier {text : List Char} (h : isIdentifier text = true)
    (hword : ∀ c ∈ text, isWordChar c = true) : isName text = true := by
  cases text with
  | nil => contradiction
  | cons first rest =>
    simp only [isIdentifier, Bool.and_eq_true] at h
    rw [isName, h.1, Bool.true_and, List.all_eq_true]
    exact fun c hc => hword c (List.mem_cons_of_mem _ hc)

theorem ne_of_test {test : Char → Bool} {c other : Char} (h : test c = true)
    (hother : test other = false) : c ≠ other := by
  rintro rfl
  rw [h] at hother
  contradiction

theorem isBlank_eq_false_of_isWordChar {c : Char} (h : isWordChar c = true) :
    isBlank c = false := by
  have hrange : 48 ≤ c.toNat ∧ c.toNat ≤ 122 := by
    rcases Bool.or_eq_true_iff.mp h with h | h
    · rcases Bool.or_eq_true_iff.mp h with h | h
      · rcases Bool.or_eq_true_iff.mp h with h | h
        · obtain ⟨hlow, hhigh⟩ := of_decide_eq_true h
          exact ⟨Nat.le_trans (by decide) hlow, Nat.le_trans hhigh (by decide)⟩
        · obtain ⟨hlow, hhigh⟩ := Bool.and_eq_true_iff.mp h
          exact ⟨Nat.le_trans (by decide) (of_decide_eq_true hlow),
            Nat.le_trans (of_decide_eq_true hhigh) (by decide)⟩
      · obtain ⟨hlow, hhigh⟩ := Char.isDigit_iff_toNat.mp h
        exact ⟨hlow, Nat.le_trans hhigh (by decide)⟩
    · rw [eq_of_beq h]
      decide
  simp only [isBlank, Bool.or_eq_false_iff, Bool.and_eq_false_iff, decide_eq_false_iff_not,
    beq_eq_false_iff_ne]
  omega

theorem bracketStep_of_isWordChar {c : Char} (h : isWordChar c = true) : bracketStep c = 0 := by
  unfold bracketStep
  split
  case h_7 => rfl
  all_goals exact absurd h (by decide)

/-- Characters of printed calls outside strings. -/
def isPlain (c : Char) : Bool :=
  isWordChar c || [':', '.', '!', '?', ',', ' ', '[', ']', '{', '}'].contains c

/-- Characters of symbols, words and the heads of calls. -/
def isTokenChar (c : Char) : Bool :=
  isWordChar c || [':', '.', '!', '?'].contains c

theorem isTokenChar_of_isWordChar {c : Char} (h : isWordChar c = true) : isTokenChar c = true := by
  simp [isTokenChar, h]

theorem facts_of_isTokenChar {c : Char} (h : isTokenChar c = true) :
    isPlain c = true ∧ bracketStep c = 0 ∧ isBlank c = false ∧ c ≠ ',' ∧ c ≠ ' ' := by
  simp only [isTokenChar, Bool.or_eq_true, List.contains_eq_mem, decide_eq_true_eq, List.mem_cons,
    List.not_mem_nil, or_false] at h
  rcases h with hword | rfl | rfl | rfl | rfl
  · exact ⟨by simp [isPlain, hword], bracketStep_of_isWordChar hword,
      isBlank_eq_false_of_isWordChar hword, ne_of_test hword rfl, ne_of_test hword rfl⟩
  all_goals decide

/-- Characters a printed call may end with. -/
def isClosing (c : Char) : Bool :=
  isWordChar c || ['"', ']', '}', '!', '?'].contains c

theorem isBlank_eq_false_of_isClosing {c : Char} (h : isClosing c = true) : isBlank c = false := by
  simp only [isClosing, Bool.or_eq_true, List.contains_eq_mem, decide_eq_true_eq, List.mem_cons,
    List.not_mem_nil, or_false] at h
  rcases h with hword | rfl | rfl | rfl | rfl | rfl
  · exact isBlank_eq_false_of_isWordChar hword
  all_goals rfl

/-- Characters of identifiers. -/
def isNameChar (c : Char) : Bool :=
  isWordChar c || ['!', '?'].contains c

theorem facts_of_isNameChar {c : Char} (h : isNameChar c = true) :
    isTokenChar c = true ∧ isClosing c = true ∧ isBlank c = false := by
  simp only [isNameChar, Bool.or_eq_true, List.contains_eq_mem, decide_eq_true_eq, List.mem_cons,
    List.not_mem_nil, or_false] at h
  rcases h with hword | rfl | rfl
  · exact ⟨isTokenChar_of_isWordChar hword, by simp [isClosing, hword],
      isBlank_eq_false_of_isWordChar hword⟩
  all_goals decide

theorem isNameChar_of_mem_identifier {text : List Char} (h : isIdentifier text = true) :
    ∀ c ∈ text, isNameChar c = true := by
  cases text with
  | nil => simp
  | cons first rest =>
    simp only [isIdentifier, Bool.and_eq_true] at h
    obtain ⟨hfirst, hend⟩ := h
    intro c hc
    rcases List.mem_cons.mp hc with rfl | hc
    · have hword : isWordChar c = true := by
        simp only [isWordChar, Char.isAlphanum, Bool.or_eq_true] at hfirst ⊢
        exact hfirst.imp_left .inl
      simp [isNameChar, hword]
    · rw [← List.takeWhile_append_dropWhile (p := isWordChar) (l := rest)] at hc
      rcases List.mem_append.mp hc with hc | hc
      · simp [isNameChar, List.mem_takeWhile_imp hc]
      · revert hend
        split
        · next hnil => simp [hnil] at hc
        · next last hlast =>
          rw [hlast, List.mem_singleton] at hc
          subst hc
          intro hmark
          have hmarks : c = '!' ∨ c = '?' := by simpa using hmark
          simp [isNameChar, hmarks]
        · simp

theorem ne_nil_of_isIdentifier {text : List Char} (h : isIdentifier text = true) : text ≠ [] := by
  rintro rfl
  simp [isIdentifier] at h

theorem getLast?_of_isIdentifier {text : List Char} (h : isIdentifier text = true) :
    ∃ c ∈ text.getLast?, isClosing c = true := by
  have hne := ne_nil_of_isIdentifier h
  have hlast := isNameChar_of_mem_identifier h _ (List.getLast_mem hne)
  exact ⟨text.getLast hne, List.getLast?_eq_some_getLast hne, (facts_of_isNameChar hlast).2.1⟩

namespace Piece

/-- A plain character, or a string that ends at its closing quote. -/
def Plain : Piece → Prop
  | .char c => isPlain c = true
  | .quoted content => '"' ∉ content ∧ '\\' ∉ content

theorem Plain.regular {piece : Piece} (h : piece.Plain) : piece.Regular := by
  cases piece with
  | char c =>
    have hne (other : Char) (hother : isPlain other = false) : c ≠ other := ne_of_test h hother
    exact ⟨hne _ rfl, hne _ rfl, hne _ rfl, hne _ rfl, hne _ rfl⟩
  | quoted content => exact h

end Piece

/-- A text after a space that is neither a condition nor the opener of a block. -/
structure StartsOperand (text : List Char) : Prop where
  not_if : beginsWith "if ".toList text = false
  not_unless : beginsWith "unless ".toList text = false
  not_opener : openerAt? text = none

theorem StartsOperand.of_head {c : Char} (h : c ∉ ['i', 'u', 'd']) (text : List Char) :
    StartsOperand (c :: text) := by
  simp only [List.mem_cons, List.not_mem_nil, or_false, not_or] at h
  refine ⟨?_, ?_, ?_⟩
  · simp [beginsWith, List.isPrefixOf, Ne.symm h.1]
  · simp [beginsWith, List.isPrefixOf, Ne.symm h.2.1]
  · unfold openerAt?
    split
    · next heq => exact absurd (List.cons.inj heq).1 h.2.2
    · rfl

theorem beginsWith_eq_false_of_key (word : List Char) {key : List Char}
    (hword : ∀ c ∈ word, isNameChar c = true) (hkey : ∀ c ∈ key, isNameChar c = true)
    (text : List Char) :
    beginsWith (word ++ [' ']) (key ++ ':' :: text) = false := by
  rw [beginsWith, Bool.eq_false_iff]
  intro hbegins
  obtain ⟨rest, hrest⟩ := List.isPrefixOf_iff_prefix.mp hbegins
  have hafter := congrArg (List.dropWhile isNameChar) hrest
  rw [List.append_assoc, List.dropWhile_append_of_pos hword, List.dropWhile_append_of_pos hkey]
    at hafter
  have hspace : isNameChar ' ' = false := rfl
  have hcolon : isNameChar ':' = false := rfl
  simp [hspace, hcolon] at hafter

theorem blockParameters?_eq_none {c : Char} (hblank : isBlank c = false) (hbar : c ≠ '|')
    (text : List Char) : blockParameters? (c :: text) = none := by
  have hstart : trimStart (c :: text) = c :: text := by simp [trimStart, hblank]
  rw [blockParameters?, hstart]
  simp [hbar]

theorem blockParameters?_space_cons (text : List Char) :
    blockParameters? (' ' :: text) = blockParameters? text := by
  have hstart : trimStart (' ' :: text) = trimStart text := by simp [trimStart, isBlank]
  rw [blockParameters?, hstart, blockParameters?]

theorem openerAt?_key {key : List Char} (hkey : ∀ c ∈ key, isNameChar c = true)
    (text : List Char) : openerAt? (key ++ ':' :: text) = none := by
  unfold openerAt?
  split
  · next rest heq =>
    match key, hkey with
    | [], _ => simp at heq
    | [_], _ => simp at heq
    | [_, _], _ =>
      obtain rfl : ':' :: text = rest := by simpa using (List.cons.inj (List.cons.inj heq).2).2
      exact blockParameters?_eq_none rfl (by decide) text
    | _ :: _ :: c :: key, hkey =>
      obtain rfl : c :: (key ++ ':' :: text) = rest := by
        simpa using (List.cons.inj (List.cons.inj heq).2).2
      have hc : isNameChar c = true := hkey c (by simp)
      exact blockParameters?_eq_none (facts_of_isNameChar hc).2.2 (ne_of_test hc rfl) _
  · rfl

/-- A key is no keyword, even if it is spelled like one, because a colon follows it. -/
theorem StartsOperand.of_key {key : List Char} (hkey : ∀ c ∈ key, isNameChar c = true)
    (text : List Char) : StartsOperand (key ++ ':' :: text) where
  not_if := beginsWith_eq_false_of_key "if".toList (List.all_eq_true.mp rfl) hkey text
  not_unless := beginsWith_eq_false_of_key "unless".toList (List.all_eq_true.mp rfl) hkey text
  not_opener := openerAt?_key hkey text

/-- Every space of the span stands before an operand, whatever follows the span. -/
def Steady (span : List Piece) : Prop :=
  ∀ before after more, span = before ++ .char ' ' :: after → StartsOperand (textOf after ++ more)

namespace Steady

variable {first second : List Piece}

theorem of_not_mem (h : .char ' ' ∉ first) : Steady first := by
  rintro before after more rfl
  simp at h

theorem append (hfirst : Steady first) (hsecond : Steady second) : Steady (first ++ second) := by
  intro before after more heq
  rcases List.append_eq_append_iff.mp heq with ⟨middle, rfl, hsplit⟩ | ⟨middle, rfl, hsplit⟩
  · exact hsecond middle after more hsplit
  · cases middle with
    | nil => exact hsecond [] after more hsplit.symm
    | cons piece middle =>
      rw [List.cons_append] at hsplit
      obtain ⟨rfl, rfl⟩ := List.cons.inj hsplit
      rw [textOf_append, List.append_assoc]
      exact hfirst before middle _ rfl

theorem space_cons (hstarts : ∀ more, StartsOperand (textOf first ++ more)) (h : Steady first) :
    Steady (.char ' ' :: first) := by
  intro before after more heq
  cases before with
  | nil =>
    obtain ⟨-, rfl⟩ := List.cons.inj heq
    exact hstarts more
  | cons piece before =>
    obtain ⟨-, rfl⟩ := List.cons.inj heq
    exact h before after more rfl

end Steady

/-- What the readers of statements rely on in any part of a printed call. -/
structure Phrase (span : List Piece) : Prop where
  plain : ∀ piece ∈ span, piece.Plain
  level : depthOf span = 0
  nested : Nested span
  head : ∃ c ∈ (textOf span).head?, isBlank c = false
  last : ∃ c ∈ (textOf span).getLast?, isClosing c = true
  steady : Steady span

namespace Phrase

variable {first second span : List Piece}

theorem trimmed (h : Phrase span) : Trimmed (textOf span) := by
  obtain ⟨c, hc, hclosing⟩ := h.last
  exact ⟨h.head, c, hc, isBlank_eq_false_of_isClosing hclosing⟩

theorem regular (h : Phrase span) : ∀ piece ∈ span, piece.Regular := by
  intro piece hpiece
  exact (h.plain piece hpiece).regular

theorem exists_head (h : Phrase span) :
    ∃ c rest, textOf span = c :: rest ∧ isBlank c = false ∧ c ≠ '|' := by
  cases span with
  | nil =>
    obtain ⟨c, hc, -⟩ := h.head
    simp at hc
  | cons piece span =>
    obtain ⟨c, hc, hblank⟩ := h.head
    have hplain := h.plain piece List.mem_cons_self
    cases piece with
    | char first =>
      obtain rfl : first = c := by simpa [Piece.text] using hc
      exact ⟨first, textOf span, rfl, hblank, ne_of_test hplain rfl⟩
    | quoted content => exact ⟨'"', content ++ ['"'] ++ textOf span, rfl, rfl, by decide⟩

theorem ofText {text : List Char} (hchars : ∀ c ∈ text, isTokenChar c = true)
    (hlast : ∃ c ∈ text.getLast?, isClosing c = true) : Phrase (ofText text) := by
  have hpieces : ∀ piece ∈ Ruby.ofText text, piece.Plain ∧ piece.step = 0 ∧ piece ≠ .char ' ' := by
    intro piece hpiece
    obtain ⟨c, hc, rfl⟩ := List.mem_map.mp hpiece
    obtain ⟨hplain, hstep, -, -, hspace⟩ := facts_of_isTokenChar (hchars c hc)
    exact ⟨hplain, hstep, by simpa using hspace⟩
  refine ⟨fun piece hpiece => (hpieces piece hpiece).1, ?_, ?_, ?_, ?_, ?_⟩
  · exact depthOf_eq_zero fun piece hpiece => (hpieces piece hpiece).2.1
  · exact .of_forall fun piece hpiece => (hpieces piece hpiece).2.1
  · obtain ⟨last, hmem, -⟩ := hlast
    rw [textOf_ofText]
    cases text with
    | nil => simp at hmem
    | cons c text => exact ⟨c, rfl, (facts_of_isTokenChar (hchars c List.mem_cons_self)).2.2.1⟩
  · rw [textOf_ofText]
    exact hlast
  · exact .of_not_mem fun hspace => (hpieces _ hspace).2.2 rfl

/-- Two parts with a comma or a colon between them, or nothing, and a space. -/
theorem spaced (lead : List Piece) (hlead : ∀ piece ∈ lead, piece = .char ',' ∨ piece = .char ':')
    (hfirst : Phrase first) (hsecond : Phrase second)
    (hstarts : ∀ more, StartsOperand (textOf second ++ more)) :
    Phrase (first ++ (lead ++ .char ' ' :: second)) := by
  have hpieces : ∀ piece ∈ lead, piece.Plain ∧ piece.step = 0 ∧ piece ≠ .char ' ' := by
    intro piece hpiece
    rcases hlead piece hpiece with rfl | rfl
    · exact ⟨rfl, rfl, by decide⟩
    · exact ⟨rfl, rfl, by decide⟩
  have hsteadyLead : Steady lead := .of_not_mem fun hspace => (hpieces _ hspace).2.2 rfl
  have hnestedLead : Nested lead := .of_forall fun piece hpiece => (hpieces piece hpiece).2.1
  have hnestedSpace : Nested [.char ' '] := .of_forall (List.forall_mem_singleton.mpr rfl)
  refine ⟨?_, ?_, ?_, ?_, ?_, ?_⟩
  · intro piece hpiece
    simp only [List.mem_append, List.mem_cons] at hpiece
    rcases hpiece with hpiece | hpiece | rfl | hpiece
    · exact hfirst.plain piece hpiece
    · exact (hpieces piece hpiece).1
    · rfl
    · exact hsecond.plain piece hpiece
  · have hlevel := hsecond.level
    have hleadLevel : depthOf lead = 0 :=
      depthOf_eq_zero fun piece hpiece => (hpieces piece hpiece).2.1
    rw [depthOf_append, depthOf_append, hfirst.level, hleadLevel]
    simpa [Piece.step, bracketStep] using hlevel
  · exact hfirst.nested.append (hnestedLead.append (hnestedSpace.append hsecond.nested))
  · obtain ⟨c, hc, hblank⟩ := hfirst.head
    refine ⟨c, ?_, hblank⟩
    rw [textOf_append, List.head?_append, Option.mem_def.mp hc]
    rfl
  · obtain ⟨c, hc, hclosing⟩ := hsecond.last
    refine ⟨c, ?_, hclosing⟩
    rw [textOf_append, textOf_append, textOf_cons, ← List.append_assoc, ← List.append_assoc,
      List.getLast?_append_of_ne_nil _ hsecond.trimmed.ne_nil]
    exact hc
  · exact hfirst.steady.append (hsteadyLead.append (.space_cons hstarts hsecond.steady))

end Phrase

/-- A printed value, entry or argument: no comma outside brackets, and an operand after a space. -/
structure Element (span : List Piece) : Prop extends Phrase span where
  passes : ∀ depth, 0 ≤ depth → Passes ',' depth span
  starts : ∀ more, StartsOperand (textOf span ++ more)

namespace Element

variable {span : List Piece} {spans : List (List Piece)}

theorem passes_ofText {text : List Char} (hchars : ∀ c ∈ text, isTokenChar c = true)
    (depth : Int) : Passes ',' depth (ofText text) := by
  apply Passes.of_forall
  intro piece hpiece
  obtain ⟨c, hc, rfl⟩ := List.mem_map.mp hpiece
  obtain ⟨-, hstep, -, hcomma, -⟩ := facts_of_isTokenChar (hchars c hc)
  exact ⟨hstep, by simpa using hcomma⟩

/-- A symbol or a word. -/
theorem ofText {text : List Char} (hchars : ∀ c ∈ text, isTokenChar c = true)
    (hlast : ∃ c ∈ text.getLast?, isClosing c = true)
    (hstarts : ∀ more, StartsOperand (text ++ more)) : Element (ofText text) where
  toPhrase := .ofText hchars hlast
  passes depth _ := passes_ofText hchars depth
  starts more := by
    rw [textOf_ofText]
    exact hstarts more

theorem quoted {content : List Char} (hquote : '"' ∉ content) (hescape : '\\' ∉ content) :
    Element [.quoted content] := by
  refine ⟨⟨?_, rfl, .of_forall (List.forall_mem_singleton.mpr rfl), ⟨'"', rfl, rfl⟩, ⟨'"', ?_, rfl⟩,
    .of_not_mem (by simp)⟩, ?_, ?_⟩
  · intro piece hpiece
    rw [List.mem_singleton.mp hpiece]
    exact ⟨hquote, hescape⟩
  · rw [textOf_cons, textOf_nil, List.append_nil]
    exact List.getLast?_append_of_ne_nil _ (List.cons_ne_nil _ _)
  · intro depth _
    exact .singleton rfl (.inl (by simp))
  · intro more
    exact .of_head (by decide) _

/-- Elements in a row are told apart by the commas between them. -/
theorem split_commaJoin (count : Nat) (h : ∀ span ∈ spans, Element span) :
    splitOutside ',' (List.replicate count ' ' ++ textOf (commaJoin spans)) = spans.map textOf := by
  apply splitOutside_commaJoin
  · intro span hspan
    exact (h span hspan).regular
  · intro span hspan
    exact (h span hspan).passes 0 (Int.le_refl 0)
  · intro span hspan
    exact (h span hspan).trimmed

theorem starts_commaJoin (hspan : Element span) (more : List Char) :
    StartsOperand (textOf (commaJoin (span :: spans)) ++ more) := by
  obtain ⟨rest, hrest⟩ := commaJoin_cons span spans
  rw [hrest, textOf_append, List.append_assoc]
  exact hspan.starts _

theorem phrase_commaJoin (h : ∀ other ∈ span :: spans, Element other) :
    Phrase (commaJoin (span :: spans)) := by
  induction spans generalizing span with
  | nil => exact (h span List.mem_cons_self).toPhrase
  | cons next spans ih =>
    have hspan := (h span List.mem_cons_self).toPhrase
    have hnext := h next (List.mem_cons_of_mem _ List.mem_cons_self)
    have hrest := ih fun other hother => h other (List.mem_cons_of_mem _ hother)
    exact hspan.spaced [.char ','] (by simp) hrest hnext.starts_commaJoin

theorem facts_commaJoin (h : ∀ span ∈ spans, Element span) :
    (∀ piece ∈ commaJoin spans, piece.Plain) ∧ depthOf (commaJoin spans) = 0 ∧
      Nested (commaJoin spans) ∧ Steady (commaJoin spans) := by
  cases spans with
  | nil =>
    exact ⟨by simp [commaJoin], rfl, .of_forall (by simp [commaJoin]),
      .of_not_mem (by simp [commaJoin])⟩
  | cons span spans =>
    have hjoin := phrase_commaJoin h
    exact ⟨hjoin.plain, hjoin.level, hjoin.nested, hjoin.steady⟩

/-- Elements between brackets. -/
theorem enclosed {opening closing : Char} (hopening : opening ∈ ['[', '{'])
    (hclosing : closing ∈ [']', '}']) (h : ∀ span ∈ spans, Element span) :
    Element (.char opening :: commaJoin spans ++ [.char closing]) := by
  have hopens : bracketStep opening = 1 ∧ isPlain opening = true ∧ isBlank opening = false ∧
      opening ∉ ['i', 'u', 'd'] ∧ opening ≠ ' ' := by
    simp only [List.mem_cons, List.not_mem_nil, or_false] at hopening
    rcases hopening with rfl | rfl <;> decide
  have hcloses : bracketStep closing = -1 ∧ isPlain closing = true ∧ isClosing closing = true ∧
      closing ≠ ' ' := by
    simp only [List.mem_cons, List.not_mem_nil, or_false] at hclosing
    rcases hclosing with rfl | rfl <;> decide
  obtain ⟨hplain, hlevel, hnested, hsteady⟩ := facts_commaJoin h
  have hopenSteady : Steady [.char opening] := .of_not_mem (by simpa using hopens.2.2.2.2.symm)
  have hcloseSteady : Steady [.char closing] := .of_not_mem (by simpa using hcloses.2.2.2.symm)
  refine ⟨⟨?_, ?_, hnested.enclosed hopens.1 hcloses.1 hlevel, ⟨opening, rfl, hopens.2.2.1⟩,
    ⟨closing, ?_, hcloses.2.2.1⟩, hopenSteady.append (hsteady.append hcloseSteady)⟩, ?_, ?_⟩
  · intro piece hpiece
    simp only [List.mem_append, List.mem_cons, List.not_mem_nil, or_false] at hpiece
    rcases hpiece with (rfl | hpiece) | rfl
    · exact hopens.2.1
    · exact hplain piece hpiece
    · exact hcloses.2.1
  · rw [depthOf_append]
    simp only [depthOf_cons, depthOf_nil, Piece.step, hopens.1, hcloses.1, hlevel]
    rfl
  · rw [textOf_append]
    exact List.getLast?_append_of_ne_nil _ (List.cons_ne_nil _ _)
  · intro depth hdepth
    have hinner : Passes ',' (depth + 1) (commaJoin spans) :=
      passes_commaJoin spans (.inr (by omega)) (by decide) fun span hspan =>
        (h span hspan).passes (depth + 1) (by omega)
    exact hinner.enclosed hopens.1 hcloses.1
  · intro more
    exact .of_head hopens.2.2.2.1 _

/-- An element after a key. -/
theorem keyed {key : List Char} (hkey : isIdentifier key = true) (h : Element span) :
    Element (Ruby.ofText key ++ .char ':' :: .char ' ' :: span) := by
  have hname := isNameChar_of_mem_identifier hkey
  have hchars : ∀ c ∈ key, isTokenChar c = true := fun c hc => (facts_of_isNameChar (hname c hc)).1
  have hphrase : Phrase (Ruby.ofText key) := .ofText hchars (getLast?_of_isIdentifier hkey)
  refine ⟨hphrase.spaced [.char ':'] (by simp) h.toPhrase h.starts, ?_, ?_⟩
  · intro depth hdepth
    have hcolon : Passes ',' depth [.char ':'] := .singleton rfl (.inl (by decide))
    have hspace : Passes ',' depth [.char ' '] := .singleton rfl (.inl (by decide))
    exact (passes_ofText hchars depth).append
      (hcolon.append (hspace.append (h.passes depth hdepth)))
  · intro more
    rw [textOf_append, textOf_ofText, List.append_assoc]
    exact .of_key hname _

end Element

end ForeignKeyLint.Ruby
