import ForeignKeyLint.Proofs.Ruby.Comment
import ForeignKeyLint.Proofs.Ruby.Division
import ForeignKeyLint.Proofs.Ruby.Joining
import ForeignKeyLint.Proofs.Ruby.SingleLine
import Mathlib.Data.List.Infix

/-!
A statement that is broken over several lines. Main statement: it has the same statements as when it
stands on one line, whatever blanks there are around its fragments, unless a line after the first is
nothing but the word `def` and blanks. Such a line begins a statement of its own, although its text
without the blanks does not, and so it cuts the statement short.

The joined text is walked anew after each line, but only to tell whether a bracket is open; what is divided
at semicolons is the same text in both readings.
-/

namespace ForeignKeyLint.Ruby

open Text

theorem not_mem_of_isBlank {b : Char} (hb : isBlank b = true) {pattern : List Char}
    (hpattern : pattern.any isBlank = false) : b ∉ pattern :=
  fun hmem => List.any_eq_false.mp hpattern b hmem hb

/-- What stands in a text does not reach over a character that it does not hold. -/
theorem infix_of_infix_append {pattern lead rest : List Char} {d : Char} (hd : d ∉ pattern)
    (h : pattern <:+: lead ++ d :: rest) : pattern <:+: lead ∨ pattern <:+: rest := by
  obtain ⟨start, after, hsplit⟩ := h
  rw [List.append_assoc] at hsplit
  obtain ⟨more, hlead, hpattern⟩ | ⟨more, rfl, hpattern⟩ := List.append_eq_append_iff.mp hsplit
  · -- The pattern begins before the character, and so it ends there.
    obtain ⟨last, rfl, -⟩ | ⟨last, rfl, hrest⟩ := List.append_eq_append_iff.mp hpattern
    · exact .inl ⟨start, last, by simp [hlead]⟩
    · cases last with
      | nil => exact .inl ⟨start, [], by simp [hlead]⟩
      | cons c last =>
        obtain ⟨rfl, -⟩ := List.cons.inj hrest
        simp at hd
  · cases more with
    | nil =>
      cases pattern with
      | nil => exact .inl List.nil_infix
      | cons c pattern =>
        obtain ⟨rfl, -⟩ := List.cons.inj hpattern
        simp at hd
    | cons c more =>
      obtain ⟨-, rfl⟩ := List.cons.inj hpattern
      exact .inr ⟨more, after, by simp⟩

theorem not_infix_blanks {pattern blanks : List Char} (hne : pattern ≠ [])
    (hpattern : pattern.any isBlank = false) (hblanks : ∀ c ∈ blanks, isBlank c = true) :
    ¬pattern <:+: blanks := by
  intro h
  obtain ⟨c, hc⟩ := List.exists_mem_of_ne_nil pattern hne
  exact List.any_eq_false.mp hpattern c hc (hblanks c (h.subset hc))

/-- Blanks around a text do not add to what stands in it. -/
theorem not_infix_surround {pattern before text after : List Char} (hne : pattern ≠ [])
    (hpattern : pattern.any isBlank = false) (hbefore : ∀ c ∈ before, isBlank c = true)
    (hafter : ∀ c ∈ after, isBlank c = true) (h : ¬pattern <:+: text) :
    ¬pattern <:+: before ++ text ++ after := by
  have hlead : ¬pattern <:+: before ++ text := by
    obtain rfl | ⟨lead, b, rfl⟩ := List.eq_nil_or_concat before
    · exact h
    · intro hinside
      have hb : isBlank b = true := hbefore b (by simp)
      rw [List.concat_eq_append, List.append_assoc, List.singleton_append] at hinside
      obtain hinside | hinside := infix_of_infix_append (not_mem_of_isBlank hb hpattern) hinside
      · exact not_infix_blanks hne hpattern (fun c hc => hbefore c (by simp [hc])) hinside
      · exact h hinside
  cases after with
  | nil => rwa [List.append_nil]
  | cons b after =>
    intro hinside
    have hb : isBlank b = true := hafter b List.mem_cons_self
    obtain hinside | hinside := infix_of_infix_append (not_mem_of_isBlank hb hpattern) hinside
    · exact hlead hinside
    · exact not_infix_blanks hne hpattern (fun c hc => hafter c (List.mem_cons_of_mem _ hc)) hinside

theorem Trimmed.trim_surround {before text after : List Char} (h : Trimmed text)
    (hbefore : ∀ c ∈ before, isBlank c = true) (hafter : ∀ c ∈ after, isBlank c = true) :
    trim (before ++ text ++ after) = text := by
  have hstart : trimStart (before ++ text ++ after) = text ++ after := by
    obtain ⟨c, hc, hblank⟩ := h.head
    obtain ⟨rest, rfl⟩ := List.head?_eq_some_iff.mp hc
    rw [trimStart, List.append_assoc, List.dropWhile_append_of_pos hbefore]
    simp [hblank]
  have hblanks : ∀ c ∈ after.reverse, isBlank c = true := fun c hc => hafter c (List.mem_reverse.mp hc)
  rw [trim, hstart, trimEnd, dropEndWhile, List.reverse_append, List.dropWhile_append_of_pos hblanks]
  exact h.trimEnd_eq

theorem trimmed_of_trim_eq {text : List Char} (h : trim text = text) (hne : text ≠ []) :
    Trimmed text where
  head := by
    obtain ⟨c, rest, rfl⟩ := List.exists_cons_of_ne_nil hne
    exact ⟨c, rfl, isBlank_head_trim h⟩
  last := by
    have hdrop : List.rdropWhile isBlank (trimStart text) = text := h
    have hlast := List.rdropWhile_last_not isBlank (trimStart text) (by rwa [hdrop])
    simp only [hdrop] at hlast
    exact ⟨_, List.getLast?_eq_some_getLast hne, by simpa using hlast⟩

/-- A part of a statement that stands on a line of its own, with the blanks around it there. -/
structure Fragment where
  before : List Char
  text : List Char
  after : List Char
deriving Repr, DecidableEq

namespace Fragment

/-- The line on which the fragment stands. -/
def line (fragment : Fragment) : List Char :=
  fragment.before ++ fragment.text ++ fragment.after

/-- The fragment is code as it stands: there is no comment in it and no opener of a here document, no
backslash, and its line is none that is read in another way. -/
@[mk_iff]
structure Plain (fragment : Fragment) : Prop where
  isAllBlank_before : isAllBlank fragment.before = true
  isAllBlank_after : isAllBlank fragment.after = true
  trim_eq : trim fragment.text = fragment.text
  ne_nil : fragment.text ≠ []
  no_break : '\n' ∉ fragment.text
  no_comment : '#' ∉ fragment.text
  no_backslash : '\\' ∉ fragment.text
  no_heredoc : ¬['<', '<'] <:+: fragment.text
  no_block : ¬"=begin".toList <+: fragment.text
  not_end : fragment.text ≠ "__END__".toList

instance (fragment : Fragment) : Decidable fragment.Plain :=
  decidable_of_iff' _ (plain_iff fragment)

variable {fragment : Fragment}

theorem Plain.blank_before (h : fragment.Plain) : ∀ c ∈ fragment.before, isBlank c = true :=
  List.all_eq_true.mp h.isAllBlank_before

theorem Plain.blank_after (h : fragment.Plain) : ∀ c ∈ fragment.after, isBlank c = true :=
  List.all_eq_true.mp h.isAllBlank_after

theorem Plain.trimmed (h : fragment.Plain) : Trimmed fragment.text :=
  trimmed_of_trim_eq h.trim_eq h.ne_nil

theorem Plain.not_mem_line (h : fragment.Plain) {c : Char} (hblank : isBlank c = false)
    (hc : c ∉ fragment.text) : c ∉ fragment.line := by
  rw [line, List.mem_append, List.mem_append]
  rintro ((hmem | hmem) | hmem)
  · rw [h.blank_before c hmem] at hblank
    contradiction
  · exact hc hmem
  · rw [h.blank_after c hmem] at hblank
    contradiction

theorem Plain.not_block (h : fragment.Plain) : beginsWith "=begin".toList fragment.line = false := by
  have hpattern : "=begin".toList.any isBlank = false := by decide +kernel
  have htext : beginsWith "=begin".toList fragment.text = false := by
    rw [beginsWith, Bool.eq_false_iff, ne_eq, List.isPrefixOf_iff_prefix]
    exact h.no_block
  rw [line]
  cases hbefore : fragment.before with
  | nil =>
    cases hafter : fragment.after with
    | nil => simpa using htext
    | cons b after =>
      have hb : isBlank b = true := h.blank_after b (by simp [hafter])
      rwa [List.nil_append, beginsWith_append (not_mem_of_isBlank hb hpattern)]
  | cons b before =>
    have hb : isBlank b = true := h.blank_before b (by simp [hbefore])
    have hlead (rest : List Char) : beginsWith "=begin".toList ([] ++ b :: rest) = false := by
      rw [beginsWith_append (not_mem_of_isBlank hb hpattern)]
      rfl
    rw [List.cons_append, List.cons_append]
    exact hlead _

theorem Plain.read_line (h : fragment.Plain) : Mode.read {} fragment.line = .code {} fragment.text := by
  have htrim : trim fragment.line = fragment.text :=
    h.trimmed.trim_surround h.blank_before h.blank_after
  have hcomment : '#' ∉ fragment.line := h.not_mem_line (by decide) h.no_comment
  have hheredoc : ¬['<', '<'] <:+: fragment.line :=
    not_infix_surround (by simp) (by decide +kernel) h.blank_before h.blank_after h.no_heredoc
  simp only [Mode.read, h.not_block, htrim, h.not_end, stripLine_eq_self hcomment hheredoc]
  rfl

theorem Plain.startsStatement_line (h : fragment.Plain) :
    startsStatement fragment.line = true ↔
      startsStatement fragment.text = true ∨ fragment.text = "def".toList ∧ fragment.after ≠ [] := by
  have hstart (text : List Char) : startsStatement (fragment.before ++ text) = startsStatement text := by
    have htrim : trimStart (fragment.before ++ text) = trimStart text :=
      List.dropWhile_append_of_pos h.blank_before
    rw [startsStatement, startsStatement, htrim]
  rw [line, List.append_assoc, hstart]
  cases hafter : fragment.after with
  | nil => simp
  | cons b after =>
    have hb : isBlank b = true := h.blank_after b (by simp [hafter])
    simp [startsStatement_blank h.trimmed hb]

end Fragment

/-- The fragments on one line, with a space between any two. -/
def unbroken (fragments : List Fragment) : List Char :=
  [' '].intercalate (fragments.map (·.text))

/-- A statement goes on after these fragments: a comma ends the last one, or a bracket is open. -/
def GoesOn (fragments : List Fragment) : Prop :=
  (∃ last ∈ fragments.getLast?, [','] <:+ last.text) ∨ 0 < bracketDepth (unbroken fragments)

instance (fragments : List Fragment) : Decidable (GoesOn fragments) :=
  inferInstanceAs (Decidable (_ ∨ _))

/-- The fragments are one statement that is broken over as many lines. -/
@[mk_iff]
structure Broken (fragments : List Fragment) : Prop where
  plain : ∀ fragment ∈ fragments, fragment.Plain
  length_le : fragments.length ≤ maxJoined
  headless : ∀ fragment ∈ fragments.tail, startsStatement fragment.text = false
  goesOn : ∀ count < fragments.length, 0 < count → GoesOn (fragments.take count)
  complete : ¬GoesOn fragments

instance (fragments : List Fragment) : Decidable (Broken fragments) :=
  decidable_of_iff' _ (broken_iff fragments)

section Unbroken

variable {fragments done : List Fragment} {fragment : Fragment}

theorem unbroken_eq_nil_iff (hplain : ∀ fragment ∈ fragments, fragment.Plain) :
    unbroken fragments = [] ↔ fragments = [] := by
  cases fragments with
  | nil => simp [unbroken]
  | cons first others =>
    have hne := (hplain first List.mem_cons_self).ne_nil
    simp [unbroken, intercalate_eq_flatMap, hne]

theorem unbroken_concat (hne : done ≠ []) (fragment : Fragment) :
    unbroken (done ++ [fragment]) = unbroken done ++ ' ' :: fragment.text := by
  obtain ⟨first, others, rfl⟩ := List.exists_cons_of_ne_nil hne
  simp [unbroken, intercalate_eq_flatMap]

/-- The draft after these fragments. -/
def Draft.ofFragments (fragments : List Fragment) : Draft where
  text := unbroken fragments
  line := if fragments = [] then 0 else 1
  joined := fragments.length

theorem Draft.ofFragments_concat (hdone : ∀ fragment ∈ done, fragment.Plain) (h : fragment.Plain) :
    (Draft.ofFragments done).add (done.length + 1) fragment.text =
      Draft.ofFragments (done ++ [fragment]) := by
  have hkept : trimEnd (dropEndWhile (· == '\\') fragment.text) = fragment.text := by
    obtain ⟨last, hlast, -⟩ := h.trimmed.last
    have hne : last ≠ '\\' := by
      rintro rfl
      exact h.no_backslash (List.mem_of_getLast? hlast)
    rw [dropEndWhile_eq_self ⟨last, hlast, by simpa using hne⟩, h.trimmed.trimEnd_eq]
  by_cases hne : done = []
  · subst hne
    simp [Draft.add, Draft.ofFragments, hkept, unbroken]
  · have htext : unbroken done ≠ [] := by rwa [ne_eq, unbroken_eq_nil_iff hdone]
    simp [Draft.add, Draft.ofFragments, hkept, unbroken_concat hne, hne, htext]

theorem Draft.continues_ofFragments (h : fragment.Plain) (done : List Fragment) :
    (Draft.ofFragments (done ++ [fragment])).continues fragment.text = true ↔
      GoesOn (done ++ [fragment]) := by
  have hbackslash : ¬['\\'] <:+ fragment.text := by
    intro hsuffix
    exact h.no_backslash (hsuffix.subset (List.mem_singleton.mpr rfl))
  simp [Draft.continues, hbackslash, GoesOn, endsWith, Draft.ofFragments]

/-- A fragment is joined onto those before it, if its line does not begin a statement of its own. -/
theorem join_fragment (hdone : ∀ fragment ∈ done, fragment.Plain) (h : fragment.Plain)
    (hfree : done ≠ [] → startsStatement fragment.line = false) (rest : List Line) :
    join {} (.ofFragments done) ({ number := done.length + 1, text := fragment.line } :: rest) =
      if GoesOn (done ++ [fragment]) then
        if done.length + 1 < maxJoined then join {} (.ofFragments (done ++ [fragment])) rest
        else { draft := .ofFragments (done ++ [fragment]), cutShort := true, reader := { lines := rest } }
      else
        { draft := .ofFragments (done ++ [fragment]), cutShort := false, reader := { lines := rest } } := by
  have hguard : (!(Draft.ofFragments done).text.isEmpty && Mode.isCode {} &&
      startsStatement fragment.line) = false := by
    by_cases hne : done = []
    · simp [hne, Draft.ofFragments, unbroken]
    · simp [hfree hne]
  have hread := h.read_line
  have hadd := Draft.ofFragments_concat hdone h
  have hcontinues := Draft.continues_ofFragments h done
  obtain ⟨c, code, htext⟩ := List.exists_cons_of_ne_nil h.ne_nil
  rw [htext] at hread hadd hcontinues
  rw [join, hguard]
  simp only [Bool.false_eq_true, if_false, hread, hadd]
  by_cases hgoesOn : GoesOn (done ++ [fragment])
  · have hmore := hcontinues.mpr hgoesOn
    have hjoined : (Draft.ofFragments (done ++ [fragment])).joined = done.length + 1 := by
      simp [Draft.ofFragments]
    simp [hmore, hgoesOn, hjoined]
  · have hlast : (Draft.ofFragments (done ++ [fragment])).continues (c :: code) = false := by
      rwa [← hcontinues, Bool.not_eq_true] at hgoesOn
    simp [hlast, hgoesOn]

/-- The fragments are joined one after the other, up to the last one or to one that begins a statement of
its own. -/
theorem join_fragments {more rest : List Fragment} (h : Broken (done ++ (more ++ rest)))
    (hrest : rest ≠ []) (hfree : ∀ fragment ∈ (done ++ more).tail, startsStatement fragment.line = false) :
    join {} (.ofFragments done) (numberLines (done.length + 1) ((more ++ rest).map Fragment.line)) =
      join {} (.ofFragments (done ++ more))
        (numberLines ((done ++ more).length + 1) (rest.map Fragment.line)) := by
  induction more generalizing done with
  | nil => simp
  | cons fragment more ih =>
    have hsplit : done ++ (fragment :: more ++ rest) = done ++ [fragment] ++ (more ++ rest) := by simp
    have hlength : done.length + 1 < (done ++ [fragment] ++ (more ++ rest)).length := by
      have := List.length_pos_of_ne_nil hrest
      simp only [List.length_append, List.length_singleton]
      omega
    rw [hsplit] at h
    have hgoesOn : GoesOn (done ++ [fragment]) := by
      have htake := h.goesOn (done.length + 1) hlength (Nat.succ_pos _)
      rwa [List.take_left' (by simp)] at htake
    have hroom : done.length + 1 < maxJoined := hlength.trans_le h.length_le
    have hdone : ∀ fragment ∈ done, fragment.Plain := fun other hother => h.plain other (by simp [hother])
    have hhead : done ≠ [] → startsStatement fragment.line = false := by
      intro hne
      apply hfree
      obtain ⟨first, others, rfl⟩ := List.exists_cons_of_ne_nil hne
      simp
    have hstep := join_fragment hdone (h.plain fragment (by simp)) hhead
    rw [List.cons_append, List.map_cons, numberLines, hstep, if_pos hgoesOn, if_pos hroom]
    have hmore := ih h (by simpa using hfree)
    simpa using hmore

@[simp]
theorem Draft.ofFragments_nil : Draft.ofFragments [] = {} := by
  simp [Draft.ofFragments, unbroken]

theorem Reader.statements_nil : Reader.statements { lines := [] } = [] := by
  have hempty : (Reader.next { lines := [] }).draft.text = [] := rfl
  rw [Reader.statements, dif_pos hempty]

/-- What joining makes of the fragments is what a reader gives first. -/
theorem statements_of_join {joined : Joined} (hplain : ∀ fragment ∈ done, fragment.Plain) (hne : done ≠ [])
    {lines : List Line} (hjoin : join {} {} lines = joined)
    (hdraft : joined.draft = .ofFragments done) :
    Reader.statements { lines } = joined.statements ++ joined.reader.statements := by
  have hnext : Reader.next { lines } = joined := hjoin
  have htext : (Reader.next { lines }).draft.text ≠ [] := by
    rw [hnext, hdraft]
    exact (unbroken_eq_nil_iff hplain).not.mpr hne
  rw [Reader.statements, dif_neg htext]
  simp only [hnext]

/-- The statements of a text on the first line, none of them cut short. -/
def statementsOf (text : List Char) : List Statement :=
  (splitOutside ';' text).map fun part => { line := 1, text := part, cutShort := false }

theorem statements_ofFragments (hne : done ≠ []) (reader : Reader) :
    Joined.statements { draft := .ofFragments done, cutShort := false, reader } =
      statementsOf (unbroken done) := by
  have hline : (Draft.ofFragments done).line = 1 := if_neg hne
  have htext : (Draft.ofFragments done).text = unbroken done := rfl
  simp only [Joined.statements, statementsOf, hline, htext]
  split
  · next hsplit => rw [hsplit, List.map_nil]
  · next hsplit => rw [hsplit, List.map_cons]

/-- Where no line after the first begins a statement of its own, all of the lines are joined. -/
theorem statements_of_headless (h : Broken fragments)
    (hfree : ∀ fragment ∈ fragments.tail, startsStatement fragment.line = false) :
    Reader.statements { lines := numberLines 1 (fragments.map Fragment.line) } =
      statementsOf (unbroken fragments) := by
  obtain rfl | ⟨front, last, rfl⟩ := List.eq_nil_or_concat' fragments
  · have hsplit : splitOutside ';' (unbroken []) = [] := by decide +kernel
    rw [statementsOf, hsplit]
    exact Reader.statements_nil
  · have hfront : ∀ fragment ∈ front, fragment.Plain := fun other hother => h.plain other (by simp [hother])
    have hlast : front ≠ [] → startsStatement last.line = false := by
      intro hne
      apply hfree
      obtain ⟨first, others, rfl⟩ := List.exists_cons_of_ne_nil hne
      simp
    have hfront_free : ∀ fragment ∈ front.tail, startsStatement fragment.line = false :=
      fun other hother => hfree other (by cases front <;> simp_all)
    have hjoin := @join_fragments [] front [last] h (List.cons_ne_nil _ _) hfront_free
    have hstop := join_fragment hfront (h.plain last (by simp)) hlast []
    rw [if_neg h.complete] at hstop
    simp only [Draft.ofFragments_nil, List.nil_append, List.length_nil, Nat.zero_add, List.map_cons,
      List.map_nil, numberLines, hstop] at hjoin
    rw [statements_of_join h.plain (by simp) hjoin rfl, Reader.statements_nil, List.append_nil]
    exact statements_ofFragments (by simp) _

end Unbroken

namespace Fragment

/-- A text on a line of its own, without blanks around it. -/
def ofText (text : List Char) : Fragment where
  before := []
  text := text
  after := []

theorem Plain.ofText {fragment : Fragment} (h : fragment.Plain) : (ofText fragment.text).Plain :=
  { h with
    isAllBlank_before := rfl
    isAllBlank_after := rfl }

/-- Plain fragments with a space between them make a plain fragment. -/
theorem Plain.append {first second : Fragment} (hfirst : first.Plain) (hsecond : second.Plain) :
    (Fragment.ofText (first.text ++ ' ' :: second.text)).Plain := by
  have htrimmed : Trimmed (first.text ++ ' ' :: second.text) := by
    obtain ⟨c, hc, hblank⟩ := hfirst.trimmed.head
    obtain ⟨d, hd, hlast⟩ := hsecond.trimmed.last
    refine ⟨⟨c, ?_, hblank⟩, ⟨d, ?_, hlast⟩⟩
    · rw [List.head?_append, hc]
      rfl
    · rw [List.append_cons, List.getLast?_append, hd]
      rfl
  have hmem {c : Char} (hspace : c ≠ ' ') (hc : c ∉ first.text) (hc' : c ∉ second.text) :
      c ∉ first.text ++ ' ' :: second.text := by
    simp [hspace, hc, hc']
  refine ⟨rfl, rfl, htrimmed.trim_eq, htrimmed.ne_nil,
    hmem (by decide) hfirst.no_break hsecond.no_break,
    hmem (by decide) hfirst.no_comment hsecond.no_comment,
    hmem (by decide) hfirst.no_backslash hsecond.no_backslash, ?_, ?_, ?_⟩
  · intro hinside
    obtain hinside | hinside := infix_of_infix_append (by decide) hinside
    · exact hfirst.no_heredoc hinside
    · exact hsecond.no_heredoc hinside
  · have hstop : beginsWith "=begin".toList (first.text ++ ' ' :: second.text) =
        beginsWith "=begin".toList first.text := beginsWith_append (by decide) second.text
    have hno := hfirst.no_block
    rw [← List.isPrefixOf_iff_prefix] at hno ⊢
    exact (Bool.eq_iff_iff.mp hstop).not.mpr hno
  · intro hend
    have hspace : ' ' ∈ "__END__".toList := by
      rw [← hend]
      simp [Fragment.ofText]
    revert hspace
    decide +kernel

end Fragment

section Statement

variable {fragments : List Fragment}

theorem unbroken_ofText (text : List Char) : unbroken [.ofText text] = text := by
  simp [unbroken, Fragment.ofText]

theorem plain_unbroken (hplain : ∀ fragment ∈ fragments, fragment.Plain) (hne : fragments ≠ []) :
    (Fragment.ofText (unbroken fragments)).Plain := by
  induction fragments using List.reverseRecOn with
  | nil => contradiction
  | append_singleton front last ih =>
    have hlast := hplain last (by simp)
    by_cases hfront : front = []
    · subst hfront
      have hone : unbroken ([] ++ [last]) = last.text := by simp [unbroken]
      rw [hone]
      exact hlast.ofText
    · rw [unbroken_concat hfront]
      have hfrontPlain := ih (fun other hother => hplain other (by simp [hother])) hfront
      exact hfrontPlain.append hlast

/-- The text on one line ends as the last fragment does. -/
theorem suffix_unbroken {last : Fragment} (hlast : last ∈ fragments.getLast?) :
    last.text <:+ unbroken fragments := by
  obtain ⟨front, rfl⟩ := List.getLast?_eq_some_iff.mp hlast
  by_cases hfront : front = []
  · simp [hfront, unbroken]
  · rw [unbroken_concat hfront]
    exact (List.suffix_cons ' ' last.text).trans (List.suffix_append _ _)

/-- The statement on one line is a fragment, and a statement that is not broken. -/
theorem Broken.ofText_unbroken (h : Broken fragments) (hne : fragments ≠ []) :
    Broken [.ofText (unbroken fragments)] where
  plain := List.forall_mem_singleton.mpr (plain_unbroken h.plain hne)
  length_le := (by decide : 1 ≤ maxJoined)
  headless := by simp
  goesOn := by
    intro count hcount hpos
    simp only [List.length_singleton] at hcount
    omega
  complete := by
    rintro (⟨whole, hwhole, hcomma⟩ | hdepth)
    · obtain rfl : .ofText (unbroken fragments) = whole := by simpa using hwhole
      obtain ⟨last, hlast⟩ := Option.ne_none_iff_exists'.mp (List.getLast?_eq_none_iff.not.mpr hne)
      have hlength : 0 < last.text.length :=
        List.length_pos_of_ne_nil (h.plain last (List.mem_of_getLast? hlast)).ne_nil
      exact h.complete (.inl ⟨last, hlast,
        List.suffix_of_suffix_length_le hcomma (suffix_unbroken hlast) hlength⟩)
    · rw [unbroken_ofText] at hdepth
      exact h.complete (.inr hdepth)

theorem statements_unbroken (h : Broken fragments) :
    statements (unbroken fragments) = statementsOf (unbroken fragments) := by
  by_cases hne : fragments = []
  · subst hne
    exact statements_of_headless h (by simp)
  · have hplain := plain_unbroken h.plain hne
    have hline : (Fragment.ofText (unbroken fragments)).line = unbroken fragments := by
      simp [Fragment.line, Fragment.ofText]
    have hone := statements_of_headless (h.ofText_unbroken hne) (by simp)
    rw [unbroken_ofText, List.map_singleton, hline] at hone
    have hlines : lines (unbroken fragments) = [unbroken fragments] :=
      lines_eq_singleton hplain.no_break hplain.ne_nil
    rw [statements, hlines]
    exact hone

theorem splitOutside_ne_nil {separator c : Char} {text : List Char} (hc : c ∈ text)
    (hseparator : c ≠ separator) (hblank : isBlank c = false) : splitOutside separator text ≠ [] := by
  let parts := segments text (separatorsFrom separator 0 (code text))
  have hparts : [separator].intercalate parts = text :=
    (divided_codeFrom separator {} 0 text).intercalate_segments
  obtain ⟨part, hpart, hmem⟩ : ∃ part ∈ parts, c ∈ part := by
    have hne : parts ≠ [] := segments_ne_nil _ _
    obtain ⟨first, others, hcons⟩ := List.exists_cons_of_ne_nil hne
    rw [← hparts, hcons, intercalate_eq_flatMap] at hc
    rw [hcons]
    simpa [hseparator] using hc
  have hkept : trim part ∈ (parts.map trim).filter (!·.isEmpty) := by
    rw [List.mem_filter]
    refine ⟨List.mem_map_of_mem hpart, ?_⟩
    simpa using List.ne_nil_of_mem (mem_trim hblank hmem)
  exact List.ne_nil_of_mem hkept

theorem exists_bracket {text : List Char} (h : 0 < bracketDepth text) :
    ∃ c ∈ text, bracketStep c ≠ 0 := by
  by_contra hnone
  push Not at hnone
  have hzero (visits : List Visit) (hvisits : ∀ visit ∈ visits, bracketStep visit.char = 0) :
      balance visits = 0 := by
    induction visits with
    | nil => rfl
    | cons visit visits ih =>
      rw [balance_cons, hvisits visit List.mem_cons_self, Int.zero_add]
      exact ih fun other hother => hvisits other (List.mem_cons_of_mem _ hother)
  have hdepth : bracketDepth text = 0 := hzero (code text) fun visit hvisit =>
    hnone visit.char ((suffix_of_mem_code hvisit).subset List.mem_cons_self)
  omega

theorem splitOutside_of_goesOn (h : GoesOn fragments) : splitOutside ';' (unbroken fragments) ≠ [] := by
  obtain ⟨last, hlast, hcomma⟩ | hdepth := h
  · have hmem : ',' ∈ unbroken fragments :=
      (hcomma.trans (suffix_unbroken hlast)).subset (List.mem_singleton.mpr rfl)
    exact splitOutside_ne_nil hmem (by decide) (by decide)
  · obtain ⟨c, hc, hstep⟩ := exists_bracket hdepth
    refine splitOutside_ne_nil hc ?_ ?_
    · rintro rfl
      exact hstep rfl
    · by_contra hblank
      exact hstep (bracketStep_of_isBlank (Bool.of_not_eq_false hblank))

/-- A line that begins a statement of its own cuts short what stands before it. -/
theorem statements_of_head (h : Broken fragments)
    (hhead : ∃ fragment ∈ fragments.tail, startsStatement fragment.line = true) :
    ∃ first others, Reader.statements { lines := numberLines 1 (fragments.map Fragment.line) } =
      first :: others ∧ first.cutShort = true := by
  -- The fragments up to the first line of that kind are joined.
  obtain ⟨front, stop, rest, rfl, hne, hstop, hfree⟩ : ∃ front stop rest,
      fragments = front ++ stop :: rest ∧ front ≠ [] ∧ startsStatement stop.line = true ∧
        ∀ fragment ∈ front.tail, startsStatement fragment.line = false := by
    cases fragments with
    | nil => simp at hhead
    | cons first others =>
      obtain ⟨stop, hfind⟩ := Option.isSome_iff_exists.mp (List.find?_isSome.mpr hhead)
      obtain ⟨hstop, front, rest, hsplit, hfree⟩ := List.find?_eq_some_iff_append.mp hfind
      refine ⟨first :: front, stop, rest, congrArg (first :: ·) hsplit, List.cons_ne_nil _ _, hstop, ?_⟩
      simpa using hfree
  have hplain : ∀ fragment ∈ front, fragment.Plain := fun other hother => h.plain other (by simp [hother])
  have hgoesOn : GoesOn front := by
    have htake := h.goesOn front.length (by simp) (List.length_pos_of_ne_nil hne)
    rwa [List.take_left' rfl] at htake
  obtain ⟨part, parts, hparts⟩ := List.exists_cons_of_ne_nil (splitOutside_of_goesOn hgoesOn)
  have hjoin := @join_fragments [] front (stop :: rest) h (List.cons_ne_nil _ _) hfree
  have htext : unbroken front ≠ [] := by rwa [ne_eq, unbroken_eq_nil_iff hplain]
  have hcut (lines : List Line) (number : Nat) :
      join {} (.ofFragments front) ({ number, text := stop.line } :: lines) =
        { draft := .ofFragments front, cutShort := true
          reader := { lines := { number, text := stop.line } :: lines } } := by
    simp [join, Draft.ofFragments, htext, hstop, Mode.isCode]
  simp only [Draft.ofFragments_nil, List.nil_append, List.length_nil, Nat.zero_add, List.map_cons,
    numberLines, hcut] at hjoin
  rw [statements_of_join hplain hne hjoin rfl]
  have hdraft : (Draft.ofFragments front).text = unbroken front := rfl
  simp only [Joined.statements, hdraft, hparts, List.cons_append]
  exact ⟨_, _, rfl, rfl⟩

end Statement

/-- A statement that is broken over several lines reads as it does on one line, where all that comes of it
begins on the first line and is not cut short, unless a line after the first is the word `def` with blanks
after it. -/
theorem statements_broken_iff {fragments : List Fragment} (h : Broken fragments) {source : List Char}
    (hlines : lines source = fragments.map Fragment.line) :
    (statements source = statements (unbroken fragments) ↔
      ∀ fragment ∈ fragments.tail, fragment.text = "def".toList → fragment.after = []) ∧
    ∀ statement ∈ statements (unbroken fragments), statement.line = 1 ∧ statement.cutShort = false := by
  have hone : ∀ statement ∈ statements (unbroken fragments),
      statement.line = 1 ∧ statement.cutShort = false := by
    rw [statements_unbroken h, statementsOf, List.forall_mem_map]
    exact fun _ _ => ⟨rfl, rfl⟩
  refine ⟨⟨fun heq fragment hfragment htext => ?_, fun hdef => ?_⟩, hone⟩
  · by_contra hafter
    have hstarts := (h.plain fragment (List.mem_of_mem_tail hfragment)).startsStatement_line.mpr
      (.inr ⟨htext, hafter⟩)
    obtain ⟨first, others, hsome, hcut⟩ := statements_of_head h ⟨fragment, hfragment, hstarts⟩
    rw [statements, hlines, hsome] at heq
    have hfirst := (hone first (heq ▸ List.mem_cons_self)).2
    rw [hcut] at hfirst
    contradiction
  · rw [statements, hlines, statements_unbroken h]
    apply statements_of_headless h
    intro fragment hfragment
    have hplain := h.plain fragment (List.mem_of_mem_tail hfragment)
    rw [← Bool.not_eq_true, hplain.startsStatement_line, h.headless fragment hfragment]
    simpa using hdef fragment hfragment

/-- Two statements over four lines, with a literal over two of them and semicolons at both depths. -/
def brokenList : List Fragment :=
  [{ before := [], text := "foo 'a,".toList, after := [' '] },
    { before := [' ', ' '], text := "b', [';'".toList, after := [] },
    { before := ['\t'], text := "]; bar(%w(;".toList, after := [] },
    { before := [], text := "def))".toList, after := [' '] }]

theorem statements_brokenList :
    let source := "foo 'a, \n  b', [';'\n\t]; bar(%w(;\ndef)) \n".toList
    ((statements source = statements (unbroken brokenList) ↔
        ∀ fragment ∈ brokenList.tail, fragment.text = "def".toList → fragment.after = []) ∧
      ∀ statement ∈ statements (unbroken brokenList),
        statement.line = 1 ∧ statement.cutShort = false) ∧
    statements source = statements (unbroken brokenList) ∧
    splitOutside ';' (unbroken brokenList) =
      ["foo 'a, b', [';' ]", "bar(%w(; def))"].map String.toList := by
  have hbroken : Broken brokenList := by decide +kernel
  have hlines : lines "foo 'a, \n  b', [';'\n\t]; bar(%w(;\ndef)) \n".toList =
      brokenList.map Fragment.line := by decide +kernel
  have hiff := statements_broken_iff hbroken hlines
  exact ⟨hiff, hiff.1.mpr (by decide +kernel), by decide +kernel⟩

/-- A call whose second line is the word `def` and a space. -/
def brokenDef : List Fragment :=
  [{ before := [], text := "foo(".toList, after := [] },
    { before := [], text := "def".toList, after := [' '] },
    { before := [], text := ")".toList, after := [] }]

theorem brokenDef_cutShort :
    Broken brokenDef ∧ lines "foo(\ndef \n)\n".toList = brokenDef.map Fragment.line ∧
      statements "foo(\ndef \n)\n".toList ≠ statements (unbroken brokenDef) ∧
      statements (unbroken brokenDef) = [{ line := 1, text := "foo( def )".toList, cutShort := false }] :=
  ⟨by decide +kernel, by decide +kernel, by decide +kernel, by decide +kernel⟩

end ForeignKeyLint.Ruby
