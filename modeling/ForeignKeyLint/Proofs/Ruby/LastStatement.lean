import ForeignKeyLint.Proofs.Ruby.Division
import ForeignKeyLint.Proofs.Ruby.LineNumber
import Mathlib.Algebra.BigOperators.Group.List.Basic
import Mathlib.Algebra.Ring.Int.Defs

/-!
The last of the statements that joined lines are divided into. Main statements: it stands at their end, where
at most blanks and semicolons follow it, and the brackets that are open there are open in it, while none is
open in the statements before it; and lines that were cut short go on after it, because of a bracket that is
open in it, a comma that it ends with or a backslash at the end of a line.
-/

namespace ForeignKeyLint.Ruby

open Text

section Balance

theorem balance_eq_sum (visits : List Visit) :
    balance visits = ((visits.map Visit.char).map bracketStep).sum := by
  induction visits with
  | nil => rfl
  | cons visit visits ih => rw [balance_cons, ih, List.map_cons, List.map_cons, List.sum_cons]

theorem sum_bracketStep_filter (text : List Char) :
    ((text.filter (!isBlank ·)).map bracketStep).sum = (text.map bracketStep).sum := by
  induction text with
  | nil => rfl
  | cons c text ih =>
    cases hblank : isBlank c with
    | false => rw [List.filter_cons_of_pos (by simp [hblank]), List.map_cons, List.map_cons,
        List.sum_cons, List.sum_cons, ih]
    | true => rw [List.filter_cons_of_neg (by simp [hblank]), List.map_cons, List.sum_cons,
        bracketStep_of_isBlank hblank, Int.zero_add, ih]

theorem bracketDepth_nil : bracketDepth [] = 0 :=
  congrArg balance (codeFrom_nil {} 0)

/-- The brackets open in a part that stands alone are those open in it where an operand is due. -/
theorem bracketDepth_trim {context : Context} (hcontext : context.expectsOperand none = true)
    (offset : Nat) (text : List Char) :
    bracketDepth (trim text) = balance (codeFrom context offset text) := by
  have halone : bracketDepth (trim text) = ((codeChars {} (trim text)).map bracketStep).sum :=
    balance_eq_sum _
  rw [halone, ← sum_bracketStep_filter, codeChars_trim hcontext, sum_bracketStep_filter,
    balance_eq_sum, map_char_codeFrom]

end Balance

section Segments

/-- No bracket is open at the end of a segment but the last, at whose end those of the text are open. -/
theorem exists_last_segment {separator : Char} (hstep : bracketStep separator = 0)
    (hpush : ∀ context : Context, (context.push separator).expectsOperand none = true)
    {context : Context} (hcontext : context.expectsOperand none = true) (offset : Nat)
    (text : List Char) :
    ∃ init last, segments text (separatorsFrom separator 0 (codeFrom context offset text)) =
        init ++ [last] ∧
      (∀ segment ∈ init, bracketDepth (trim segment) = 0) ∧
      bracketDepth (trim last) = balance (codeFrom context offset text) := by
  match h : separatorsFrom separator 0 (codeFrom context offset text) with
  | [] => exact ⟨[], text, rfl, by simp, bracketDepth_trim hcontext offset text⟩
  | first :: others =>
    obtain ⟨earlier, later, hsplit, rfl, -, rfl, hdepth⟩ := exists_split_of_separatorsFrom h
    obtain ⟨lead, next, rfl, -, -, -, rfl, rfl⟩ := exists_visited hsplit
    have hshorter : first.rest.length < (lead ++ first.char :: first.rest).length := by
      rw [List.length_append, List.length_cons]
      omega
    obtain ⟨init, last, hsegments, hinit, hlast⟩ :=
      exists_last_segment hstep hpush (hpush next) (first.offset + first.char.utf8Size) first.rest
    rw [balance_map_onto, Int.zero_add] at hdepth
    refine ⟨lead :: init, last, ?_, List.forall_mem_cons.mpr ⟨?_, hinit⟩, ?_⟩
    · rw [segments_cut, hsegments, List.cons_append]
    · rw [bracketDepth_trim hcontext offset, hdepth]
    · rw [hlast, hsplit, balance_append, balance_cons, balance_map_onto, hdepth, hstep, Int.zero_add,
        Int.zero_add]
termination_by text.length

theorem exists_blanks_of_trim (text : List Char) :
    ∃ before after, text = before ++ trim text ++ after ∧ ∀ c ∈ after, isBlank c = true := by
  obtain ⟨after, hafter, hblanks⟩ := exists_blanks_of_trimEnd (trimStart text)
  have hstart : text = text.takeWhile isBlank ++ trimStart text :=
    List.takeWhile_append_dropWhile.symm
  rw [hafter, ← List.append_assoc] at hstart
  exact ⟨_, after, hstart, hblanks⟩

theorem isBlank_of_trim_eq_nil {text : List Char} (h : trim text = []) : ∀ c ∈ text, isBlank c = true := by
  intro c hc
  by_contra hblank
  exact List.not_mem_nil (h ▸ mem_trim (by simpa using hblank) hc)

/-- After the last part that is not blank stand blanks and separators only. -/
theorem exists_back_of_parts {separator : Char} {segments earlier : List (List Char)}
    {part : List Char} (h : (segments.map trim).filter (!·.isEmpty) = earlier ++ [part]) :
    ∃ front back, [separator].intercalate segments = front ++ part ++ back ∧
      ∀ c ∈ back, isBlank c = true ∨ c = separator := by
  induction segments generalizing earlier with
  | nil => simp at h
  | cons segment rest ih =>
    rw [List.map_cons, List.filter_cons] at h
    rcases List.eq_nil_or_concat ((rest.map trim).filter (!·.isEmpty)) with hrest | ⟨others, last, hrest⟩
    · rw [hrest] at h
      obtain rfl : trim segment = part := by
        split at h
        · exact List.singleton_inj.mp (List.append_inj' ((List.nil_append _).trans h) rfl).2
        · simp at h
      obtain ⟨before, after, hsegment, hafter⟩ := exists_blanks_of_trim segment
      refine ⟨before, after ++ rest.flatMap ([separator] ++ ·), ?_, fun c hc => ?_⟩
      · rw [intercalate_eq_flatMap, ← List.append_assoc, ← hsegment]
      · rcases List.mem_append.mp hc with hc | hc
        · exact .inl (hafter c hc)
        · obtain ⟨other, hother, hc⟩ := List.mem_flatMap.mp hc
          have hempty : trim other = [] := by
            simpa using List.filter_eq_nil_iff.mp hrest _ (List.mem_map_of_mem hother)
          rcases List.mem_append.mp hc with hc | hc
          · exact .inr (List.mem_singleton.mp hc)
          · exact .inl (isBlank_of_trim_eq_nil hempty c hc)
    · rw [List.concat_eq_append] at hrest
      obtain rfl : last = part := by
        rw [hrest] at h
        split at h
        · exact List.singleton_inj.mp (List.append_inj' ((List.cons_append ..).trans h) rfl).2
        · exact List.singleton_inj.mp (List.append_inj' h rfl).2
      obtain ⟨front, back, hintercalate, hback⟩ := ih hrest
      have hne : rest ≠ [] := by
        rintro rfl
        simp at hrest
      refine ⟨segment ++ [separator] ++ front, back, ?_, hback⟩
      rw [List.intercalate_cons_of_ne_nil hne, hintercalate]
      simp only [List.append_assoc]

/-- The last part of a text stands at its end, and the brackets that are open there are open in it. -/
theorem last_of_splitOutside {separator : Char} (hseparator : separator = ',' ∨ separator = ';')
    {text part : List Char} {earlier : List (List Char)}
    (h : splitOutside separator text = earlier ++ [part]) :
    (∃ front back, text = front ++ part ++ back ∧ ∀ c ∈ back, isBlank c = true ∨ c = separator) ∧
      bracketDepth part = bracketDepth text ∧ ∀ other ∈ earlier, bracketDepth other = 0 := by
  have hoperator : separator ∈ Context.operators := by rcases hseparator with rfl | rfl <;> decide
  have hblank : isBlank separator = false := by rcases hseparator with rfl | rfl <;> rfl
  have hstep : bracketStep separator = 0 := by rcases hseparator with rfl | rfl <;> rfl
  have hpush (context : Context) : (context.push separator).expectsOperand none = true := by
    simp [Context.expectsOperand, Context.push, hblank, hoperator]
  have hstart : Context.expectsOperand {} none = true := rfl
  have hcode : code text = codeFrom {} 0 text := rfl
  have hsplit := (divided_codeFrom separator {} 0 text).intercalate_segments
  obtain ⟨init, last, hsegments, hinit, hlast⟩ := exists_last_segment hstep hpush hstart 0 text
  rw [splitOutside, hcode, hsegments] at h
  rw [hsegments] at hsplit
  refine ⟨hsplit ▸ exists_back_of_parts h, ?_⟩
  rw [List.map_append, List.filter_append, List.map_singleton] at h
  have hclosed : ∀ part ∈ (init.map trim).filter (!·.isEmpty), bracketDepth part = 0 := by
    intro part hpart
    obtain ⟨segment, hsegment, rfl⟩ := List.mem_map.mp (List.mem_filter.mp hpart).1
    exact hinit segment hsegment
  have hwhole : bracketDepth (trim last) = bracketDepth text := hlast
  cases hempty : (trim last).isEmpty with
  | true =>
    -- The last segment is blank, so no bracket is open at the end of the text.
    rw [List.filter_cons_of_neg (by simp [hempty]), List.filter_nil, List.append_nil] at h
    rw [h] at hclosed
    rw [← hwhole, List.isEmpty_iff.mp hempty, bracketDepth_nil]
    exact ⟨hclosed part (by simp), fun other hother => hclosed other (by simp [hother])⟩
  | false =>
    rw [List.filter_cons_of_pos (by simp [hempty]), List.filter_nil] at h
    obtain ⟨rfl, hpart⟩ := List.append_inj' h rfl
    obtain rfl := List.singleton_inj.mp hpart
    exact ⟨hwhole, hclosed⟩

end Segments

namespace Joined

theorem texts_of_statements (joined : Joined) :
    joined.statements.map Statement.text = splitOutside ';' joined.draft.text := by
  unfold statements
  split
  · next hnone => rw [hnone, List.map_nil]
  · next hparts => rw [hparts, List.map_cons, List.map_map, Function.comp_def, List.map_id']

/-- The first statement carries the mark of lines that were cut short, and no other does. -/
theorem cutShort_of_statements {joined : Joined} {first : Statement} {others : List Statement}
    (h : joined.statements = first :: others) :
    first.cutShort = joined.cutShort ∧ ∀ other ∈ others, other.cutShort = false := by
  unfold statements at h
  split at h
  · contradiction
  · obtain ⟨rfl, rfl⟩ := List.cons.inj h
    refine ⟨rfl, fun other hother => ?_⟩
    obtain ⟨part, -, rfl⟩ := List.mem_map.mp hother
    rfl

/-- The joined lines go on after this line of code, the last of them that gives text. The lines of `more` come
after it and give none. -/
structure GoesOnAfter (joined : Joined) (mode : Mode) (line : Line) (code : List Char) (more : List Line) :
    Prop where
  silent : ∃ next, mode.read line.text = .code next code ∧ Silent next more 0
  code_ne_nil : code ≠ []
  continues : ∃ before : Draft, joined.draft.text = (before.add line.number code).text ∧
    (before.add line.number code).continues code = true

/-- The joined lines go on after one of these lines or, if none of them gives text, after the draft that they
are joined onto. -/
def GoesOn (joined : Joined) (mode : Mode) (draft : Draft) (lines : List Line) : Prop :=
  (draft.text ≠ [] ∧ joined.draft.text = draft.text ∧
    ∃ more, lines = more ++ joined.reader.lines ∧ Silent mode more 0) ∨
  ∃ taken line code more, lines = taken ++ line :: more ++ joined.reader.lines ∧
    joined.GoesOnAfter (taken.foldl Mode.after mode) line code more

namespace GoesOn

variable {joined : Joined} {mode next : Mode} {draft : Draft} {line : Line} {rest : List Line}

/-- Joining stops here. -/
theorem here (hdraft : joined.draft = draft) (htext : draft.text.isEmpty = false)
    (hlines : joined.reader.lines = rest) : joined.GoesOn mode draft rest :=
  .inl ⟨by simpa using htext, congrArg Draft.text hdraft, [], hlines.symm, .nil⟩

theorem skip (later : Draft) (hafter : mode.after line = next) (hlater : later.text = draft.text)
    (hsilent : ∀ {more}, Silent next more 0 → Silent mode (line :: more) 0)
    (h : joined.GoesOn next later rest) : joined.GoesOn mode draft (line :: rest) := by
  rcases h with ⟨htext, hsame, more, rfl, hmore⟩ | ⟨taken, last, code, more, rfl, hlast⟩
  · exact .inl ⟨hlater ▸ htext, hsame.trans hlater, line :: more, rfl, hsilent hmore⟩
  · refine .inr ⟨line :: taken, last, code, more, rfl, ?_⟩
    rwa [List.foldl_cons, hafter]

/-- Joining stops after the line. -/
theorem last {c : Char} {code : List Char} (hread : mode.read line.text = .code next (c :: code))
    (hcontinues : (draft.add line.number (c :: code)).continues (c :: code) = true)
    (hdraft : joined.draft = draft.add line.number (c :: code)) (hlines : joined.reader.lines = rest) :
    joined.GoesOn mode draft (line :: rest) :=
  .inr ⟨[], line, c :: code, [], by rw [hlines]; rfl, ⟨next, hread, .nil⟩, List.cons_ne_nil _ _, draft,
    congrArg Draft.text hdraft, hcontinues⟩

/-- Where the line goes on, and no later one gives text, the joined lines go on after it. -/
theorem add {c : Char} {code : List Char} (hread : mode.read line.text = .code next (c :: code))
    (hcontinues : (draft.add line.number (c :: code)).continues (c :: code) = true)
    (h : joined.GoesOn next (draft.add line.number (c :: code)) rest) :
    joined.GoesOn mode draft (line :: rest) := by
  rcases h with ⟨htext, hsame, more, rfl, hmore⟩ | ⟨taken, last, code, more, rfl, hlast⟩
  · exact .inr ⟨[], line, c :: code, more, rfl, ⟨next, hread, hmore⟩, List.cons_ne_nil _ _, draft, hsame,
      hcontinues⟩
  · refine .inr ⟨line :: taken, last, code, more, rfl, ?_⟩
    rwa [List.foldl_cons, Mode.after_code hread]

end GoesOn

end Joined

theorem goesOn_join (mode : Mode) (draft : Draft) (lines : List Line)
    (h : (join mode draft lines).cutShort = true) : (join mode draft lines).GoesOn mode draft lines := by
  fun_induction join mode draft lines
  case case1 | case4 | case8 => contradiction
  case case2 hhead =>
    simp only [Bool.and_eq_true, Bool.not_eq_true'] at hhead
    exact .here rfl hhead.1.1 rfl
  case case3 hread ih => exact .skip _ (Mode.after_passive hread) rfl (.passive hread) (ih h)
  case case5 hread _ ih => exact .skip _ (Mode.after_code hread) rfl (.blank hread) (ih h)
  case case6 hread _ _ _ ih => exact .skip _ (Mode.after_code hread) rfl (.blank hread) (ih h)
  case case7 hread htext later _ =>
    exact .skip later (Mode.after_code hread) rfl (.blank hread) (.here rfl (by simpa using htext) rfl)
  case case9 hread _ hcontinues _ ih => exact .add hread (by simpa using hcontinues) (ih h)
  case case10 hread _ hcontinues _ => exact .last hread (by simpa using hcontinues) rfl rfl

/-- Joined lines that are cut short go on after a line of the file. -/
theorem Reader.exists_goesOnAfter {file consumed : List Line} {reader : Reader}
    (hfile : reader.Follows file consumed) {joined : Joined} (hjoined : joined ∈ reader.joinedLines)
    (hcut : joined.cutShort = true) :
    ∃ earlier line code more, file = earlier ++ line :: more ++ joined.reader.lines ∧
      joined.GoesOnAfter (earlier.foldl Mode.after {}) line code more := by
  fun_induction Reader.joinedLines reader generalizing consumed with
  | case1 => cases hjoined
  | case2 reader htext _ ih =>
    rcases List.mem_cons.mp hjoined with rfl | hjoined
    · obtain ⟨-, hnext⟩ := hfile.next_eq htext
      have hgoes := goesOn_join (consumed.foldl Mode.after {}) {} reader.lines
      rw [← hnext] at hgoes
      rcases hgoes hcut with ⟨hempty, -⟩ | ⟨taken, line, code, more, hlines, hlast⟩
      · contradiction
      · refine ⟨consumed ++ taken, line, code, more, ?_, by rwa [List.foldl_append]⟩
        rw [hfile.split, hlines]
        simp only [List.append_assoc]
    · obtain ⟨later, hlater⟩ := hfile.next
      exact ih hlater hjoined

/-- A comma at the end of a line of code is one at the end of what is joined. -/
theorem Draft.endsWith_comma_add (draft : Draft) (number : Nat) {code : List Char}
    (h : endsWith [','] code = true) : endsWith [','] (draft.add number code).text = true := by
  obtain ⟨stem, rfl⟩ := List.isSuffixOf_iff_suffix.mp h
  have hpiece : trimEnd (dropEndWhile (· == '\\') (stem ++ [','])) = stem ++ [','] := by
    have hcode : dropEndWhile (· == '\\') (stem ++ [',']) = stem ++ [','] :=
      List.rdropWhile_concat_neg _ _ _ (by decide)
    rw [hcode]
    exact List.rdropWhile_concat_neg _ _ _ (by decide)
  refine List.isSuffixOf_iff_suffix.mpr ?_
  simp only [add, hpiece]
  split
  · exact List.suffix_append stem [',']
  · exact ⟨draft.text ++ ' ' :: stem, by simp⟩

/-- A comma at the end of a text is one at the end of its last part. -/
theorem endsWith_comma_of_back {text front part back : List Char} (htext : text = front ++ part ++ back)
    (hback : ∀ c ∈ back, isBlank c = true ∨ c = ';') (hpart : part ≠ [])
    (h : endsWith [','] text = true) : endsWith [','] part = true := by
  obtain ⟨stem, hstem⟩ := List.isSuffixOf_iff_suffix.mp h
  rw [htext] at hstem
  rcases List.eq_nil_or_concat back with rfl | ⟨more, c, rfl⟩
  · obtain ⟨more, c, rfl⟩ := (List.eq_nil_or_concat part).resolve_left hpart
    rw [List.append_nil, List.concat_eq_append, ← List.append_assoc] at hstem
    obtain rfl := List.singleton_inj.mp (List.append_inj' hstem rfl).2
    exact List.isSuffixOf_iff_suffix.mpr ⟨more, (List.concat_eq_append ..).symm⟩
  · rw [List.concat_eq_append, ← List.append_assoc] at hstem
    obtain rfl := List.singleton_inj.mp (List.append_inj' hstem rfl).2
    exact absurd (hback ',' (by simp)) (by decide)

/-- The last statement of joined lines is the one that they leave open. It stands at their end, the brackets
that are open there are open in it, and none is open at the end of an earlier statement. The joined lines go
on after a line of code, behind which no line gives text: the statement or that line says so. -/
structure Joined.LeavesOpen (joined : Joined) (file : List Line) (earlier : List Statement)
    (last : Statement) : Prop where
  atEnd : ∃ front back, joined.draft.text = front ++ last.text ++ back ∧
    ∀ c ∈ back, isBlank c = true ∨ c = ';'
  depth_eq : bracketDepth last.text = bracketDepth joined.draft.text
  closed : ∀ statement ∈ earlier, bracketDepth statement.text = 0
  goesOn : ∃ before line code more next, file = before ++ line :: more ++ joined.reader.lines ∧
    (before.foldl Mode.after {}).read line.text = .code next code ∧ code ≠ [] ∧ Silent next more 0 ∧
    (endsWith [','] last.text = true ∨ endsWith ['\\'] code = true ∨ 0 < bracketDepth last.text)

theorem leavesOpen_of_mem_joinedLines {text : List Char} {joined : Joined}
    (hjoined : joined ∈ joinedLines text) (hcut : joined.cutShort = true) {earlier : List Statement}
    {last : Statement} (hsplit : joined.statements = earlier ++ [last]) :
    joined.LeavesOpen (numberLines 1 (lines text)) earlier last := by
  have hparts : splitOutside ';' joined.draft.text = earlier.map Statement.text ++ [last.text] := by
    rw [← joined.texts_of_statements, hsplit, List.map_append, List.map_singleton]
  obtain ⟨⟨front, back, htext, hback⟩, hdepth, hclosed⟩ := last_of_splitOutside (.inr rfl) hparts
  refine ⟨⟨front, back, htext, hback⟩, hdepth, fun statement hstatement => ?_, ?_⟩
  · exact hclosed _ (List.mem_map_of_mem hstatement)
  · have hstart : Reader.Follows (numberLines 1 (lines text)) [] { lines := numberLines 1 (lines text) } :=
      ⟨rfl, fun _ => rfl, fun hended => by simp at hended⟩
    obtain ⟨before, line, code, more, hlines, ⟨next, hread, hsilent⟩, hcode, draft, hdraft, hcontinues⟩ :=
      Reader.exists_goesOnAfter hstart hjoined hcut
    refine ⟨before, line, code, more, next, hlines, hread, hcode, hsilent, ?_⟩
    simp only [Draft.continues, Bool.or_eq_true, decide_eq_true_eq] at hcontinues
    rcases hcontinues with (hcomma | hbackslash) | hopen
    · have hne : last.text ≠ [] := by
        have hmem : last.text ∈ splitOutside ';' joined.draft.text := by simp [hparts]
        simpa using (List.mem_filter.mp hmem).2
      exact .inl (endsWith_comma_of_back htext hback hne (hdraft ▸ draft.endsWith_comma_add _ hcomma))
    · exact .inr (.inl hbackslash)
    · rw [← hdraft, ← hdepth] at hopen
      exact .inr (.inr hopen)

end ForeignKeyLint.Ruby
