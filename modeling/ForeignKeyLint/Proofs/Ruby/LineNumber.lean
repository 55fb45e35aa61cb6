import ForeignKeyLint.Proofs.Ruby.Comment
import ForeignKeyLint.Proofs.Ruby.Joining

/-!
The numbers of statements. A statement has the number of the line that gives the first text of the joined
lines it comes from. Main statement: the numbers of the statements of a text do not decrease, and each is the
number of a line of code that holds more than a comment.
-/

namespace ForeignKeyLint.Ruby

open Text

/-- The joined lines that a reader gives, up to the first that hold no text. -/
def Reader.joinedLines (reader : Reader) : List Joined :=
  if h : reader.next.draft.text = [] then []
  else
    have := length_next_lt h
    reader.next :: joinedLines reader.next.reader
termination_by reader.lines.length

theorem Reader.statements_eq_flatMap (reader : Reader) :
    reader.statements = reader.joinedLines.flatMap Joined.statements := by
  fun_induction Reader.joinedLines reader with
  | case1 reader htext => rw [Reader.statements, dif_pos htext, List.flatMap_nil]
  | case2 reader htext _ ih => rw [Reader.statements, dif_neg htext, List.flatMap_cons, ih]

/-- The joined lines of a source text. -/
def joinedLines (text : List Char) : List Joined :=
  Reader.joinedLines { lines := numberLines 1 (lines text) }

theorem statements_eq_flatMap (text : List Char) :
    statements text = (joinedLines text).flatMap Joined.statements :=
  Reader.statements_eq_flatMap _

/-- All statements of joined lines have one number. -/
theorem line_of_mem_statements {joined : Joined} {statement : Statement}
    (h : statement ∈ joined.statements) : statement.line = joined.draft.line := by
  unfold Joined.statements at h
  split at h
  · cases h
  · rcases List.mem_cons.mp h with rfl | h
    · rfl
    · obtain ⟨part, -, rfl⟩ := List.mem_map.mp h
      rfl

namespace Mode

/-- None of the lines, read in this mode, ends the program. -/
def Runs (mode : Mode) : List Line → Prop
  | [] => True
  | line :: rest =>
    ¬(mode.isCode = true ∧ trim line.text = "__END__".toList) ∧ (mode.after line).Runs rest

theorem runs_append {mode : Mode} {first second : List Line} :
    mode.Runs (first ++ second) ↔ mode.Runs first ∧ (first.foldl Mode.after mode).Runs second := by
  induction first generalizing mode with
  | nil => simp [Runs]
  | cons line first ih => rw [List.cons_append, Runs, Runs, ih, List.foldl_cons, and_assoc]

/-- The line that ends the program opens no block comment. -/
theorem read_eq_programEnd {mode : Mode} {text : List Char} (hmode : mode.isCode = true)
    (hend : trim text = "__END__".toList) : mode.read text = .programEnd := by
  obtain ⟨hcomment, hheredocs⟩ : mode.inComment = false ∧ mode.heredocs = [] := by
    simpa [isCode] using hmode
  have hopens : beginsWith "=begin".toList text = false := by
    by_contra hbegin
    obtain ⟨rest, rfl⟩ := List.isPrefixOf_iff_prefix.mp (Bool.not_eq_false _ ▸ hbegin)
    have hmark : '=' ∈ trim ("=begin".toList ++ rest) := mem_trim (by decide) (by simp)
    rw [hend] at hmark
    revert hmark
    decide
  unfold read
  rw [hcomment, hheredocs]
  simp only [Bool.false_eq_true, if_false, hopens, if_pos hend]

theorem runs_cons {mode : Mode} {line : Line} {rest : List Line}
    (hline : mode.read line.text ≠ .programEnd) (hrest : (mode.after line).Runs rest) :
    mode.Runs (line :: rest) :=
  ⟨fun hend => hline (read_eq_programEnd hend.1 hend.2), hrest⟩

/-- What is known of a line whose code has been read. -/
theorem facts_of_read_code {mode next : Mode} {text code : List Char}
    (h : mode.read text = .code next code) :
    mode.isCode = true ∧ beginsWith "=begin".toList text = false ∧ trim text ≠ "__END__".toList := by
  unfold read at h
  split at h
  · contradiction
  · next hcomment =>
    split at h
    · contradiction
    · next hheredocs =>
      split at h
      · contradiction
      · next hopens =>
        split at h
        · contradiction
        · next hend => exact ⟨by simp [isCode, hcomment, hheredocs], by simpa using hopens, hend⟩

end Mode

/-- Lines without text do not end the program. -/
theorem Silent.runs {mode : Mode} {lines : List Line} {count : Nat} (h : Silent mode lines count) :
    mode.Runs lines := by
  induction h with
  | nil => exact trivial
  | passive hread _ ih =>
    exact Mode.runs_cons (by simp [hread]) (by rwa [Mode.after_passive hread])
  | blank hread _ ih | backslashes hread _ ih =>
    exact Mode.runs_cons (by simp [hread]) (by rwa [Mode.after_code hread])

/-- The lines that are joined do not end the program, unless the reader is at its end after them. -/
theorem runs_join (mode : Mode) (draft : Draft) (lines : List Line)
    (h : (join mode draft lines).reader.ended = false) :
    ∃ taken, lines = taken ++ (join mode draft lines).reader.lines ∧ mode.Runs taken := by
  have hcons {mode next : Mode} {line : Line} {rest taken left : List Line}
      (hline : mode.read line.text ≠ .programEnd) (hafter : mode.after line = next)
      (hrest : rest = taken ++ left ∧ next.Runs taken) :
      ∃ taken, line :: rest = taken ++ left ∧ mode.Runs taken :=
    ⟨line :: taken, by rw [hrest.1, List.cons_append], Mode.runs_cons hline (hafter ▸ hrest.2)⟩
  have hlast {mode : Mode} {line : Line} {rest : List Line} (hline : mode.read line.text ≠ .programEnd) :
      ∃ taken, line :: rest = taken ++ rest ∧ mode.Runs taken :=
    ⟨[line], rfl, Mode.runs_cons hline trivial⟩
  fun_induction join mode draft lines
  case case1 | case2 => exact ⟨[], rfl, trivial⟩
  case case4 => contradiction
  case case3 hread ih =>
    obtain ⟨taken, hrest⟩ := ih h
    exact hcons (by simp [hread]) (Mode.after_passive hread) hrest
  case case5 hread _ ih | case6 hread _ _ _ ih | case9 hread _ _ _ ih =>
    obtain ⟨taken, hrest⟩ := ih h
    exact hcons (by simp [hread]) (Mode.after_code hread) hrest
  case case7 hread _ _ _ | case8 hread _ _ | case10 hread _ _ _ =>
    exact hlast (by simp [hread])

/-- A line of a file that is read as code, and what comes before it: the program has not ended there, and no
here document or block comment is open or opened. What is left of it without its comment is not blank. -/
structure StandsAsCode (file before : List Line) (line : Line) : Prop where
  stands : before ++ [line] <+: file
  runs : Mode.Runs {} before
  isCode : (before.foldl Mode.after {}).isCode = true
  opensNoComment : beginsWith "=begin".toList line.text = false
  ne_end : trim line.text ≠ "__END__".toList
  code_ne_nil : trim (stripLine line.text).1 ≠ []

theorem Joined.BuiltFrom.standsAsCode {joined : Joined} {consumed lead tail rest : List Line}
    {first : Line} (h : joined.BuiltFrom (consumed.foldl Mode.after {}) lead first tail)
    (hruns : Mode.Runs {} consumed) :
    StandsAsCode (consumed ++ (lead ++ first :: tail ++ rest)) (consumed ++ lead) first := by
  obtain ⟨⟨_, hsilent, -⟩, ⟨piece, hpiece, -⟩, -, -, -⟩ := h
  rw [← List.foldl_append] at hpiece
  obtain ⟨next, c, code, hread⟩ :
      ∃ next c code, ((consumed ++ lead).foldl Mode.after {}).read first.text = .code next (c :: code) := by
    unfold Mode.piece? at hpiece
    split at hpiece
    · exact ⟨_, _, _, ‹_›⟩
    · contradiction
  obtain ⟨hcode, hopens, hend⟩ := Mode.facts_of_read_code hread
  refine ⟨⟨tail ++ rest, by simp⟩, Mode.runs_append.mpr ⟨hruns, hsilent.runs⟩, hcode, hopens, hend, ?_⟩
  rw [← eq_trim_of_read hread]
  exact List.cons_ne_nil c code

/-- The reader has consumed these lines of a file, and none of them has ended the program before it. -/
structure Reader.Proceeds (file consumed : List Line) (reader : Reader) : Prop
    extends reader.Follows file consumed where
  runs : reader.ended = false → Mode.Runs {} consumed

/-- A reader that gives text joins the lines that are left. -/
theorem Reader.Follows.next_eq {file consumed : List Line} {reader : Reader}
    (h : reader.Follows file consumed) (htext : reader.next.draft.text ≠ []) :
    reader.ended = false ∧ reader.next = join (consumed.foldl Mode.after {}) {} reader.lines := by
  cases hended : reader.ended with
  | true => simp [Reader.next, hended] at htext
  | false => exact ⟨rfl, by simp [Reader.next, hended, h.mode hended]⟩

/-- The next joined lines have the number of a line of code among those that the reader consumes for them. -/
theorem Reader.Proceeds.next {file consumed : List Line} {reader : Reader}
    (h : reader.Proceeds file consumed) (htext : reader.next.draft.text ≠ []) :
    ∃ more before line, reader.next.reader.Proceeds file more ∧ StandsAsCode file before line ∧
      reader.next.draft.line = line.number ∧ consumed.length ≤ before.length ∧
      before.length < more.length := by
  obtain ⟨hopen, hnext⟩ := h.toFollows.next_eq htext
  obtain ⟨more, hmore⟩ := h.toFollows.next
  rw [hnext] at htext hmore ⊢
  obtain ⟨lead, first, tail, hlines, hbuilt⟩ := builtFrom_join htext
  have hfile := h.split
  rw [hlines] at hfile
  -- The lines consumed by then are those the joined lines are built from.
  obtain rfl : more = consumed ++ (lead ++ first :: tail) := by
    have hsplit := hmore.split
    rw [hfile, ← List.append_assoc] at hsplit
    exact (List.append_cancel_right hsplit).symm
  refine ⟨_, consumed ++ lead, first, ⟨hmore, fun hended => ?_⟩, ?_, hbuilt.line_eq, by simp, by simp⟩
  · obtain ⟨taken, htaken, hruns⟩ := runs_join _ _ _ hended
    obtain rfl : taken = lead ++ first :: tail := List.append_cancel_right (htaken.symm.trans hlines)
    exact Mode.runs_append.mpr ⟨h.runs hopen, hruns⟩
  · rw [hfile]
    exact hbuilt.standsAsCode (h.runs hopen)

theorem number_eq_add_length {first : Nat} {texts : List (List Char)} {before : List Line} {line : Line}
    (h : before ++ [line] <+: numberLines first texts) :
    line.number = first + before.length ∧ before.length < texts.length := by
  induction before generalizing first texts with
  | nil =>
    cases texts with
    | nil => simp [numberLines] at h
    | cons text texts =>
      rw [numberLines, List.nil_append, List.cons_prefix_cons] at h
      simp [h.1]
  | cons other before ih =>
    cases texts with
    | nil => simp [numberLines] at h
    | cons text texts =>
      rw [numberLines, List.cons_append, List.cons_prefix_cons] at h
      have hrest := ih h.2
      simp only [List.length_cons]
      omega

/-- The numbers of joined lines increase, each of them that of a line of code that is not consumed before. -/
theorem Reader.Proceeds.joinedLines {texts : List (List Char)} {consumed : List Line} {reader : Reader}
    (h : reader.Proceeds (numberLines 1 texts) consumed) :
    (reader.joinedLines.map (·.draft.line)).Pairwise (· < ·) ∧
      ∀ joined ∈ reader.joinedLines, consumed.length < joined.draft.line ∧
        ∃ before line, StandsAsCode (numberLines 1 texts) before line ∧
          joined.draft.line = line.number := by
  fun_induction Reader.joinedLines reader generalizing consumed with
  | case1 => simp
  | case2 reader htext _ ih =>
    obtain ⟨more, before, line, hmore, hstands, hline, hfirst, hlast⟩ := h.next htext
    obtain ⟨hordered, hothers⟩ := ih hmore
    have hnumber := (number_eq_add_length hstands.stands).1
    rw [List.map_cons, List.pairwise_cons, List.forall_mem_cons]
    refine ⟨⟨fun number hnumber' => ?_, hordered⟩, ⟨by omega, before, line, hstands, hline⟩,
      fun joined hjoined => ?_⟩
    · obtain ⟨joined, hjoined, rfl⟩ := List.mem_map.mp hnumber'
      have hlater := (hothers joined hjoined).1
      omega
    · obtain ⟨hlater, hcode⟩ := hothers joined hjoined
      exact ⟨by omega, hcode⟩

/-- The numbers of the statements of a text do not decrease, and they are those of lines of code. -/
theorem statements_in_order (text : List Char) :
    ((statements text).map (·.line)).Pairwise (· ≤ ·) ∧
      ∀ statement ∈ statements text, ∃ before line,
        StandsAsCode (numberLines 1 (lines text)) before line ∧ statement.line = line.number := by
  have hstart : Reader.Proceeds (numberLines 1 (lines text)) [] { lines := numberLines 1 (lines text) } :=
    ⟨⟨rfl, fun _ => rfl, fun hended => by simp at hended⟩, fun _ => trivial⟩
  obtain ⟨hordered, hcode⟩ := hstart.joinedLines
  rw [statements_eq_flatMap]
  constructor
  · rw [List.pairwise_map, List.pairwise_flatMap]
    constructor
    · intro joined _
      exact List.pairwise_of_forall_mem_list fun first hfirst second hsecond =>
        (line_of_mem_statements hfirst).trans (line_of_mem_statements hsecond).symm |>.le
    · refine (List.pairwise_map.mp hordered).imp fun {earlier later} hlt first hfirst second hsecond => ?_
      rw [line_of_mem_statements hfirst, line_of_mem_statements hsecond]
      exact hlt.le
  · intro statement hstatement
    obtain ⟨joined, hjoined, hmem⟩ := List.mem_flatMap.mp hstatement
    rw [line_of_mem_statements hmem]
    exact (hcode joined hjoined).2

end ForeignKeyLint.Ruby
