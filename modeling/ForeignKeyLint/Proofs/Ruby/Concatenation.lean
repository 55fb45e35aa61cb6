import ForeignKeyLint.Proofs.Ruby.LineByLine
import ForeignKeyLint.Proofs.Ruby.SingleLine
import ForeignKeyLint.Proofs.Text.Lines

/-!
Statements of one text after another. A first text that stands between statements at its end puts the
lines of a second one further down, and has no other say in its statements, unless it leaves joined
lines without text behind. Such lines are held against the second text: there is one whose statement
is lost after them.
-/

namespace ForeignKeyLint.Ruby

open Text

theorem numberLines_append (first : Nat) (texts others : List (List Char)) :
    numberLines first (texts ++ others) =
      numberLines first texts ++ numberLines (first + texts.length) others := by
  induction texts generalizing first with
  | nil => rfl
  | cons text texts ih =>
    have hnext : first + (text :: texts).length = first + 1 + texts.length := by
      rw [List.length_cons]
      omega
    rw [List.cons_append, numberLines, numberLines, ih, hnext, List.cons_append]

/-- The line, that many lines further down. -/
def Line.later (shift : Nat) (line : Line) : Line :=
  { line with number := line.number + shift }

/-- The statement, that many lines further down. -/
def Statement.later (shift : Nat) (statement : Statement) : Statement :=
  { statement with line := statement.line + shift }

theorem numberLines_add (first shift : Nat) (texts : List (List Char)) :
    numberLines (first + shift) texts = (numberLines first texts).map (Line.later shift) := by
  induction texts generalizing first with
  | nil => rfl
  | cons text texts ih =>
    rw [numberLines, Nat.add_right_comm, ih]
    rfl

/-- The second draft is the first one, that many lines further down. A draft without text has no
line. -/
structure Draft.Later (shift : Nat) (draft later : Draft) : Prop where
  text : later.text = draft.text
  joined : later.joined = draft.joined
  line : draft.text ≠ [] → later.line = draft.line + shift

/-- Reading stands where it stood before, that many lines further down. -/
structure Progress.Later (shift : Nat) (progress later : Progress) : Prop where
  mode : later.mode = progress.mode
  draft : progress.draft.Later shift later.draft
  ended : later.ended = progress.ended

/-- The same was read, that many lines further down. -/
structure ReadLater (shift : Nat) (read later : List Statement × Progress) : Prop where
  found : later.1 = read.1.map (Statement.later shift)
  progress : read.2.Later shift later.2

section Later

variable {shift : Nat}

theorem Draft.later_fresh (shift : Nat) : Draft.Later shift {} {} :=
  ⟨rfl, rfl, fun h => absurd rfl h⟩

namespace Draft.Later

variable {draft later : Draft}

theorem add (h : draft.Later shift later) (number : Nat) (code : List Char) :
    (draft.add number code).Later shift (later.add (number + shift) code) := by
  refine ⟨by simp [Draft.add, h.text], by simp [Draft.add, h.joined], fun _ => ?_⟩
  cases htext : draft.text with
  | nil => simp [Draft.add, h.text, htext]
  | cons c text =>
    have hline := h.line (by simp [htext])
    simpa [Draft.add, h.text, htext] using hline

theorem statements (h : draft.Later shift later) (cutShort : Bool) :
    later.statements cutShort = (draft.statements cutShort).map (Statement.later shift) := by
  by_cases htext : draft.text = []
  · rw [Draft.statements_of_text_eq_nil htext, Draft.statements_of_text_eq_nil (h.text.trans htext)]
    rfl
  · simp only [Draft.statements, Joined.statements, h.text, h.line htext]
    cases splitOutside ';' draft.text with
    | nil => rfl
    | cons first others => simp [Statement.later]

theorem settle (h : draft.Later shift later) (mode : Mode) (continues : Bool) :
    ReadLater shift (Progress.settle mode draft continues)
      (Progress.settle mode later continues) := by
  unfold Progress.settle
  rw [h.text, h.joined]
  split
  · exact ⟨rfl, rfl, h, rfl⟩
  · exact ⟨h.statements continues, rfl, Draft.later_fresh shift, rfl⟩

theorem extend (h : draft.Later shift later) (mode : Mode) (line : Line) :
    ReadLater shift (Progress.extend mode draft line)
      (Progress.extend mode later (line.later shift)) := by
  have htext : (line.later shift).text = line.text := rfl
  unfold Progress.extend
  rw [htext]
  split
  · exact ⟨rfl, rfl, h, rfl⟩
  · exact ⟨h.statements false, rfl, Draft.later_fresh shift, rfl⟩
  · have hempty : later.text.isEmpty = draft.text.isEmpty := by rw [h.text]
    rw [hempty]
    split
    · exact ⟨rfl, rfl, h, rfl⟩
    · have hcounted : Draft.Later shift { draft with joined := draft.joined + 1 }
          { later with joined := later.joined + 1 } :=
        ⟨h.text, congrArg (· + 1) h.joined, h.line⟩
      exact hcounted.settle _ true
  · next c code _ =>
    have hadded := h.add line.number (c :: code)
    have hcontinues : (later.add (line.number + shift) (c :: code)).continues (c :: code) =
        (draft.add line.number (c :: code)).continues (c :: code) := by
      rw [Draft.continues, Draft.continues, hadded.text]
    dsimp only
    rw [Line.later, hcontinues]
    exact hadded.settle _ _

end Draft.Later

namespace Progress.Later

variable {progress later : Progress}

theorem isOver (h : progress.Later shift later) : later.isOver = progress.isOver := by
  rw [Progress.isOver, Progress.isOver, h.ended, h.draft.joined]

/-- A line further down is read as the line itself. -/
theorem step (h : progress.Later shift later) (line : Line) :
    ReadLater shift (progress.step line) (later.step (line.later shift)) := by
  have htext : (line.later shift).text = line.text := rfl
  unfold Progress.step
  rw [h.isOver, h.mode, h.draft.text, htext]
  split
  · exact ⟨rfl, h⟩
  · split
    · have hfresh := (Draft.later_fresh shift).extend progress.mode line
      refine ⟨?_, hfresh.progress⟩
      simp only [List.map_append, h.draft.statements true, hfresh.found]
    · exact h.draft.extend progress.mode line

theorem run (h : progress.Later shift later) (lines : List Line) :
    ReadLater shift (progress.run lines) (later.run (lines.map (Line.later shift))) := by
  induction lines generalizing progress later with
  | nil => exact ⟨rfl, h⟩
  | cons line rest ih =>
    have hstep := h.step line
    have hrest := ih hstep.progress
    refine ⟨?_, hrest.progress⟩
    simp only [Progress.run, List.map_cons, List.map_append, hstep.found, hrest.found]

theorem unfinished (h : progress.Later shift later) :
    later.unfinished = progress.unfinished.map (Statement.later shift) := by
  rw [Progress.unfinished, Progress.unfinished, h.isOver]
  split
  · rfl
  · exact h.draft.statements false

theorem onward (h : progress.Later shift later) (lines : List Line) :
    later.onward (lines.map (Line.later shift)) =
      (progress.onward lines).map (Statement.later shift) := by
  have hrun := h.run lines
  rw [onward_eq_run, onward_eq_run, List.map_append, hrun.found, hrun.progress.unfinished]

end Progress.Later

end Later

/-- Reading stands between two statements: no end of a here document or of a block comment is awaited,
the program has not ended, and no statement has begun. -/
structure Progress.BetweenStatements (progress : Progress) : Prop where
  heredocs : progress.mode.heredocs = []
  inComment : progress.mode.inComment = false
  ended : progress.ended = false
  text : progress.draft.text = []

section BetweenStatements

variable {first : List Char}

theorem Progress.BetweenStatements.mode {progress : Progress} (h : progress.BetweenStatements) :
    progress.mode = {} := by
  obtain ⟨⟨heredocs, inComment⟩, draft, ended⟩ := progress
  obtain ⟨rfl, rfl, -, -⟩ := h
  rfl

/-- Nothing is left to say between statements. -/
theorem Progress.BetweenStatements.unfinished {progress : Progress} (h : progress.BetweenStatements) :
    progress.unfinished = [] := by
  rw [Progress.unfinished, Draft.statements_of_text_eq_nil h.text, ite_self]

theorem statements_append (hended : first = [] ∨ first.getLast? = some '\n')
    (hbetween : (Progress.after first).BetweenStatements) (second : List Char) :
    statements (first ++ second) = statements first ++
      (Progress.after first).onward (numberLines (1 + (lines first).length) (lines second)) := by
  rw [statements_eq_run first, hbetween.unfinished, List.append_nil, statements_eq_onward,
    lines_append_of_ended hended, numberLines_append, Progress.onward_append]
  rfl

/-- Where no joined lines are left behind, what follows is read as a text of its own. -/
theorem statements_append_of_fresh (hended : first = [] ∨ first.getLast? = some '\n')
    (hbetween : (Progress.after first).BetweenStatements)
    (hjoined : (Progress.after first).draft.joined = 0) (second : List Char) :
    statements (first ++ second) = statements first ++
      (statements second).map (Statement.later (lines first).length) := by
  have hlater : Progress.Later (lines first).length {} (Progress.after first) :=
    ⟨hbetween.mode, ⟨hbetween.text, hjoined, fun h => absurd rfl h⟩, hbetween.ended⟩
  rw [statements_append hended hbetween, numberLines_add, hlater.onward, ← statements_eq_onward]

end BetweenStatements

section Backslashes

/-- Lines of a backslash add to the count of joined lines, and to nothing else. -/
theorem Progress.BetweenStatements.run_backslashes {progress : Progress}
    (h : progress.BetweenStatements) (count : Nat)
    (hjoined : progress.draft.joined + count ≤ maxJoined) (first : Nat) :
    ∃ last : Progress, last.BetweenStatements ∧
      last.draft.joined = progress.draft.joined + count ∧
      progress.run (numberLines first (List.replicate count ['\\'])) = ([], last) := by
  induction count generalizing progress first with
  | zero => exact ⟨progress, h, rfl, rfl⟩
  | succ count ih =>
    let next : Progress := { draft := progress.draft.add first ['\\'] }
    have hcounted : next.draft.joined = progress.draft.joined + 1 := rfl
    have htext : (progress.draft.add first ['\\']).text = [] := by
      rw [Draft.text_add_eq_nil_iff h.text rfl]
      simp
    have hopen : progress.isOver = false := by
      simp only [isOver, h.ended, Bool.false_or, decide_eq_false_iff_not]
      omega
    have hread : Mode.read {} ['\\'] = .code {} ['\\'] := by decide +kernel
    have hstep : progress.step { number := first, text := ['\\'] } = ([], next) := by
      simp [step, hopen, h.text, h.mode, extend, hread, settle, htext, next]
    have hnext : next.BetweenStatements := ⟨rfl, rfl, rfl, htext⟩
    obtain ⟨last, hlast, hcount, hrun⟩ := ih hnext (by omega) (first + 1)
    refine ⟨last, hlast, by omega, ?_⟩
    rw [List.replicate_succ, numberLines, run, hstep]
    simp only [hrun, List.append_nil]

/-- A statement that is read on its own line. -/
def dropText : List Char := "drop_table :users".toList

theorem Progress.BetweenStatements.step_dropText {progress : Progress} (h : progress.BetweenStatements)
    (hjoined : progress.draft.joined < maxJoined) (number : Nat) :
    progress.step { number, text := dropText } =
      ([{ line := number, text := dropText, cutShort := false }], {}) := by
  have hopen : progress.isOver = false := by simp [isOver, h.ended, hjoined]
  have hread : Mode.read {} dropText = .code {} dropText := by decide +kernel
  have hpiece : trimEnd (dropEndWhile (· == '\\') dropText) = dropText := by decide +kernel
  have hadd : progress.draft.add number dropText =
      { text := dropText, line := number, joined := progress.draft.joined + 1 } := by
    simp [Draft.add, h.text, hpiece]
  have hcontinues : (progress.draft.add number dropText).continues dropText = false := by
    rw [hadd]
    change (endsWith [','] dropText || endsWith ['\\'] dropText || 0 < bracketDepth dropText) = false
    decide +kernel
  have hstatements : (progress.draft.add number dropText).statements false =
      [{ line := number, text := dropText, cutShort := false }] := by
    have hsplit : splitOutside ';' dropText = [dropText] := by decide +kernel
    simp [hadd, Draft.statements, Joined.statements, hsplit]
  have htext : (progress.draft.add number dropText).text.isEmpty = false := by
    rw [hadd]
    rfl
  obtain ⟨c, code, hcode⟩ : ∃ c code, dropText = c :: code := ⟨_, _, rfl⟩
  rw [hcode] at hread hcontinues hstatements htext ⊢
  simp [step, hopen, h.text, h.mode, extend, hread, settle, hcontinues, hstatements, htext]

/-- The statement after lines of a backslash. -/
def delayed (count : Nat) : List Char :=
  endLines (List.replicate count ['\\'] ++ [dropText])

theorem lines_delayed (count : Nat) :
    lines (delayed count) = List.replicate count ['\\'] ++ [dropText] := by
  apply lines_endLines
  intro text hmem
  rcases List.mem_append.mp hmem with hmem | hmem
  · rw [List.eq_of_mem_replicate hmem]
    decide
  · rw [List.mem_singleton.mp hmem]
    decide

theorem statements_delayed {count : Nat} (h : count < maxJoined) :
    statements (delayed count) = [{ line := 1 + count, text := dropText, cutShort := false }] := by
  have hfresh : Progress.BetweenStatements {} := ⟨rfl, rfl, rfl, rfl⟩
  have hnone : ({} : Progress).draft.joined = 0 := rfl
  obtain ⟨last, hlast, hjoined, hrun⟩ := hfresh.run_backslashes count (by omega) 1
  have hstep := hlast.step_dropText (by omega) (1 + count)
  rw [statements_eq_onward, Progress.onward_eq_run, lines_delayed, numberLines_append,
    List.length_replicate, numberLines, numberLines, Progress.run_append, hrun]
  simp only [Progress.run, hstep, hfresh.unfinished]
  rfl

/-- Joined lines that are left behind take away the statement of a text that delays it long enough. -/
theorem statements_append_delayed {first : List Char}
    (hended : first = [] ∨ first.getLast? = some '\n')
    (hbetween : (Progress.after first).BetweenStatements) :
    statements (first ++ delayed (maxJoined - (Progress.after first).draft.joined)) =
      statements first := by
  have hover {progress : Progress} (h : progress.isOver = true) (lines : List Line) :
      progress.onward lines = [] := by
    rw [Progress.onward, if_pos h]
  rw [statements_append hended hbetween, lines_delayed, numberLines_append, Progress.onward_append]
  by_cases hjoined : maxJoined ≤ (Progress.after first).draft.joined
  · have hnow : (Progress.after first).isOver = true := by simp [Progress.isOver, hjoined]
    rw [Progress.run_of_isOver hnow, hover hnow]
    simp
  · obtain ⟨last, -, hcount, hrun⟩ := hbetween.run_backslashes
      (maxJoined - (Progress.after first).draft.joined) (by omega)
      (1 + (lines first).length)
    have hlast : last.isOver = true := by
      simp only [Progress.isOver, Bool.or_eq_true, decide_eq_true_eq]
      omega
    rw [hrun, hover hlast]
    simp

end Backslashes

end ForeignKeyLint.Ruby
