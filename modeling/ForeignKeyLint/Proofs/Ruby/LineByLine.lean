import ForeignKeyLint.Proofs.Ruby.ReadingEnd

/-!
Reading line by line. Between two lines a reader holds its mode and the draft of the statement that is
being joined, and nothing else. Main statement: the statements of a file are those that its lines
complete, one line after the other, and the one that is left at the end. So a file can be read in parts,
and reading goes on in the second part from where it stands after the first.

The count of joined lines belongs to the draft. A line of nothing but backslashes is counted and gives
no text, so a draft without text may have a count, which is then held against the statement that
comes next.
-/

namespace ForeignKeyLint.Ruby

open Text

/-- The statements of a draft that nothing more is joined onto. -/
def Draft.statements (draft : Draft) (cutShort : Bool) : List Statement :=
  Joined.statements { draft, cutShort, reader := { lines := [] } }

/-- Where reading stands between two lines. -/
structure Progress where
  mode : Mode := {}
  /-- The statement that is being joined. It has no text between statements. -/
  draft : Draft := {}
  /-- The line that ends the program has been read. -/
  ended : Bool := false
deriving Repr, DecidableEq

namespace Progress

/-- Nothing more is read: the program has ended, or as many lines as may be joined gave no text. -/
def isOver (progress : Progress) : Bool :=
  progress.ended || maxJoined ≤ progress.draft.joined

/-- The statements that a draft gives if it is complete or must stop, and where reading stands then. -/
def settle (mode : Mode) (draft : Draft) (continues : Bool) : List Statement × Progress :=
  if draft.text.isEmpty || (continues && draft.joined < maxJoined) then ([], { mode, draft })
  else (draft.statements continues, { mode })

/-- Reads a line onto a draft. -/
def extend (mode : Mode) (draft : Draft) (line : Line) : List Statement × Progress :=
  match mode.read line.text with
  | .passive mode => ([], { mode, draft })
  | .programEnd => (draft.statements false, { mode, ended := true })
  | .code mode [] =>
    if draft.text.isEmpty then ([], { mode, draft })
    else settle mode { draft with joined := draft.joined + 1 } true
  | .code mode (c :: code) =>
    let draft := draft.add line.number (c :: code)
    settle mode draft (draft.continues (c :: code))

/-- Reads a line: the statements it completes, and where reading stands after it. -/
def step (progress : Progress) (line : Line) : List Statement × Progress :=
  if progress.isOver then ([], progress)
  else if !progress.draft.text.isEmpty && progress.mode.isCode && startsStatement line.text then
    let (found, next) := extend progress.mode {} line
    (progress.draft.statements true ++ found, next)
  else extend progress.mode progress.draft line

/-- Reads lines in order. -/
def run (progress : Progress) : List Line → List Statement × Progress
  | [] => ([], progress)
  | line :: rest =>
    let (found, next) := progress.step line
    let (others, last) := next.run rest
    (found ++ others, last)

/-- The statements that are left when no line follows. -/
def unfinished (progress : Progress) : List Statement :=
  if progress.isOver then [] else progress.draft.statements false

theorem run_append (progress : Progress) (first second : List Line) :
    progress.run (first ++ second) =
      ((progress.run first).1 ++ ((progress.run first).2.run second).1,
        ((progress.run first).2.run second).2) := by
  induction first generalizing progress with
  | nil => rfl
  | cons line rest ih => simp [run, ih]

/-- Where reading is over, no line changes anything. -/
theorem run_of_isOver {progress : Progress} (h : progress.isOver = true) (lines : List Line) :
    progress.run lines = ([], progress) := by
  induction lines with
  | nil => rfl
  | cons line rest ih => simp [run, step, h, ih]

end Progress

/-- The statements of joined lines and all that follow them. None follow if the lines gave no text. -/
def Joined.onward (joined : Joined) : List Statement :=
  if joined.draft.text = [] then [] else joined.statements ++ joined.reader.statements

theorem Reader.statements_eq_onward (reader : Reader) : reader.statements = reader.next.onward := by
  rw [Reader.statements, Joined.onward]
  split <;> rfl

theorem Reader.statements_of_ended {reader : Reader} (h : reader.ended = true) :
    reader.statements = [] := by
  have htext : reader.next.draft.text = [] := by simp [Reader.next, h]
  rw [Reader.statements, dif_pos htext]

theorem Draft.statements_of_text_eq_nil {draft : Draft} (h : draft.text = []) (cutShort : Bool) :
    draft.statements cutShort = [] := by
  have hsplit : splitOutside ';' ([] : List Char) = [] := by decide +kernel
  simp [Draft.statements, Joined.statements, h, hsplit]

/-- A line of code that leaves a draft without text is continued. -/
theorem Draft.text_add_ne_nil {mode next : Mode} {line : Line} {c : Char} {code : List Char}
    (hread : mode.read line.text = .code next (c :: code)) (draft : Draft)
    (h : (draft.add line.number (c :: code)).continues (c :: code) = false) :
    (draft.add line.number (c :: code)).text ≠ [] := by
  intro htext
  have hdraft : draft.text = [] := by
    by_contra hne
    simp [Draft.add, hne] at htext
  rw [Draft.eq_backslashes hdraft hread htext, Draft.continues_backslashes] at h
  contradiction

namespace Progress

/-- The statements that a reader gives from here on. -/
def onward (progress : Progress) (lines : List Line) : List Statement :=
  if progress.isOver then [] else (join progress.mode progress.draft lines).onward

theorem onward_fresh (mode : Mode) (lines : List Line) :
    onward { mode } lines = Reader.statements { mode, lines } := by
  rw [Reader.statements_eq_onward]
  rfl

theorem onward_nil (progress : Progress) : progress.onward [] = progress.unfinished := by
  unfold onward unfinished
  split
  · rfl
  · rw [join, Joined.onward]
    split
    · next htext => exact (Draft.statements_of_text_eq_nil htext false).symm
    · rw [← onward_fresh]
      exact List.append_nil _

/-- A draft that is settled gives what a reader gives that goes on with it or stops. -/
theorem settle_onward (mode : Mode) {draft : Draft} {continues : Bool} (rest : List Line)
    (h : continues = false → draft.text ≠ []) :
    (settle mode draft continues).1 ++ (settle mode draft continues).2.onward rest =
      Joined.onward (
        if !continues then { draft, cutShort := false, reader := { mode, lines := rest } }
        else if draft.joined < maxJoined then join mode draft rest
        else { draft, cutShort := true, reader := { mode, lines := rest } }) := by
  have hfresh (cutShort : Bool) (htext : draft.text ≠ []) :
      draft.statements cutShort ++ onward { mode } rest =
        Joined.onward { draft, cutShort, reader := { mode, lines := rest } } := by
    rw [onward_fresh, Joined.onward, if_neg htext]
    rfl
  cases continues with
  | false =>
    have htext := h rfl
    simpa [settle, htext] using hfresh false htext
  | true =>
    by_cases hjoined : draft.joined < maxJoined
    · have hopen : isOver { mode, draft } = false := by simp [isOver, hjoined]
      simp [settle, hjoined, onward, hopen]
    · by_cases htext : draft.text = []
      · -- Reading is over, because nothing came of the lines that were joined.
        have hover : isOver { mode, draft } = true := by simpa [isOver] using hjoined
        simp [settle, hjoined, htext, onward, hover, Joined.onward]
      · simpa [settle, hjoined, htext] using hfresh true htext

/-- A line that is read onto a draft gives what a reader gives that joins it. -/
theorem extend_onward {mode : Mode} {draft : Draft} {line : Line} (rest : List Line)
    (hjoined : draft.joined < maxJoined)
    (hstarts : (!draft.text.isEmpty && mode.isCode && startsStatement line.text) = false) :
    (extend mode draft line).1 ++ (extend mode draft line).2.onward rest =
      (join mode draft (line :: rest)).onward := by
  have hopen (mode : Mode) : isOver { mode, draft } = false := by simp [isOver, hjoined]
  rw [join, hstarts, extend]
  simp only [Bool.false_eq_true, if_false]
  cases hread : mode.read line.text with
  | passive next => simp [onward, hopen]
  | programEnd =>
    have hended : isOver { mode, ended := true } = true := rfl
    simp only [onward, hended, if_true, List.append_nil, Joined.onward]
    split
    · next htext => exact Draft.statements_of_text_eq_nil htext false
    · rw [Reader.statements_of_ended rfl, List.append_nil]
      rfl
  | code next code =>
    cases code with
    | nil =>
      dsimp only
      split
      · simp [onward, hopen]
      · exact settle_onward next rest (by simp)
    | cons c code => exact settle_onward next rest (Draft.text_add_ne_nil hread draft)

theorem onward_cons (progress : Progress) (line : Line) (rest : List Line) :
    progress.onward (line :: rest) =
      (progress.step line).1 ++ (progress.step line).2.onward rest := by
  unfold step
  cases hover : progress.isOver with
  | true => simp [onward, hover]
  | false =>
    have hjoined : progress.draft.joined < maxJoined := by
      simp only [isOver, Bool.or_eq_false_iff, decide_eq_false_iff_not] at hover
      omega
    rw [onward, hover]
    simp only [Bool.false_eq_true, if_false]
    cases hstarts :
        !progress.draft.text.isEmpty && progress.mode.isCode && startsStatement line.text with
    | false => exact (extend_onward rest hjoined hstarts).symm
    | true =>
      have htext : progress.draft.text ≠ [] := by
        rintro htext
        simp [htext] at hstarts
      -- The line is not joined, so it is read again onto a fresh draft.
      have hfresh : (extend progress.mode {} line).1 ++ (extend progress.mode {} line).2.onward rest =
          Reader.statements { mode := progress.mode, lines := line :: rest } := by
        rw [extend_onward rest (by decide) rfl, Reader.statements_eq_onward]
        rfl
      rw [join, hstarts, if_pos rfl, Joined.onward, if_neg htext, ← hfresh]
      simp only [if_true, List.append_assoc]
      rfl

theorem onward_eq_run (progress : Progress) (lines : List Line) :
    progress.onward lines = (progress.run lines).1 ++ (progress.run lines).2.unfinished := by
  induction lines generalizing progress with
  | nil => exact onward_nil progress
  | cons line rest ih =>
    rw [onward_cons, ih, run, List.append_assoc]

/-- Reading goes on in the second part from where it stands after the first. -/
theorem onward_append (progress : Progress) (first second : List Line) :
    progress.onward (first ++ second) =
      (progress.run first).1 ++ (progress.run first).2.onward second := by
  rw [onward_eq_run, onward_eq_run, run_append, List.append_assoc]

/-- Where reading stands after a text. -/
def after (text : List Char) : Progress :=
  (run {} (numberLines 1 (lines text))).2

end Progress

theorem statements_eq_onward (text : List Char) :
    statements text = Progress.onward {} (numberLines 1 (lines text)) :=
  (Progress.onward_fresh {} _).symm

/-- The statements of a text are those that its lines complete, and those left at its end. -/
theorem statements_eq_run (text : List Char) :
    statements text =
      (Progress.run {} (numberLines 1 (lines text))).1 ++ (Progress.after text).unfinished := by
  rw [statements_eq_onward, Progress.onward_eq_run]
  rfl

end ForeignKeyLint.Ruby
