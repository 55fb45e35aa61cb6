import ForeignKeyLint.Ruby.Statement
import Mathlib.Data.List.DropRight

/-!
The end of reading. A reader that gives joined lines without text is taken to have come to the end of
the file. Main statement: it has read all lines by then, or the one that ends the program, unless it
stands before as many lines of nothing but backslashes as are joined at most. Such lines hold no text
either, and what follows them is not read.
-/

namespace ForeignKeyLint.Ruby

open Text

/-- Lines without text, read in this mode. Of them `count` are backslashes; the others are blank,
comments, or lines of here documents. -/
inductive Silent : Mode → List Line → Nat → Prop where
  | nil {mode : Mode} : Silent mode [] 0
  | passive {mode next : Mode} {line : Line} {rest : List Line} {count : Nat}
    (hread : mode.read line.text = .passive next) (hrest : Silent next rest count) :
    Silent mode (line :: rest) count
  | blank {mode next : Mode} {line : Line} {rest : List Line} {count : Nat}
    (hread : mode.read line.text = .code next []) (hrest : Silent next rest count) :
    Silent mode (line :: rest) count
  | backslashes {mode next : Mode} {line : Line} {rest : List Line} {count more : Nat}
    (hread : mode.read line.text = .code next (List.replicate (more + 1) '\\'))
    (hrest : Silent next rest count) : Silent mode (line :: rest) (count + 1)

theorem dropEndWhile_prefix_self (p : Char → Bool) (text : List Char) : dropEndWhile p text <+: text :=
  List.rdropWhile_prefix p text

theorem dropEndWhile_eq_nil_iff {p : Char → Bool} {text : List Char} :
    dropEndWhile p text = [] ↔ ∀ c ∈ text, p c = true :=
  List.rdropWhile_eq_nil_iff

theorem isBlank_head_trim {text rest : List Char} {c : Char} (h : trim text = c :: rest) :
    isBlank c = false := by
  obtain ⟨more, hmore⟩ := dropEndWhile_prefix_self isBlank (trimStart text)
  have hstart : text.dropWhile isBlank = c :: (rest ++ more) := by
    rw [← List.cons_append, ← h]
    exact hmore.symm
  have hhead := List.head?_dropWhile_not isBlank text
  rw [hstart] at hhead
  simpa using hhead

theorem eq_trim_of_read {mode next : Mode} {text code : List Char}
    (h : mode.read text = .code next code) : code = trim (stripLine text).1 := by
  unfold Mode.read at h
  split at h
  · contradiction
  · split at h
    · contradiction
    · split at h
      · contradiction
      · split at h
        · contradiction
        · injection h with _ hcode
          exact hcode.symm

/-- A line of code adds no text exactly if it consists of backslashes. -/
theorem Draft.text_add_eq_nil_iff {draft : Draft} (hdraft : draft.text = []) {c : Char}
    (hc : isBlank c = false) (number : Nat) (code : List Char) :
    (draft.add number (c :: code)).text = [] ↔ ∀ d ∈ c :: code, d = '\\' := by
  have htext : (draft.add number (c :: code)).text =
      trimEnd (dropEndWhile (· == '\\') (c :: code)) := by
    simp [Draft.add, hdraft]
  rw [htext, trimEnd, dropEndWhile_eq_nil_iff]
  constructor
  · intro hblank
    have hnil : dropEndWhile (· == '\\') (c :: code) = [] := by
      obtain ⟨more, hmore⟩ := dropEndWhile_prefix_self (· == '\\') (c :: code)
      cases hkept : dropEndWhile (· == '\\') (c :: code) with
      | nil => rfl
      | cons d kept =>
        rw [hkept] at hmore hblank
        obtain rfl := (List.cons.inj hmore).1
        have hd := hblank d List.mem_cons_self
        rw [hd] at hc
        contradiction
    intro d hd
    simpa using dropEndWhile_eq_nil_iff.mp hnil d hd
  · intro hall
    have hnil : dropEndWhile (· == '\\') (c :: code) = [] :=
      dropEndWhile_eq_nil_iff.mpr fun d hd => by simpa using hall d hd
    simp [hnil]

/-- A line of code that gives no text consists of backslashes. -/
theorem Draft.eq_backslashes {draft : Draft} (hdraft : draft.text = []) {mode next : Mode} {line : Line}
    {c : Char} {code : List Char} (hread : mode.read line.text = .code next (c :: code))
    (hadd : (draft.add line.number (c :: code)).text = []) :
    c :: code = List.replicate (code.length + 1) '\\' := by
  have hblank := isBlank_head_trim (eq_trim_of_read hread).symm
  exact List.eq_replicate_iff.mpr ⟨rfl, (text_add_eq_nil_iff hdraft hblank line.number code).mp hadd⟩

theorem Draft.continues_backslashes (draft : Draft) (more : Nat) :
    draft.continues (List.replicate (more + 1) '\\') = true := by
  have hends : endsWith ['\\'] (List.replicate (more + 1) '\\') = true := by
    rw [endsWith, List.isSuffixOf_iff_suffix, List.replicate_succ']
    exact List.suffix_append _ _
  simp [Draft.continues, hends]

section Step

variable {mode next : Mode} {draft : Draft} {line : Line}

theorem join_passive (htext : draft.text = []) (hread : mode.read line.text = .passive next)
    (rest : List Line) : join mode draft (line :: rest) = join next draft rest := by
  simp [join, htext, hread]

theorem join_blank (htext : draft.text = []) (hread : mode.read line.text = .code next [])
    (rest : List Line) : join mode draft (line :: rest) = join next draft rest := by
  simp [join, htext, hread]

theorem join_backslashes (htext : draft.text = []) {more : Nat}
    (hread : mode.read line.text = .code next (List.replicate (more + 1) '\\'))
    (rest : List Line) :
    ∃ draft' : Draft, draft'.text = [] ∧ draft'.joined = draft.joined + 1 ∧
      join mode draft (line :: rest) =
        if draft'.joined < maxJoined then join next draft' rest
        else { draft := draft', cutShort := true, reader := { mode := next, lines := rest } } := by
  have hcontinues := (draft.add line.number (List.replicate (more + 1) '\\')).continues_backslashes
    more
  have hempty : (draft.add line.number (List.replicate (more + 1) '\\')).text = [] := by
    rw [List.replicate_succ, Draft.text_add_eq_nil_iff htext rfl, ← List.replicate_succ]
    intro d hd
    exact List.eq_of_mem_replicate hd
  refine ⟨draft.add line.number (List.replicate (more + 1) '\\'), hempty, rfl, ?_⟩
  rw [List.replicate_succ] at hread hcontinues ⊢
  simp [join, htext, hread, hcontinues]

end Step

theorem text_join_ne_nil {mode : Mode} {draft : Draft} (h : draft.text ≠ []) (lines : List Line) :
    (join mode draft lines).draft.text ≠ [] := by
  have hadd (draft : Draft) (number : Nat) (code : List Char) (h : draft.text ≠ []) :
      (draft.add number code).text ≠ [] := by
    simp [Draft.add, h]
  fun_induction join mode draft lines
  case case1 | case2 | case4 | case7 => exact h
  case case3 ih | case6 ih => exact ih h
  case case5 hempty _ => exact absurd (List.isEmpty_iff.mp hempty) h
  case case8 | case10 => exact hadd _ _ _ h
  case case9 ih => exact ih (hadd _ _ _ h)

/-- A line of code that adds text leaves text behind. -/
theorem text_join_code_ne_nil {mode next : Mode} {draft : Draft} {line : Line} {c : Char}
    {code : List Char} (htext : draft.text = []) (hread : mode.read line.text = .code next (c :: code))
    (hadd : (draft.add line.number (c :: code)).text ≠ []) (rest : List Line) :
    (join mode draft (line :: rest)).draft.text ≠ [] := by
  unfold join
  simp only [htext, hread, List.isEmpty_nil, Bool.not_true, Bool.false_and, Bool.false_eq_true,
    if_false]
  split
  · exact hadd
  · split
    · exact text_join_ne_nil hadd rest
    · exact hadd

/-- As many lines of backslashes as may be joined end the joining, and no text is gained. -/
theorem Silent.join_stops {mode : Mode} {run : List Line} {count : Nat} (h : Silent mode run count)
    {draft : Draft} (htext : draft.text = []) (hjoined : draft.joined < maxJoined)
    (hcount : maxJoined ≤ draft.joined + count) (after : List Line) :
    ∃ more, (join mode draft (run ++ after)).reader.lines = more ++ after ∧
      (join mode draft (run ++ after)).reader.ended = false := by
  induction h generalizing draft with
  | nil => omega
  | passive hread _ ih =>
    rw [List.cons_append, join_passive htext hread]
    exact ih htext hjoined hcount
  | blank hread _ ih =>
    rw [List.cons_append, join_blank htext hread]
    exact ih htext hjoined hcount
  | backslashes hread _ ih =>
    rw [List.cons_append]
    obtain ⟨next, hnext, hnextJoined, hjoin⟩ := join_backslashes htext hread (_ ++ after)
    rw [hjoin]
    split
    · exact ih hnext ‹_› (by omega)
    · exact ⟨_, rfl, rfl⟩

/-- The reader has read all of the lines, or the one that ends the program, or `count` lines of
backslashes and no text. -/
def Stops (mode : Mode) (lines : List Line) (count : Nat) (reader : Reader) : Prop :=
  reader.lines = [] ∨ reader.ended = true ∨
    ∃ run, lines = run ++ reader.lines ∧ Silent mode run count

theorem Stops.cons {mode next : Mode} {line : Line} {rest : List Line} {count more : Nat}
    {reader : Reader} (h : Stops next rest count reader)
    (hline : ∀ run, Silent next run count → Silent mode (line :: run) more) :
    Stops mode (line :: rest) more reader := by
  obtain hlines | hended | ⟨run, hrun, hsilent⟩ := h
  · exact .inl hlines
  · exact .inr (.inl hended)
  · exact .inr (.inr ⟨line :: run, congrArg (line :: ·) hrun, hline run hsilent⟩)

theorem stops_of_text_eq_nil {mode : Mode} {draft : Draft} {lines : List Line}
    (htext : draft.text = []) (hjoined : draft.joined < maxJoined)
    (h : (join mode draft lines).draft.text = []) :
    Stops mode lines (maxJoined - draft.joined) (join mode draft lines).reader := by
  induction lines generalizing mode draft with
  | nil => exact .inl rfl
  | cons line rest ih =>
    cases hread : mode.read line.text with
    | passive next =>
      rw [join_passive htext hread] at h ⊢
      exact (ih htext hjoined h).cons fun _ => .passive hread
    | programEnd => exact .inr (.inl (by simp [join, htext, hread]))
    | code next code =>
      cases code with
      | nil =>
        rw [join_blank htext hread] at h ⊢
        exact (ih htext hjoined h).cons fun _ => .blank hread
      | cons c code =>
        have hadd : (draft.add line.number (c :: code)).text = [] := by
          by_contra hadd
          exact text_join_code_ne_nil htext hread hadd rest h
        have hcode := Draft.eq_backslashes htext hread hadd
        rw [hcode] at hread
        obtain ⟨longer, hempty, hlonger, hjoin⟩ := join_backslashes htext hread rest
        rw [hjoin] at h ⊢
        split at h
        · next hless =>
          have hcount : maxJoined - draft.joined = maxJoined - longer.joined + 1 := by omega
          rw [if_pos hless, hcount]
          exact (ih hempty hless h).cons fun _ => .backslashes hread
        · next hmost =>
          have hcount : maxJoined - draft.joined = 0 + 1 := by omega
          rw [if_neg hmost, hcount]
          exact .inr (.inr ⟨[line], rfl, .backslashes hread .nil⟩)

namespace Mode

/-- The mode after a line. -/
def after (mode : Mode) (line : Line) : Mode :=
  match mode.read line.text with
  | .passive next => next
  | .code next _ => next
  | .programEnd => mode

theorem eq_end_of_read {mode : Mode} {text : List Char} (h : mode.read text = .programEnd) :
    mode.isCode = true ∧ trim text = "__END__".toList := by
  unfold Mode.read at h
  split at h
  · contradiction
  · next hcomment =>
    split at h
    · contradiction
    · next hheredocs =>
      split at h
      · contradiction
      · split at h
        · next hend => exact ⟨by simp [isCode, hcomment, hheredocs], hend⟩
        · contradiction

end Mode

/-- The reader has consumed these lines of a file, and its mode is the one they lead to. -/
structure Reader.Follows (file consumed : List Line) (reader : Reader) : Prop where
  split : file = consumed ++ reader.lines
  mode : reader.ended = false → reader.mode = consumed.foldl Mode.after {}
  ended : reader.ended = true → ∃ earlier line, consumed = earlier ++ [line] ∧
    (earlier.foldl Mode.after {}).read line.text = .programEnd

theorem follows_join {file consumed lines : List Line} {mode : Mode} (draft : Draft)
    (hsplit : file = consumed ++ lines) (hmode : mode = consumed.foldl Mode.after {}) :
    ∃ more, Reader.Follows file more (join mode draft lines).reader := by
  have hstop {consumed lines : List Line} {mode : Mode} (hsplit : file = consumed ++ lines)
      (hmode : mode = consumed.foldl Mode.after {}) :
      Reader.Follows file consumed { mode, lines } :=
    ⟨hsplit, fun _ => hmode, fun hended => by simp at hended⟩
  have hstep {consumed rest : List Line} {line : Line} (h : file = consumed ++ line :: rest) :
      file = consumed ++ [line] ++ rest := by
    simp [h]
  have hnext {consumed : List Line} {mode next : Mode} {line : Line}
      (hmode : mode = consumed.foldl Mode.after {}) (hafter : mode.after line = next) :
      next = (consumed ++ [line]).foldl Mode.after {} := by
    rw [List.foldl_append, ← hmode]
    exact hafter.symm
  fun_induction join mode draft lines generalizing consumed
  case case1 | case2 => exact ⟨consumed, hstop hsplit hmode⟩
  case case4 line rest _ hread =>
    refine ⟨consumed ++ [line], hstep hsplit, fun hended => by simp at hended, fun _ => ?_⟩
    exact ⟨consumed, line, rfl, hmode ▸ hread⟩
  case case3 hread ih | case5 hread _ ih | case6 hread _ _ _ ih | case9 hread _ _ _ ih =>
    exact ih (hstep hsplit) (hnext hmode (by simp [Mode.after, hread]))
  case case7 hread _ _ _ | case8 hread _ _ | case10 hread _ _ _ =>
    exact ⟨_, hstop (hstep hsplit) (hnext hmode (by simp [Mode.after, hread]))⟩

namespace Reader

/-- A reader that gives text has used up a line. -/
theorem length_next_lt {reader : Reader} (h : reader.next.draft.text ≠ []) :
    reader.next.reader.lines.length < reader.lines.length := by
  unfold next at h ⊢
  split at h
  · simp at h
  · next hended => simpa [hended] using length_join_lt _ _ _ rfl h

/-- The reader as it is when it gives no text for the first time. -/
def final (reader : Reader) : Reader :=
  if h : reader.next.draft.text = [] then reader
  else
    have := length_next_lt h
    final reader.next.reader
termination_by reader.lines.length

/-- The reader stands before as many lines of backslashes as may be joined, and before others. -/
def Jams (reader : Reader) : Prop :=
  reader.ended = false ∧
    ∃ run after, reader.lines = run ++ after ∧ after ≠ [] ∧ Silent reader.mode run maxJoined

theorem text_final (reader : Reader) : reader.final.next.draft.text = [] := by
  fun_induction final reader
  case case1 h => exact h
  case case2 ih => exact ih

/-- A reader without text has come to the end, unless it jams. -/
theorem complete_iff {reader : Reader} (h : reader.next.draft.text = []) :
    reader.next.reader.lines = [] ∨ reader.next.reader.ended = true ↔ ¬reader.Jams := by
  cases hended : reader.ended with
  | true => simp [next, hended, Jams]
  | false =>
    have hnext : reader.next = join reader.mode {} reader.lines := by simp [next, hended]
    have hroom : ({} : Draft).joined < maxJoined := by decide
    rw [hnext] at h ⊢
    constructor
    · rintro hcomplete ⟨-, run, after, hlines, hafter, hsilent⟩
      have hfull : maxJoined ≤ ({} : Draft).joined + maxJoined := by omega
      obtain ⟨more, hmore, hopen⟩ := hsilent.join_stops rfl hroom hfull after
      rw [← hlines] at hmore hopen
      rcases hcomplete with hnone | hended
      · rw [hnone] at hmore
        exact hafter (List.append_eq_nil_iff.mp hmore.symm).2
      · rw [hended] at hopen
        contradiction
    · intro hfree
      obtain hnone | hended | ⟨run, hrun, hsilent⟩ := stops_of_text_eq_nil rfl hroom h
      · exact .inl hnone
      · exact .inr hended
      · left
        by_contra hsome
        exact hfree ⟨hended, run, _, hrun, hsome, hsilent⟩

theorem Follows.next {file consumed : List Line} {reader : Reader}
    (h : reader.Follows file consumed) : ∃ more, reader.next.reader.Follows file more := by
  cases hended : reader.ended with
  | true =>
    have hnext : reader.next.reader = reader := by simp [Reader.next, hended]
    exact ⟨consumed, hnext.symm ▸ h⟩
  | false =>
    have hnext : reader.next = join reader.mode {} reader.lines := by simp [Reader.next, hended]
    rw [hnext]
    exact follows_join {} h.split (h.mode hended)

theorem Follows.final {file consumed : List Line} {reader : Reader}
    (h : reader.Follows file consumed) : ∃ more, reader.final.Follows file more := by
  fun_induction Reader.final reader generalizing consumed
  case case1 => exact ⟨consumed, h⟩
  case case2 ih =>
    obtain ⟨more, hmore⟩ := h.next
    exact ih hmore

end Reader

/-- Reading a file comes to an end after the last line or after the line that ends the program,
unless it jams. -/
theorem reading_completes_iff (text : List Char) :
    let file := numberLines 1 (Text.lines text)
    let start := Reader.final { lines := file }
    let rest := start.next.reader
    (rest.ended = true → ∃ earlier line, file = earlier ++ line :: rest.lines ∧
      (earlier.foldl Mode.after {}).isCode = true ∧ trim line.text = "__END__".toList) ∧
    (rest.lines = [] ∨ rest.ended = true ↔ ¬start.Jams) := by
  intro file start rest
  have hfile : Reader.Follows file [] { lines := file } :=
    ⟨rfl, fun _ => rfl, fun hended => by simp at hended⟩
  obtain ⟨consumed, hstart⟩ := hfile.final
  obtain ⟨consumed, hrest⟩ := hstart.next
  refine ⟨?_, Reader.complete_iff (Reader.text_final _)⟩
  intro hended
  obtain ⟨earlier, line, rfl, hread⟩ := hrest.ended hended
  have hsplit := hrest.split
  rw [List.append_assoc] at hsplit
  exact ⟨earlier, line, hsplit, Mode.eq_end_of_read hread⟩

/-- A file whose last line is never read. -/
def jammedFile : List Char :=
  (List.replicate maxJoined "\\\n".toList).flatten ++ "drop_table :users\n".toList

theorem jammedFile_incomplete :
    let start := Reader.final { lines := numberLines 1 (Text.lines jammedFile) }
    start.next.reader.lines = [{ number := 33, text := "drop_table :users".toList }] ∧
      start.next.reader.ended = false ∧ statements jammedFile = [] := by
  have hempty : (Reader.next { lines := numberLines 1 (Text.lines jammedFile) }).draft.text = [] := by
    decide +kernel
  rw [Reader.final, dif_pos hempty, statements, Reader.statements, dif_pos hempty]
  decide +kernel

end ForeignKeyLint.Ruby
