import ForeignKeyLint.Proofs.Ruby.ReadingEnd
import Mathlib.Logic.Function.Iterate

/-!
What a joined line is built from. Main statement: whatever the file, the lines of code from the first one
that gives text to the last one that is joined are `maxJoined` at most, blank ones and comments included,
and no line of code after the first can only begin a statement of its own. Thus a bracket that is never
closed does not swallow the remainder of a file.

The lines of here documents and of block comments in between are not counted, and what they hold does not
matter. Lines of nothing but backslashes may stand before the first text; they give none, but they are
counted.
-/

namespace ForeignKeyLint.Ruby

open Text

namespace Mode

/-- The line belongs to a here document or to a block comment. -/
def passes (mode : Mode) (line : Line) : Bool :=
  match mode.read line.text with
  | .passive _ => true
  | _ => false

/-- What a line of code adds to a statement. -/
def piece? (mode : Mode) (line : Line) : Option (List Char) :=
  match mode.read line.text with
  | .code _ (c :: code) => some (trimEnd (dropEndWhile (· == '\\') (c :: code)))
  | _ => none

/-- What the lines add to a statement, in order. -/
def pieces (mode : Mode) : List Line → List (List Char)
  | [] => []
  | line :: rest => (mode.piece? line).toList ++ (mode.after line).pieces rest

/-- How many of the lines belong neither to a here document nor to a block comment. -/
def count (mode : Mode) : List Line → Nat
  | [] => 0
  | line :: rest => (if mode.passes line then 0 else 1) + (mode.after line).count rest

/-- No line that is read as code can only begin a statement of its own. -/
def Headless (mode : Mode) (lines : List Line) : Prop :=
  ∀ before line after, lines = before ++ line :: after →
    (before.foldl Mode.after mode).isCode = true → startsStatement line.text = false

theorem after_passive {mode next : Mode} {line : Line} (hread : mode.read line.text = .passive next) :
    mode.after line = next := by
  simp [after, hread]

theorem after_code {mode next : Mode} {line : Line} {code : List Char}
    (hread : mode.read line.text = .code next code) : mode.after line = next := by
  simp [after, hread]

theorem headless_nil (mode : Mode) : mode.Headless [] := by
  intro before line after hlines
  simp at hlines

theorem headless_cons {mode : Mode} {line : Line} {rest : List Line}
    (hline : mode.isCode = true → startsStatement line.text = false)
    (hrest : (mode.after line).Headless rest) : mode.Headless (line :: rest) := by
  intro before other after hlines hcode
  cases before with
  | nil =>
    obtain ⟨rfl, -⟩ := List.cons.inj hlines
    exact hline hcode
  | cons first before =>
    obtain ⟨rfl, hrest'⟩ := List.cons.inj hlines
    exact hrest before other after hrest' hcode

end Mode

namespace Draft

/-- What a line makes of a draft that has text and that it is joined onto. -/
structure Grows (mode : Mode) (draft : Draft) (line : Line) (next : Draft) : Prop where
  text_eq : next.text = draft.text ++ (mode.piece? line).toList.flatMap (' ' :: ·)
  line_eq : next.line = draft.line
  joined_eq : next.joined = draft.joined + if mode.passes line then 0 else 1

section Grows

variable {mode next : Mode} {draft : Draft} {line : Line}

theorem grows_passive (hread : mode.read line.text = .passive next) : draft.Grows mode line draft where
  text_eq := by simp [Mode.piece?, hread]
  line_eq := rfl
  joined_eq := by simp [Mode.passes, hread]

/-- A line that gives no text is counted all the same. -/
theorem grows_counted
    (hread : mode.read line.text = .programEnd ∨ ∃ next, mode.read line.text = .code next []) :
    draft.Grows mode line { draft with joined := draft.joined + 1 } where
  text_eq := by rcases hread with hread | ⟨next, hread⟩ <;> simp [Mode.piece?, hread]
  line_eq := rfl
  joined_eq := by rcases hread with hread | ⟨next, hread⟩ <;> simp [Mode.passes, hread]

theorem grows_code (htext : draft.text ≠ []) {c : Char} {code : List Char}
    (hread : mode.read line.text = .code next (c :: code)) :
    draft.Grows mode line (draft.add line.number (c :: code)) where
  text_eq := by simp [add, htext, Mode.piece?, hread]
  line_eq := by simp [add, htext]
  joined_eq := by simp [add, Mode.passes, hread]

theorem Grows.text_ne_nil {next : Draft} (h : draft.Grows mode line next) (htext : draft.text ≠ []) :
    next.text ≠ [] := by
  simp [h.text_eq, htext]

end Grows

/-- These lines, read in this mode, are joined onto a draft that has text. -/
structure Extends (mode : Mode) (draft : Draft) (lines : List Line) (last : Draft) : Prop where
  text_eq : last.text = draft.text ++ (mode.pieces lines).flatMap (' ' :: ·)
  line_eq : last.line = draft.line
  bounded : draft.joined + mode.count lines ≤ maxJoined
  headless : mode.Headless lines

namespace Extends

variable {mode : Mode} {draft next last : Draft} {line : Line} {rest : List Line}

theorem nil (mode : Mode) (htext : last.text = draft.text) (hline : last.line = draft.line)
    (hjoined : draft.joined ≤ maxJoined) : draft.Extends mode [] last where
  text_eq := by simpa [Mode.pieces] using htext
  line_eq := hline
  bounded := hjoined
  headless := mode.headless_nil

/-- A line is joined before the others, if it can be joined at all. -/
theorem cons (hrest : next.Extends (mode.after line) rest last) (hgrows : draft.Grows mode line next)
    (hfree : mode.isCode = true → startsStatement line.text = false) :
    draft.Extends mode (line :: rest) last where
  text_eq := by
    rw [hrest.text_eq, hgrows.text_eq, Mode.pieces, List.flatMap_append, List.append_assoc]
  line_eq := hrest.line_eq.trans hgrows.line_eq
  bounded := by
    have hbounded := hrest.bounded
    rw [hgrows.joined_eq] at hbounded
    rw [Mode.count]
    omega
  headless := Mode.headless_cons hfree hrest.headless

end Extends

end Draft

/-- What joining does at a line, once there is text: it stops before the line, or it joins the line and
goes on or not. -/
theorem join_cons_cases {mode : Mode} {draft : Draft} (htext : draft.text ≠ [])
    (hjoined : draft.joined < maxJoined) (line : Line) (rest : List Line) :
    let joined := join mode draft (line :: rest)
    joined = { draft, cutShort := true, reader := { mode, lines := line :: rest } } ∨
      (mode.isCode = true → startsStatement line.text = false) ∧
        ∃ next, draft.Grows mode line next ∧
          (next.joined < maxJoined ∧ joined = join (mode.after line) next rest ∨
            next.joined ≤ maxJoined ∧ joined.draft.text = next.text ∧
              joined.draft.line = next.line ∧ joined.reader.lines = rest) := by
  intro joined
  have hempty : draft.text.isEmpty = false := by simpa using htext
  cases hhead : mode.isCode && startsStatement line.text with
  | true =>
    simp only [Bool.and_eq_true] at hhead
    exact .inl (by simp [joined, join, htext, hhead])
  | false =>
    refine .inr ⟨fun hcode => by simpa [hcode] using hhead, ?_⟩
    have hjoin : joined = join mode draft (line :: rest) := rfl
    rw [join] at hjoin
    simp only [hempty, Bool.not_false, Bool.true_and, hhead, Bool.false_eq_true, if_false] at hjoin
    cases hread : mode.read line.text with
    | passive next =>
      rw [hread] at hjoin
      rw [Mode.after_passive hread]
      exact ⟨draft, Draft.grows_passive hread, .inl ⟨hjoined, hjoin⟩⟩
    | programEnd =>
      rw [hread] at hjoin
      refine ⟨_, Draft.grows_counted (.inl hread), .inr ?_⟩
      rw [hjoin]
      exact ⟨hjoined, rfl, rfl, rfl⟩
    | code next code =>
      rw [hread] at hjoin
      rw [Mode.after_code hread]
      cases code with
      | nil =>
        refine ⟨_, Draft.grows_counted (.inr ⟨next, hread⟩), ?_⟩
        by_cases hmore : draft.joined + 1 < maxJoined
        · exact .inl ⟨hmore, by simpa [hmore] using hjoin⟩
        · simp only [hmore, if_false] at hjoin
          rw [hjoin]
          exact .inr ⟨hjoined, rfl, rfl, rfl⟩
      | cons c code =>
        have hadded : (draft.add line.number (c :: code)).joined ≤ maxJoined := hjoined
        refine ⟨_, Draft.grows_code htext hread, ?_⟩
        simp only at hjoin
        split at hjoin
        · rw [hjoin]
          exact .inr ⟨hadded, rfl, rfl, rfl⟩
        · split at hjoin
          · exact .inl ⟨‹_›, hjoin⟩
          · rw [hjoin]
            exact .inr ⟨hadded, rfl, rfl, rfl⟩

/-- A draft that has text is extended by lines within the bound, none of which begins a statement. -/
theorem extends_join {mode : Mode} {draft : Draft} (htext : draft.text ≠ [])
    (hjoined : draft.joined < maxJoined) (lines : List Line) :
    ∃ tail, lines = tail ++ (join mode draft lines).reader.lines ∧
      draft.Extends mode tail (join mode draft lines).draft := by
  induction lines generalizing mode draft with
  | nil => exact ⟨[], rfl, .nil mode rfl rfl hjoined.le⟩
  | cons line rest ih =>
    obtain hstop | ⟨hfree, next, hgrows, hmore | hlast⟩ := join_cons_cases htext hjoined line rest
    · rw [hstop]
      exact ⟨[], rfl, .nil mode rfl rfl hjoined.le⟩
    · obtain ⟨hroom, hjoin⟩ := hmore
      obtain ⟨tail, hsplit, hextends⟩ := ih (hgrows.text_ne_nil htext) hroom
      rw [hjoin]
      exact ⟨line :: tail, congrArg (line :: ·) hsplit, hextends.cons hgrows hfree⟩
    · obtain ⟨hbound, hlastText, hlastLine, hlines⟩ := hlast
      rw [hlines]
      have hextends := Draft.Extends.nil (mode.after line) hlastText hlastLine hbound
      exact ⟨[line], rfl, hextends.cons hgrows hfree⟩

/-- Lines without text are read from this draft on, up to a line that gives text. -/
structure Draft.ComesTo (mode : Mode) (draft : Draft) (lead : List Line) (first : Line) (rest : List Line)
    (backslashes : Nat) (start : Draft) : Prop where
  silent : Silent mode lead backslashes
  text_eq : start.text = []
  joined_eq : start.joined = draft.joined + backslashes
  joined_lt : start.joined < maxJoined
  gives : ∃ next c code, (lead.foldl Mode.after mode).read first.text = .code next (c :: code) ∧
    (start.add first.number (c :: code)).text ≠ []
  join_eq : join mode draft (lead ++ first :: rest) =
    join (lead.foldl Mode.after mode) start (first :: rest)

theorem Draft.ComesTo.cons {mode next : Mode} {draft later start : Draft} {line first : Line}
    {lead rest : List Line} {backslashes more : Nat}
    (h : later.ComesTo next lead first rest backslashes start) (hafter : mode.after line = next)
    (hjoin : join mode draft (line :: (lead ++ first :: rest)) = join next later (lead ++ first :: rest))
    (hcount : later.joined + backslashes = draft.joined + more)
    (hsilent : Silent next lead backslashes → Silent mode (line :: lead) more) :
    draft.ComesTo mode (line :: lead) first rest more start where
  silent := hsilent h.silent
  text_eq := h.text_eq
  joined_eq := h.joined_eq.trans hcount
  joined_lt := h.joined_lt
  gives := by
    rw [List.foldl_cons, hafter]
    exact h.gives
  join_eq := by
    rw [List.foldl_cons, hafter]
    exact hjoin.trans h.join_eq

theorem exists_comesTo {mode : Mode} {draft : Draft} (htext : draft.text = [])
    (hjoined : draft.joined < maxJoined) {lines : List Line}
    (h : (join mode draft lines).draft.text ≠ []) :
    ∃ lead first rest backslashes start, lines = lead ++ first :: rest ∧
      draft.ComesTo mode lead first rest backslashes start := by
  induction lines generalizing mode draft with
  | nil => exact absurd htext h
  | cons line rest ih =>
    cases hread : mode.read line.text with
    | passive next =>
      have hjoin := join_passive htext hread
      rw [hjoin] at h
      obtain ⟨lead, first, rest, backslashes, start, rfl, hcomes⟩ := ih htext hjoined h
      exact ⟨line :: lead, first, rest, backslashes, start, rfl,
        hcomes.cons (Mode.after_passive hread) (hjoin _) rfl (.passive hread)⟩
    | programEnd => exact absurd (by simp [join, htext, hread]) h
    | code next code =>
      cases code with
      | nil =>
        have hjoin := join_blank htext hread
        rw [hjoin] at h
        obtain ⟨lead, first, rest, backslashes, start, rfl, hcomes⟩ := ih htext hjoined h
        exact ⟨line :: lead, first, rest, backslashes, start, rfl,
          hcomes.cons (Mode.after_code hread) (hjoin _) rfl (.blank hread)⟩
      | cons c code =>
        by_cases hadd : (draft.add line.number (c :: code)).text = []
        · have hcode := Draft.eq_backslashes htext hread hadd
          rw [hcode] at hread
          obtain ⟨later, hempty, hlater, hjoin⟩ := join_backslashes htext hread rest
          rw [hjoin] at h
          split at h
          · next hroom =>
            rw [if_pos hroom] at hjoin
            obtain ⟨lead, first, rest, backslashes, start, rfl, hcomes⟩ := ih hempty hroom h
            exact ⟨line :: lead, first, rest, backslashes + 1, start, rfl,
              hcomes.cons (Mode.after_code hread) hjoin (by omega) (.backslashes hread)⟩
          · exact absurd hempty h
        · exact ⟨[], line, rest, 0, draft, rfl, .nil, htext, rfl, hjoined,
            ⟨next, c, code, hread, hadd⟩, rfl⟩

/-- The lines that a joined line is built from: those of `lead` give no text, `first` gives the first text,
and those of `tail` are joined onto it. -/
structure Joined.BuiltFrom (joined : Joined) (mode : Mode) (lead : List Line) (first : Line)
    (tail : List Line) : Prop where
  bounded : ∃ backslashes, Silent mode lead backslashes ∧
    backslashes + (lead.foldl Mode.after mode).count (first :: tail) ≤ maxJoined
  first_ne_nil : ∃ piece ∈ (lead.foldl Mode.after mode).piece? first, piece ≠ []
  text_eq : joined.draft.text = [' '].intercalate ((lead.foldl Mode.after mode).pieces (first :: tail))
  line_eq : joined.draft.line = first.number
  headless : ((lead ++ [first]).foldl Mode.after mode).Headless tail

theorem intercalate_eq_flatMap (separator first : List Char) (others : List (List Char)) :
    separator.intercalate (first :: others) = first ++ others.flatMap (separator ++ ·) := by
  induction others generalizing first with
  | nil => simp
  | cons second others ih => rw [List.intercalate_cons_cons, ih]; simp

/-- The line that gives the first text, and those that are joined onto it. -/
theorem extends_join_first {mode next : Mode} {start : Draft} {first : Line} {c : Char}
    {code : List Char} (htext : start.text = []) (hjoined : start.joined < maxJoined)
    (hread : mode.read first.text = .code next (c :: code))
    (hgives : (start.add first.number (c :: code)).text ≠ []) (rest : List Line) :
    ∃ tail, rest = tail ++ (join mode start (first :: rest)).reader.lines ∧
      (start.add first.number (c :: code)).Extends next tail (join mode start (first :: rest)).draft := by
  have hadded : (start.add first.number (c :: code)).joined ≤ maxJoined := hjoined
  rw [join]
  simp only [htext, List.isEmpty_nil, Bool.not_true, Bool.false_and, Bool.false_eq_true, if_false, hread]
  split
  · exact ⟨[], rfl, .nil next rfl rfl hadded⟩
  · split
    · exact extends_join hgives ‹_› rest
    · exact ⟨[], rfl, .nil next rfl rfl hadded⟩

/-- Lines without text come before the first one that gives text, and then lines are joined onto it. -/
theorem builtFrom_join {mode : Mode} {lines : List Line} (h : (join mode {} lines).draft.text ≠ []) :
    ∃ lead first tail, lines = lead ++ first :: tail ++ (join mode {} lines).reader.lines ∧
      (join mode {} lines).BuiltFrom mode lead first tail := by
  obtain ⟨lead, first, rest, backslashes, start, rfl, hcomes⟩ := exists_comesTo rfl (by decide) h
  obtain ⟨hsilent, htext, hcount, hroom, ⟨next, c, code, hread, hgives⟩, hjoin⟩ := hcomes
  obtain ⟨tail, hsplit, hextends⟩ := extends_join_first htext hroom hread hgives rest
  rw [← hjoin] at hsplit hextends
  have hafter : (lead.foldl Mode.after mode).after first = next := Mode.after_code hread
  have hpiece : (lead.foldl Mode.after mode).piece? first =
      some (trimEnd (dropEndWhile (· == '\\') (c :: code))) := by
    simp [Mode.piece?, hread]
  have hadded : (start.add first.number (c :: code)).text =
      trimEnd (dropEndWhile (· == '\\') (c :: code)) := by
    simp [Draft.add, htext]
  refine ⟨lead, first, tail, ?_, ⟨backslashes, hsilent, ?_⟩, ⟨_, hpiece, hadded ▸ hgives⟩, ?_, ?_, ?_⟩
  · rw [List.append_assoc, List.cons_append, ← hsplit]
  · have hcounted : (lead.foldl Mode.after mode).passes first = false := by simp [Mode.passes, hread]
    have hbounded := hextends.bounded
    simp only [Draft.add, hcount] at hbounded
    simp only [Mode.count, hcounted, hafter, Bool.false_eq_true, if_false]
    omega
  · rw [Mode.pieces, hpiece, hafter, hextends.text_eq, hadded]
    exact (intercalate_eq_flatMap [' '] _ _).symm
  · rw [hextends.line_eq]
    simp [Draft.add, htext]
  · rw [List.foldl_append, List.foldl_cons, List.foldl_nil, hafter]
    exact hextends.headless

/-- The readers that come one after the other follow one file. -/
theorem Reader.Follows.iterate {file consumed : List Line} {reader : Reader}
    (h : reader.Follows file consumed) (calls : Nat) :
    ∃ more, ((fun reader : Reader => reader.next.reader)^[calls] reader).Follows file more := by
  induction calls with
  | zero => exact ⟨consumed, h⟩
  | succ calls ih =>
    obtain ⟨more, hmore⟩ := ih
    rw [Function.iterate_succ_apply']
    exact hmore.next

/-- However often a reader has been called, the joined line that it gives next is built from a bounded
number of lines of the file, none of which but the first can only begin a statement. -/
theorem joined_builtFrom (text : List Char) (calls : Nat) :
    let file := numberLines 1 (Text.lines text)
    let reader := (fun reader : Reader => reader.next.reader)^[calls] { lines := file }
    reader.next.draft.text ≠ [] → ∃ earlier lead first tail,
      file = earlier ++ (lead ++ first :: tail ++ reader.next.reader.lines) ∧
        reader.next.BuiltFrom (earlier.foldl Mode.after {}) lead first tail := by
  intro file reader htext
  have hfile : Reader.Follows file [] { lines := file } :=
    ⟨rfl, fun _ => rfl, fun hended => by simp at hended⟩
  obtain ⟨earlier, hreader⟩ : ∃ earlier, reader.Follows file earlier := hfile.iterate calls
  cases hended : reader.ended with
  | true => simp [Reader.next, hended] at htext
  | false =>
    have hnext : reader.next = join (earlier.foldl Mode.after {}) {} reader.lines := by
      simp [Reader.next, hended, hreader.mode hended]
    rw [hnext] at htext ⊢
    obtain ⟨lead, first, tail, hlines, hbuilt⟩ := builtFrom_join htext
    refine ⟨earlier, lead, first, tail, ?_, hbuilt⟩
    rw [← hlines]
    exact hreader.split

/-- A bracket that is never closed, after a line of nothing but a backslash. A here document and a block
comment hold lines that would end the statement. -/
def openCall : List Char :=
  "drop_table :tags\n\\\nfoo(<<~SQL, # open\n  end\nSQL\n\n=begin\nend\n=end\n  :x,\nend\n".toList

theorem openCall_builtFrom :
    let file := numberLines 1 (Text.lines openCall)
    let reader := (fun reader : Reader => reader.next.reader)^[1] { lines := file }
    (reader.next.draft.text ≠ [] ∧ ∃ earlier lead first tail,
      file = earlier ++ (lead ++ first :: tail ++ reader.next.reader.lines) ∧
        reader.next.BuiltFrom (earlier.foldl Mode.after {}) lead first tail) ∧
    reader.next.draft = { text := "foo(\"\", :x,".toList, line := 3, joined := 4 } ∧
    reader.next.reader.lines = [{ number := 11, text := "end".toList }] := by
  have htext : ((fun reader : Reader => reader.next.reader)^[1]
      { lines := numberLines 1 (Text.lines openCall) }).next.draft.text ≠ [] := by
    decide +kernel
  exact ⟨⟨htext, joined_builtFrom openCall 1 htext⟩, by decide +kernel, by decide +kernel⟩

end ForeignKeyLint.Ruby
