import ForeignKeyLint.Migration.Scan
import ForeignKeyLint.Proofs.Ruby.Comment

/-!
Text that is no code. What a comment says, what stands in a here document or in a block comment, and
whatever follows the line that ends the program is not read: two texts that differ only there have the
same statements, and a scan finds the same in both. Main statement: a scan does not depend on text that
is no code.

Whether a line is code depends on the lines before it, so the two texts are read side by side. The
reader is in the same mode in both at every line, and this carries each proof.
-/

namespace ForeignKeyLint.Ruby

open Text

/-- The two lines differ at most in text that is no code, when a reader comes to them in this mode. -/
inductive SameLine (mode : Mode) : List Char → List Char → Prop where
  | refl (text : List Char) : SameLine mode text text
  /-- The lines differ in what their comments say. -/
  | comment {lead comment : List Char} (hmode : mode.isCode = true) (hcut : CutAt lead comment)
      (other : List Char) : SameLine mode (lead ++ '#' :: comment) (lead ++ '#' :: other)
  /-- The lines stand in a here document, and neither ends it. -/
  | heredoc {terminator text other : List Char} {awaited : List (List Char)}
      (hcomment : mode.inComment = false) (hmode : mode.heredocs = terminator :: awaited)
      (htext : trim text ≠ terminator) (hother : trim other ≠ terminator) : SameLine mode text other
  /-- The lines stand in a block comment, and neither ends it. -/
  | blockComment {text other : List Char} (hmode : mode.inComment = true)
      (htext : beginsWith "=end".toList text = false)
      (hother : beginsWith "=end".toList other = false) : SameLine mode text other

/-- The two runs of lines differ at most in text that is no code, when a reader comes to them in this
mode. Anything may follow the line that ends the program. -/
inductive SameCode : Mode → List Line → List Line → Prop where
  | nil (mode : Mode) : SameCode mode [] []
  | cons {mode : Mode} {line other : Line} {rest others : List Line}
      (hnumber : other.number = line.number) (hline : SameLine mode line.text other.text)
      (hrest : mode.read line.text ≠ .programEnd → SameCode (mode.after line) rest others) :
      SameCode mode (line :: rest) (other :: others)

namespace SameLine

variable {mode : Mode} {text other : List Char}

theorem read_eq (h : SameLine mode text other) : mode.read other = mode.read text := by
  cases h with
  | refl => rfl
  | comment hmode hcut other => exact hcut.read_eq hmode other
  | heredoc hcomment hmode htext hother => simp [Mode.read, hcomment, hmode, htext, hother]
  | blockComment hmode htext hother =>
    rw [Mode.read, Mode.read, if_pos hmode, if_pos hmode, htext, hother]

theorem startsStatement_eq (h : SameLine mode text other) (hmode : mode.isCode = true) :
    startsStatement other = startsStatement text := by
  cases h with
  | refl => rfl
  | @comment lead comment _ _ other => exact startsStatement_hash lead other comment
  | heredoc _ hheredocs => simp [Mode.isCode, hheredocs] at hmode
  | blockComment hcomment => simp [Mode.isCode, hcomment] at hmode

end SameLine

/-- The two readers have the same lines left, but for text that is no code. -/
structure Reader.Same (first second : Reader) : Prop where
  ended : second.ended = first.ended
  mode : second.mode = first.mode
  lines : first.ended = false → SameCode first.mode first.lines second.lines

/-- The same lines were joined, and the same lines are left, but for text that is no code. -/
structure Joined.Same (first second : Joined) : Prop where
  draft : second.draft = first.draft
  cutShort : second.cutShort = first.cutShort
  reader : first.reader.Same second.reader

/-- Where both readers stop with the same lines left. -/
theorem Joined.same_of_sameCode {mode : Mode} {lines others : List Line}
    (h : SameCode mode lines others) (draft : Draft) (cutShort : Bool) :
    Joined.Same { draft, cutShort, reader := { mode, lines } }
      { draft, cutShort, reader := { mode, lines := others } } :=
  ⟨rfl, rfl, rfl, rfl, fun _ => h⟩

/-- Where both readers stop at the end of the program. -/
theorem Joined.same_of_ended (mode : Mode) (draft : Draft) (lines others : List Line) :
    Joined.Same { draft, cutShort := false, reader := { mode, lines, ended := true } }
      { draft, cutShort := false, reader := { mode, lines := others, ended := true } } :=
  ⟨rfl, rfl, rfl, rfl, fun hended => by simp at hended⟩

theorem Joined.Same.statements_eq {first second : Joined} (h : first.Same second) :
    second.statements = first.statements := by
  rw [Joined.statements, Joined.statements, h.draft, h.cutShort]

/-- Both readers join the same lines. -/
theorem same_join {mode : Mode} {lines others : List Line} (h : SameCode mode lines others)
    (draft : Draft) : (join mode draft lines).Same (join mode draft others) := by
  -- The mode is the same in both files at every line, so both readers take the same branch.
  induction h generalizing draft with
  | nil mode => exact Joined.same_of_sameCode (.nil mode) draft false
  | @cons mode line other rest others hnumber hline hrest ih =>
    have hstops : (!draft.text.isEmpty && mode.isCode && startsStatement other.text) =
        (!draft.text.isEmpty && mode.isCode && startsStatement line.text) := by
      cases hcode : mode.isCode with
      | true => rw [hline.startsStatement_eq hcode]
      | false => simp
    rw [join, join, hstops, hline.read_eq, hnumber]
    split
    · exact Joined.same_of_sameCode (.cons hnumber hline hrest) draft true
    · cases hread : mode.read line.text with
      | programEnd => exact Joined.same_of_ended mode draft rest others
      | passive next =>
        have hafter : mode.after line = next := by rw [Mode.after, hread]
        rw [hafter] at ih
        exact ih (by simp [hread]) draft
      | code next code =>
        have hafter : mode.after line = next := by rw [Mode.after, hread]
        rw [hafter] at ih hrest
        have hrest := hrest (by simp [hread])
        have ih := ih (by simp [hread])
        cases code with
        | nil =>
          dsimp only
          split
          · exact ih draft
          · split
            · exact ih _
            · exact Joined.same_of_sameCode hrest _ true
        | cons c code =>
          dsimp only
          split
          · exact Joined.same_of_sameCode hrest _ false
          · split
            · exact ih _
            · exact Joined.same_of_sameCode hrest _ true

namespace Reader

variable {first second : Reader}

theorem Same.next (h : first.Same second) : first.next.Same second.next := by
  rw [Reader.next, Reader.next, h.ended]
  split
  · exact ⟨rfl, rfl, h⟩
  · next hended =>
    rw [h.mode]
    exact same_join (h.lines (by simpa using hended)) {}

theorem Same.statements_eq (h : first.Same second) : second.statements = first.statements := by
  fun_induction Reader.statements first generalizing second with
  | case1 first hempty =>
    rw [Reader.statements, dif_pos (by rw [h.next.draft, hempty])]
  | case2 first htext _ ih =>
    have hnext := h.next
    rw [Reader.statements, dif_neg (by rwa [hnext.draft])]
    exact congrArg₂ (· ++ ·) hnext.statements_eq (ih hnext.reader)

end Reader

end ForeignKeyLint.Ruby

namespace ForeignKeyLint.Migration

open Ruby

/-- Text that is no code is never read. -/
theorem scan_unread {text other : List Char}
    (h : SameCode {} (numberLines 1 (Text.lines text)) (numberLines 1 (Text.lines other))) :
    statements other = statements text ∧
      ∀ source : Source, source.scan other = source.scan text := by
  have hsame : Reader.Same { lines := numberLines 1 (Text.lines text) }
      { lines := numberLines 1 (Text.lines other) } := ⟨rfl, rfl, fun _ => h⟩
  have hstatements : statements other = statements text := hsame.statements_eq
  refine ⟨hstatements, fun source => ?_⟩
  rw [Source.scan, Source.scan, hstatements]

/-- A file with a comment, a here document, a block comment and text after the end of the program. -/
def albumsLines (comment query remark after : String) : List (List Char) :=
  ["create_table :albums do |t| ".toList ++ '#' :: comment.toList, "  execute <<~SQL".toList,
    query.toList, "  SQL".toList, "=begin".toList, remark.toList, "=end".toList,
    "  t.bigint :artist_id".toList, "end".toList, "__END__".toList, after.toList]

/-- The two files say different things wherever nothing is read. -/
theorem scan_unread_albums :
    let lines := albumsLines " albums" "    select 1" "end" "drop_table :albums"
    let others := albumsLines " <<~RUBY" "    t.bigint :label_id" "__END__" "=begin"
    let text := lines.flatMap (· ++ ['\n'])
    let other := others.flatMap (· ++ ['\n'])
    SameCode {} (numberLines 1 (Text.lines text)) (numberLines 1 (Text.lines other)) ∧
      statements other = statements text ∧
        ∀ source : Source, source.scan other = source.scan text := by
  intro lines others text other
  have hcut : CutAt "create_table :albums do |t| ".toList " albums".toList := by decide +kernel
  have hsame : SameCode {} (numberLines 1 lines) (numberLines 1 others) := by
    refine .cons rfl (.comment rfl hcut _) fun _ => ?_
    refine .cons rfl (.refl _) fun _ => ?_
    refine .cons rfl (@SameLine.heredoc _ "SQL".toList _ _ [] ?_ ?_ ?_ ?_) fun _ => ?_
    · decide +kernel
    · decide +kernel
    · decide +kernel
    · decide +kernel
    refine .cons rfl (.refl _) fun _ => ?_
    refine .cons rfl (.refl _) fun _ => ?_
    refine .cons rfl (.blockComment ?_ ?_ ?_) fun _ => ?_
    · decide +kernel
    · decide +kernel
    · decide +kernel
    refine .cons rfl (.refl _) fun _ => ?_
    refine .cons rfl (.refl _) fun _ => ?_
    refine .cons rfl (.refl _) fun _ => ?_
    refine .cons rfl (.refl _) fun hend => absurd ?_ hend
    decide +kernel
  have hlines : Text.lines text = lines ∧ Text.lines other = others := by decide +kernel
  rw [hlines.1, hlines.2]
  refine ⟨hsame, scan_unread ?_⟩
  rwa [hlines.1, hlines.2]

end ForeignKeyLint.Migration
