import ForeignKeyLint.Proofs.Migration.Printed
import ForeignKeyLint.Proofs.Migration.Rollback
import ForeignKeyLint.Proofs.Ruby.Concatenation

/-!
Scanning one text after another. Main statement: after a first text that leaves no block open and
stands between statements at its end, the scan of any second text is what it is by itself, with its
lines put further down, exactly if the first text leaves no joined lines without text behind. Lines of
nothing but backslashes are counted against the statement that comes next, which may then be cut
short, or lost with all that follows it.
-/

namespace ForeignKeyLint.Schema

/-- The location, that many lines further down. -/
def Location.later (shift : Nat) (location : Location) : Location :=
  { location with line := location.line + shift }

end ForeignKeyLint.Schema

namespace ForeignKeyLint.Migration

open Ruby Schema Text

/-- The finding, that many lines further down. -/
def Finding.later (shift : Nat) : Finding → Finding
  | .event found => .event { found with location := found.location.later shift }
  | .diagnostic found => .diagnostic { found with location := found.location.later shift }

def TableBlock.later (shift : Nat) (block : TableBlock) : TableBlock :=
  { block with openedAt := block.openedAt + shift }

def Frame.later (shift : Nat) : Frame → Frame
  | .table block => .table (block.later shift)
  | .rollback => .rollback
  | .other => .other

/-- The open blocks, opened that many lines further down. -/
def Nesting.later (shift : Nat) (nesting : Nesting) : Nesting :=
  nesting.map (Frame.later shift)

theorem findings_later (shift : Nat) (meaning : Meaning) (location : Location) :
    meaning.findings (location.later shift) =
      (meaning.findings location).map (Finding.later shift) := by
  simp only [Meaning.findings, List.map_append, List.map_map]
  rfl

section Meaning

theorem columnMeaning_later (shift : Nat) (block : Option TableBlock) (call : Call) :
    columnMeaning (block.map (TableBlock.later shift)) call = columnMeaning block call := by
  cases block with
  | none => rfl
  | some block =>
    by_cases hreceiver : call.receiver = some block.parameter <;>
      simp [columnMeaning, TableBlock.later, Option.filter, hreceiver]

theorem indexMeaning_later (shift : Nat) (block : Option TableBlock) (call : Call) :
    indexMeaning (block.map (TableBlock.later shift)) call = indexMeaning block call := by
  cases block with
  | none => rfl
  | some block =>
    by_cases hreceiver : call.receiver = some block.parameter ∧ call.method = "index" <;>
      simp [indexMeaning, TableBlock.later, Option.filter, hreceiver]

end Meaning

namespace Nesting

theorem table?_later (shift : Nat) (nesting : Nesting) :
    (nesting.later shift).table? = nesting.table?.map (TableBlock.later shift) := by
  induction nesting with
  | nil => rfl
  | cons frame rest ih =>
    cases frame with
    | table block => rfl
    | rollback => exact ih
    | other => exact ih

theorem tables_later (shift : Nat) (nesting : Nesting) :
    (nesting.later shift).tables = nesting.tables.map (TableBlock.later shift) := by
  have hframe : Frame.table? ∘ Frame.later shift =
      Option.map (TableBlock.later shift) ∘ Frame.table? := by
    funext frame
    cases frame <;> rfl
  rw [tables, tables, List.map_reverse, later, List.filterMap_map, hframe, List.map_filterMap]
  rfl

theorem inRollback_later (shift : Nat) (nesting : Nesting) :
    (nesting.later shift).inRollback = nesting.inRollback := by
  induction nesting with
  | nil => rfl
  | cons frame rest ih =>
    simp only [inRollback, later, List.map_cons, List.contains_cons] at ih ⊢
    rw [ih]
    cases frame <;> rfl

end Nesting

namespace Source

variable (shift : Nat) (source : Source)

theorem unclosed_later (statement : Statement) :
    source.unclosed (statement.later shift) =
      (source.unclosed statement).map (Finding.later shift) := by
  have hcut : (statement.later shift).cutShort = statement.cutShort := rfl
  rw [unclosed, unclosed, hcut]
  split <;> rfl

theorem skipped_later (statement : Statement) :
    source.skipped (statement.later shift) =
      (source.skipped statement).map (Finding.later shift) := by
  unfold skipped
  split <;> rfl

theorem unterminated_later (nesting : Nesting) :
    source.unterminated (nesting.later shift) =
      (source.unterminated nesting).map (Finding.later shift) := by
  rw [unterminated, unterminated, Nesting.tables_later, List.map_map, List.map_map]
  rfl

/-- A call finds the same further down, and opens the same. -/
theorem stepCall_later (nesting : Nesting) (statement : Statement) (call : Call) :
    source.stepCall (nesting.later shift) (statement.later shift) call =
      ((source.stepCall nesting statement call).1.map (Finding.later shift),
        (source.stepCall nesting statement call).2.later shift) := by
  have hlocation : source.location (statement.later shift).line =
      (source.location statement.line).later shift := rfl
  have hframe (opens : Option (String × TableMode)) :
      Frame.ofCall call opens (statement.later shift).line =
        (Frame.ofCall call opens statement.line).later shift := by
    rcases opens with _ | ⟨name, mode⟩
    · simp only [Frame.ofCall]
      split <;> rfl
    · rfl
  simp only [stepCall, Nesting.table?_later, columnMeaning_later, indexMeaning_later,
    Nesting.inRollback_later, hlocation, findings_later, hframe, skipped_later]
  split_ifs <;> simp [Nesting.later]

theorem step_later (nesting : Nesting) (statement : Statement) :
    source.step (nesting.later shift) (statement.later shift) =
      ((source.step nesting statement).1.map (Finding.later shift),
        (source.step nesting statement).2.later shift) := by
  have hbody : source.stepBody (nesting.later shift) (statement.later shift) =
      ((source.stepBody nesting statement).1.map (Finding.later shift),
        (source.stepBody nesting statement).2.later shift) := by
    have htext : (statement.later shift).text = statement.text := rfl
    unfold stepBody
    rw [htext]
    split
    · exact Prod.ext rfl List.map_tail.symm
    · split
      · rfl
      · rfl
      · split
        · exact source.stepCall_later shift nesting statement _
        · refine Prod.ext (source.skipped_later shift statement) ?_
          dsimp only
          split <;> rfl
  simp only [step, hbody, unclosed_later, List.map_append]

theorem steps_later (nesting : Nesting) (statements : List Statement) :
    source.steps (nesting.later shift) (statements.map (Statement.later shift)) =
      ((source.steps nesting statements).1.map (Finding.later shift),
        (source.steps nesting statements).2.later shift) := by
  induction statements generalizing nesting with
  | nil => rfl
  | cons statement rest ih => simp only [List.map_cons, steps, step_later, ih, List.map_append]

/-- A scan goes on after a text that leaves no block open as if its statements came first in a file of
their own, if that is how they are read. -/
theorem scan_append_of_statements (source : Source) {first second : List Char} {shift : Nat}
    (hnesting : (source.steps [] (statements first)).2 = [])
    (h : statements (first ++ second) =
      statements first ++ (statements second).map (Statement.later shift)) :
    source.scan (first ++ second) =
      source.scan first ++ (source.scan second).map (Finding.later shift) := by
  have hlater := source.steps_later shift [] (statements second)
  have hnone : Nesting.later shift [] = [] := rfl
  have hclosed : source.unterminated [] = [] := rfl
  rw [hnone] at hlater
  simp only [scan, h, steps_append, hnesting, hlater, hclosed, unterminated_later, List.append_nil,
    List.map_append, List.append_assoc]

theorem scan_delayed_ne_nil (source : Source) {count : Nat} (h : count < maxJoined) :
    source.scan (delayed count) ≠ [] := by
  have hwritable : (Operation.dropTable "users").Writable := by decide +kernel
  have htoken (kind : Kind) : kind.tokens.headD "" ∈ kind.tokens := by
    cases kind <;> decide
  have htext : dropText =
      ((Operation.dropTable "users").statement fun kind => kind.tokens.headD "").toList := by
    decide +kernel
  have hstep := source.step_statement hwritable htoken (1 + count)
  rw [scan, statements_delayed h, htext, steps_singleton, hstep]
  simp

/-- A text that leaves no block open and stands between statements at its end can be followed by any
other text, whose lines are only put further down, exactly if it leaves no joined lines behind. -/
theorem scan_append_iff (source : Source) {first : List Char}
    (hended : first = [] ∨ first.getLast? = some '\n')
    (hbetween : (Progress.after first).BetweenStatements)
    (hnesting : (source.steps [] (statements first)).2 = []) :
    (∀ second, source.scan (first ++ second) =
      source.scan first ++ (source.scan second).map (Finding.later (lines first).length)) ↔
    (Progress.after first).draft.joined = 0 := by
  constructor
  · intro h
    by_contra hjoined
    have hlost := statements_append_delayed hended hbetween
    have hdelayed := h (delayed (maxJoined - (Progress.after first).draft.joined))
    rw [scan, hlost, ← scan, List.self_eq_append_right, List.map_eq_nil_iff] at hdelayed
    have hroom : maxJoined - (Progress.after first).draft.joined < maxJoined :=
      Nat.sub_lt (by decide) (Nat.pos_of_ne_zero hjoined)
    exact source.scan_delayed_ne_nil hroom hdelayed
  · intro hjoined second
    exact source.scan_append_of_statements hnesting
      (statements_append_of_fresh hended hbetween hjoined second)

end Source

/-- A table with a here document in its block, and a block comment after it. -/
def settledFile : List Char :=
  ("create_table :a do |t|\n" ++ "t.bigint :b_id, comment: <<~X\n" ++ "end\n" ++ "X\n" ++ "end\n" ++
    "=begin\n" ++ "drop_table :a\n" ++ "=end\n").toList

/-- Whatever follows the table is put eight lines further down. -/
theorem scan_settledFile_append :
    let source : Source := { path := ⟨"1.rb"⟩ }
    settledFile.getLast? = some '\n' ∧ (Progress.after settledFile).BetweenStatements ∧
      source.steps [] (statements settledFile) =
        ([.event { operation := .defineTable "a", location := source.location 1 },
          .event { operation := .declareColumn "a" "b_id" .bigint .unspecified
                   location := source.location 2 }], []) ∧
      ∀ second, source.scan (settledFile ++ second) =
        source.scan settledFile ++ (source.scan second).map (Finding.later 8) := by
  intro source
  have hended : settledFile.getLast? = some '\n' := by decide +kernel
  have hafter : Progress.after settledFile = {} := by decide +kernel
  have hbetween : (Progress.after settledFile).BetweenStatements := by
    rw [hafter]
    exact ⟨rfl, rfl, rfl, rfl⟩
  have hsteps : source.steps [] (statements settledFile) =
      ([.event { operation := .defineTable "a", location := source.location 1 },
        .event { operation := .declareColumn "a" "b_id" .bigint .unspecified
                 location := source.location 2 }], []) := by
    decide +kernel
  have hiff := source.scan_append_iff (.inr hended) hbetween (congrArg Prod.snd hsteps)
  have hlines : (lines settledFile).length = 8 := by decide +kernel
  rw [hlines, hafter] at hiff
  exact ⟨hended, hbetween, hsteps, hiff.mpr rfl⟩

/-- A line of a backslash, and an empty line after it. -/
def strayBackslash : List Char := "\\\n\n".toList

/-- A statement on as many lines as may be joined, most of them empty. -/
def longIndex : List Char :=
  "add_index :albums, [\n".toList ++ List.replicate 30 '\n' ++ ":artist_id]\n".toList

/-- The backslash counts as a line of the statement after it, which is then cut short. -/
theorem longIndex_cut_short :
    let source : Source := { path := ⟨"m.rb"⟩ }
    (strayBackslash = [] ∨ strayBackslash.getLast? = some '\n') ∧
      (Progress.after strayBackslash).BetweenStatements ∧
      (source.steps [] (statements strayBackslash)).2 = [] ∧
      source.scan longIndex = [.event
        { operation := .addIndex "albums" ["artist_id"], location := source.location 1 }] ∧
      source.scan strayBackslash = [] ∧
      source.scan (strayBackslash ++ longIndex) =
        [.diagnostic {
            kind := .malformedDeclaration, location := source.location 3
            message := "statement never closes, read up to here: add_index :albums, [" },
          .diagnostic {
            kind := .unsupportedIndexExpression, location := source.location 3
            message := "index on albums is not a plain column list" }] := by
  intro source
  have hafter : Progress.after strayBackslash = { draft := { line := 1, joined := 1 } } := by
    decide +kernel
  rw [hafter]
  exact ⟨.inr (by decide), ⟨rfl, rfl, rfl, rfl⟩, by decide +kernel, by decide +kernel,
    by decide +kernel, by decide +kernel⟩

end ForeignKeyLint.Migration
