import ForeignKeyLint.Migration.Scan
import Mathlib.Data.List.Infix

/-!
Statements that undo a migration have no effect. Each statement closes a block, opens one or does
neither, so the open blocks form a stack whose height follows the statements. While a rollback block
is on the stack no statement yields an event. A balanced body never closes the rollback block it
stands in, and the end after it does, so the statements behind it meet the blocks that were open
before.
-/

namespace ForeignKeyLint.Migration

open Ruby Schema

/-- How a statement changes the number of open blocks. -/
def blockDelta (statement : Statement) : Int :=
  if isBlockEnd statement.text then -1
  else if (keywordBlock? statement.text).isSome || opensBlock statement.text then 1
  else 0

/-- How statements in sequence change the number of open blocks. -/
def totalDelta : List Statement → Int
  | [] => 0
  | statement :: statements => blockDelta statement + totalDelta statements

/-- As many blocks are closed as are opened, and none before it is opened. -/
structure Balanced (statements : List Statement) : Prop where
  total : totalDelta statements = 0
  prefixes : ∀ first, first <+: statements → 0 ≤ totalDelta first

/-- The statement opens a block that describes how to undo the migration: the method for it, or a
call to `down` with a block. -/
structure OpensRollback (statement : Statement) : Prop where
  notEnd : isBlockEnd statement.text = false
  opens : keywordBlock? statement.text = some .rollback ∨
    (keywordBlock? statement.text = none ∧
      ∃ call, Call.parse? statement.text = some call ∧ call.block.isSome = true ∧
        call.method = "down")

/-- A call that is read from a statement has a block exactly when the statement opens one. -/
theorem block_isSome_eq_opensBlock {text : List Char} {call : Call}
    (h : Call.parse? text = some call) : call.block.isSome = opensBlock text := by
  unfold Call.parse? at h
  unfold opensBlock
  cases hopener : blockOpener? (bareStatement text) with
  | none =>
    simp only [hopener] at h
    split at h
    · obtain ⟨_, -, rfl⟩ := Option.map_eq_some_iff.mp h
      rfl
    · cases h
  | some opener =>
    simp only [hopener] at h
    split at h
    · obtain ⟨_, -, rfl⟩ := Option.map_eq_some_iff.mp h
      rfl
    · cases h

namespace Source

theorem steps_append (source : Source) (nesting : Nesting) (first second : List Statement) :
    source.steps nesting (first ++ second) =
      ((source.steps nesting first).1 ++ (source.steps (source.steps nesting first).2 second).1,
        (source.steps (source.steps nesting first).2 second).2) := by
  induction first generalizing nesting with
  | nil => rfl
  | cons statement rest ih => simp [steps, ih]

theorem steps_singleton (source : Source) (nesting : Nesting) (statement : Statement) :
    source.steps nesting [statement] = source.step nesting statement := by
  simp [steps]

theorem nesting_stepCall (source : Source) (nesting : Nesting) (statement : Statement)
    (call : Call) :
    (source.stepCall nesting statement call).2 =
      if call.block.isSome then
        Frame.ofCall call (columnMeaning nesting.table? call).opens? statement.line :: nesting
      else nesting := by
  unfold stepCall
  cases call.block with
  | none => simp only [Option.isSome_none, Bool.false_eq_true, if_false]; split <;> rfl
  | some parameters => simp

/-- A statement that ends a block takes the innermost frame off the stack. -/
theorem nesting_step_of_isBlockEnd (source : Source) (nesting : Nesting) {statement : Statement}
    (h : isBlockEnd statement.text = true) : (source.step nesting statement).2 = nesting.tail := by
  simp [step, stepBody, h, Nesting.pop]

/-- A statement that ends no block leaves the stack alone or puts one frame on it. -/
theorem nesting_step_of_not_isBlockEnd (source : Source) (nesting : Nesting)
    {statement : Statement} (h : isBlockEnd statement.text = false) :
    ∃ frames : List Frame, (source.step nesting statement).2 = frames ++ nesting ∧
      (frames.length : Int) = blockDelta statement := by
  have hbody : (source.step nesting statement).2 = (source.stepBody nesting statement).2 := rfl
  rw [hbody, stepBody, blockDelta, h]
  simp only [Bool.false_eq_true, if_false]
  cases hkeyword : keywordBlock? statement.text with
  | some block =>
    cases block with
    | rollback => exact ⟨[.rollback], rfl, by simp⟩
    | other => exact ⟨[.other], rfl, by simp⟩
  | none =>
    cases hcall : Call.parse? statement.text with
    | some call =>
      have hopens := block_isSome_eq_opensBlock hcall
      simp only [nesting_stepCall]
      cases hblock : call.block.isSome with
      | true => exact ⟨[_], rfl, by simp [← hopens, hblock]⟩
      | false => exact ⟨[], rfl, by simp [← hopens, hblock]⟩
    | none =>
      cases hopens : opensBlock statement.text with
      | true => exact ⟨[.other], rfl, by simp⟩
      | false => exact ⟨[], rfl, by simp⟩

theorem events_unclosed (source : Source) (statement : Statement) :
    (source.unclosed statement).filterMap Finding.event? = [] := by
  unfold unclosed
  split <;> rfl

theorem events_skipped (source : Source) (statement : Statement) :
    (source.skipped statement).filterMap Finding.event? = [] := by
  unfold skipped
  split <;> rfl

/-- No statement in a rollback yields an event. -/
theorem events_step_of_inRollback (source : Source) {nesting : Nesting}
    (h : nesting.inRollback = true) (statement : Statement) :
    (source.step nesting statement).1.filterMap Finding.event? = [] := by
  have hbody : (source.stepBody nesting statement).1.filterMap Finding.event? = [] := by
    unfold stepBody
    split
    · rfl
    · split
      · rfl
      · rfl
      · split
        · next call _ =>
          simp only [stepCall, h, if_true]
          split
          · rfl
          · split
            · rfl
            · simpa using source.events_skipped statement
        · exact source.events_skipped statement
  have hstep : (source.step nesting statement).1 =
      source.unclosed statement ++ (source.stepBody nesting statement).1 := rfl
  rw [hstep, List.filterMap_append, events_unclosed, hbody]
  rfl

/-- Frames put on top of a base stay apart from it, as long as no more are taken off than were put
there. -/
theorem nesting_step_over (source : Source) (base frames : Nesting) (statement : Statement)
    (h : 0 ≤ frames.length + blockDelta statement) :
    ∃ left : Nesting, (source.step (frames ++ base) statement).2 = left ++ base ∧
      (left.length : Int) = frames.length + blockDelta statement := by
  cases hend : isBlockEnd statement.text with
  | true =>
    have hdelta : blockDelta statement = -1 := by simp [blockDelta, hend]
    rw [nesting_step_of_isBlockEnd source _ hend, hdelta]
    cases frames with
    | nil => simp [hdelta] at h
    | cons frame others =>
      refine ⟨others, rfl, ?_⟩
      simp only [List.length_cons]
      omega
  | false =>
    obtain ⟨opened, hnesting, hlength⟩ := nesting_step_of_not_isBlockEnd source (frames ++ base) hend
    refine ⟨opened ++ frames, by simp [hnesting], ?_⟩
    simp only [List.length_append]
    omega

/-- What holds of the height of the stack before a statement and those after it holds on from there. -/
theorem exists_frames_after_step (source : Source) (base : Nesting) {frames : Nesting}
    {statement : Statement} {rest : List Statement}
    (hinitial : ∀ first, first <+: statement :: rest → 0 ≤ frames.length + totalDelta first) :
    ∃ middle : Nesting, (source.step (frames ++ base) statement).2 = middle ++ base ∧
      (middle.length : Int) = frames.length + blockDelta statement ∧
      ∀ first, first <+: rest → 0 ≤ middle.length + totalDelta first := by
  have hfirst : 0 ≤ frames.length + blockDelta statement := by
    simpa [totalDelta] using hinitial [statement] (by simp)
  obtain ⟨middle, hmiddle, hlength⟩ := source.nesting_step_over base frames statement hfirst
  refine ⟨middle, hmiddle, hlength, ?_⟩
  intro first hfirst
  have hlonger := hinitial (statement :: first) (List.cons_prefix_cons.mpr ⟨rfl, hfirst⟩)
  rw [totalDelta] at hlonger
  omega

/-- Statements leave what is below them as it was, when they close no more blocks than are open on top of
it. -/
theorem nesting_steps_over (source : Source) (base : Nesting) (body : List Statement) (frames : Nesting)
    (hinitial : ∀ first, first <+: body → 0 ≤ frames.length + totalDelta first) :
    ∃ left : Nesting, (source.steps (frames ++ base) body).2 = left ++ base ∧
      (left.length : Int) = frames.length + totalDelta body := by
  induction body generalizing frames with
  | nil => exact ⟨frames, rfl, by simp [totalDelta]⟩
  | cons statement rest ih =>
    obtain ⟨middle, hmiddle, hlength, hrest⟩ := source.exists_frames_after_step base hinitial
    obtain ⟨left, hleft, hleftLength⟩ := ih middle hrest
    have hstep : (source.steps (frames ++ base) (statement :: rest)).2 =
        (source.steps (middle ++ base) rest).2 := by
      rw [← hmiddle]
      rfl
    refine ⟨left, hstep.trans hleft, ?_⟩
    rw [totalDelta]
    omega

/-- Statements on top of a rollback yield no event, when they close no more blocks than are open on top of
it. -/
theorem events_steps_over_rollback (source : Source) {base : Nesting} (hbase : base.inRollback = true)
    (body : List Statement) (frames : Nesting)
    (hinitial : ∀ first, first <+: body → 0 ≤ frames.length + totalDelta first) :
    (source.steps (frames ++ base) body).1.filterMap Finding.event? = [] := by
  induction body generalizing frames with
  | nil => rfl
  | cons statement rest ih =>
    obtain ⟨middle, hmiddle, -, hrest⟩ := source.exists_frames_after_step base hinitial
    have hinside : Nesting.inRollback (frames ++ base) = true := by
      simp only [Nesting.inRollback, List.contains_iff_mem, List.mem_append] at hbase ⊢
      exact .inr hbase
    have hstep : (source.steps (frames ++ base) (statement :: rest)).1 =
        (source.step (frames ++ base) statement).1 ++ (source.steps (middle ++ base) rest).1 := by
      rw [← hmiddle]
      rfl
    rw [hstep, List.filterMap_append, source.events_step_of_inRollback hinside statement, List.nil_append]
    exact ih middle hrest

/-- A balanced body leaves the open blocks as they were. -/
theorem nesting_steps_of_balanced (source : Source) (nesting : Nesting) {body : List Statement}
    (hbody : Balanced body) : (source.steps nesting body).2 = nesting := by
  obtain ⟨left, hleft, hlength⟩ :=
    source.nesting_steps_over nesting body [] (by simpa using hbody.prefixes)
  have hempty : left = [] := by
    rw [hbody.total] at hlength
    exact List.length_eq_zero_iff.mp (by simpa using hlength)
  subst hempty
  exact hleft

/-- Only two methods are about an index. -/
theorem indexMeaning_of_method_ne (block : Option TableBlock) {call : Call}
    (hindex : call.method ≠ "index") (hadd : call.method ≠ "add_index") :
    indexMeaning block call = .unrelated := by
  cases block <;> simp [indexMeaning, hindex, hadd, Option.filter]

/-- A call to `down` is about no table, column or index. -/
theorem meaning_of_down (block : Option TableBlock) {call : Call} (h : call.method = "down") :
    columnMeaning block call = .unrelated ∧ indexMeaning block call = .unrelated := by
  constructor
  · unfold columnMeaning
    split
    · next tableBlock _ =>
      have hmethod : BlockCommand.ofMethod? tableBlock.mode call.method = none := by
        rw [h]
        cases tableBlock.mode <;> decide
      rw [hmethod]
    · have hmethod : Command.ofMethod? call.method = none := by
        rw [h]
        decide
      rw [hmethod]
      split
      · next hcommand => cases hcommand
      · rfl
  · exact indexMeaning_of_method_ne block (by simp [h]) (by simp [h])

/-- The opening of a rollback yields no event and puts its frame on the stack. -/
theorem step_of_opensRollback (source : Source) (nesting : Nesting) {statement : Statement}
    (h : OpensRollback statement) :
    (source.step nesting statement).1.filterMap Finding.event? = [] ∧
      (source.step nesting statement).2 = .rollback :: nesting := by
  have hbody : source.stepBody nesting statement = ([], .rollback :: nesting) := by
    unfold stepBody
    rw [h.notEnd]
    rcases h.opens with hkeyword | ⟨hkeyword, call, hcall, hblock, hmethod⟩
    · simp [hkeyword]
    · obtain ⟨hcolumns, hindexes⟩ := meaning_of_down nesting.table? hmethod
      simp [hkeyword, hcall, stepCall, hblock, hcolumns, hindexes, Meaning.findings, Meaning.found,
        Meaning.fault?, Meaning.opens?, Frame.ofCall, hmethod]
  have hstep : source.step nesting statement =
      (source.unclosed statement ++ (source.stepBody nesting statement).1,
        (source.stepBody nesting statement).2) := rfl
  rw [hstep, hbody]
  simpa using source.events_unclosed statement

/-- A whole rollback block yields no event and leaves the open blocks as they were. -/
theorem steps_rollback_block (source : Source) (nesting : Nesting) {opener closer : Statement}
    {body : List Statement} (hopener : OpensRollback opener) (hbody : Balanced body)
    (hcloser : isBlockEnd closer.text = true) :
    (source.steps nesting (opener :: body ++ [closer])).1.filterMap Finding.event? = [] ∧
      (source.steps nesting (opener :: body ++ [closer])).2 = nesting := by
  obtain ⟨hopenerEvents, hopened⟩ := source.step_of_opensRollback nesting hopener
  have hbase : Nesting.inRollback (.rollback :: nesting) = true := by simp [Nesting.inRollback]
  have hbodyEvents :=
    source.events_steps_over_rollback hbase body [] (by simpa using hbody.prefixes)
  -- The body is balanced, so the frame of the rollback is on top again.
  have hleft := source.nesting_steps_of_balanced (.rollback :: nesting) hbody
  have hsplit : opener :: body ++ [closer] = [opener] ++ (body ++ [closer]) := rfl
  rw [hsplit, steps_append, steps_append, steps_singleton, steps_singleton, hopened]
  rw [List.nil_append] at hbodyEvents
  simp only [List.filterMap_append, hopenerEvents, hbodyEvents, hleft]
  exact ⟨source.events_step_of_inRollback hbase closer,
    nesting_step_of_isBlockEnd source _ hcloser⟩

/-- A rollback block does not interfere: the events are those of the statements around it, and after
its end the same blocks are open as before it. -/
theorem steps_rollback (source : Source) (nesting : Nesting) (before body after : List Statement)
    (opener closer : Statement) (hopener : OpensRollback opener) (hbody : Balanced body)
    (hcloser : isBlockEnd closer.text = true) :
    (source.steps nesting (before ++ (opener :: body ++ [closer]) ++ after)).1.filterMap
        Finding.event? =
      (source.steps nesting (before ++ after)).1.filterMap Finding.event? ∧
    (source.steps nesting (before ++ (opener :: body ++ [closer]))).2 =
      (source.steps nesting before).2 := by
  obtain ⟨hevents, hnesting⟩ :=
    source.steps_rollback_block (source.steps nesting before).2 hopener hbody hcloser
  constructor
  · rw [List.append_assoc, steps_append, steps_append source _ (opener :: body ++ [closer]),
      steps_append source nesting before after]
    simp only [List.filterMap_append, hevents, hnesting, List.nil_append]
  · rw [steps_append]
    exact hnesting

/-- A rollback that creates a table, with a block of its own inside. -/
def tableRollback : List Statement :=
  [{ line := 6, text := "create_table :legacy do |t|".toList, cutShort := false },
    { line := 7, text := "t.bigint :owner_id".toList, cutShort := false },
    { line := 8, text := "end".toList, cutShort := false }]

theorem tableRollback_balanced : Balanced tableRollback where
  total := by decide
  prefixes := by
    intro first hfirst
    rw [← List.mem_inits] at hfirst
    revert first
    decide

theorem steps_tableRollback :
    let opener : Statement := { line := 5, text := "def down".toList, cutShort := false }
    let closer : Statement := { line := 9, text := "end".toList, cutShort := false }
    let after : List Statement :=
      [{ line := 10, text := "add_index :albums, :owner_id".toList, cutShort := false }]
    let source : Source := { path := ⟨"1.rb"⟩ }
    (source.steps [.other] ([] ++ (opener :: tableRollback ++ [closer]) ++ after)).1.filterMap
        Finding.event? =
      (source.steps [.other] ([] ++ after)).1.filterMap Finding.event? ∧
    (source.steps [.other] ([] ++ (opener :: tableRollback ++ [closer]))).2 = [.other] := by
  intro opener closer after source
  exact steps_rollback source [.other] [] tableRollback after opener closer
    { notEnd := by decide, opens := .inl (by decide) } tableRollback_balanced (by decide)

end Source

end ForeignKeyLint.Migration
