import ForeignKeyLint.Proofs.Migration.Rollback

/-!
Which calls a scan reads, and what each of them stands for. A statement is read as a call with the
table block around it, unless it ends a block, opens one by a keyword, is no call, or belongs to a
rollback. Main statement: the events of a file are those of the calls it reads, one call after the
other, so every event comes from a call.
-/

namespace ForeignKeyLint.Migration

open Ruby Schema

/-- A call as a scan reads it, with the innermost table block around it. -/
structure Reading where
  block : Option TableBlock
  call : Call
  location : Location

/-- The events that the call stands for. -/
def Reading.events (reading : Reading) : List Event :=
  ((columnMeaning reading.block reading.call).found ++
    (indexMeaning reading.block reading.call).found).map
    fun operation => { operation, location := reading.location }

namespace Source

/-- The call that a statement is read as. -/
def reading? (source : Source) (nesting : Nesting) (statement : Statement) : Option Reading :=
  if isBlockEnd statement.text || (keywordBlock? statement.text).isSome || nesting.inRollback then
    none
  else (Call.parse? statement.text).map fun call =>
    { block := nesting.table?, call, location := source.location statement.line }

/-- The calls that statements are read as, in order. -/
def readings (source : Source) (nesting : Nesting) : List Statement → List Reading
  | [] => []
  | statement :: others =>
    (source.reading? nesting statement).toList ++
      source.readings (source.step nesting statement).2 others

theorem events_findings (meaning : Meaning) (location : Location) :
    (meaning.findings location).filterMap Finding.event? =
      meaning.found.map fun operation => { operation, location } := by
  have hfound : (meaning.found.map fun operation => Finding.event { operation, location }).filterMap
      Finding.event? = meaning.found.map fun operation => { operation, location } := by
    rw [List.filterMap_map]
    exact congrFun List.filterMap_eq_map meaning.found
  rw [Meaning.findings, List.filterMap_append, hfound]
  -- What is wrong with the call is a diagnostic and no event.
  cases meaning.fault? <;> exact List.append_nil _

/-- A call outside a rollback yields its events. -/
theorem events_stepCall (source : Source) {nesting : Nesting} (h : nesting.inRollback = false)
    (statement : Statement) (call : Call) :
    (source.stepCall nesting statement call).1.filterMap Finding.event? =
      Reading.events
        { block := nesting.table?, call, location := source.location statement.line } := by
  have hfindings :
      ((columnMeaning nesting.table? call).findings (source.location statement.line) ++
        (indexMeaning nesting.table? call).findings (source.location statement.line)).filterMap
          Finding.event? =
        Reading.events
          { block := nesting.table?, call, location := source.location statement.line } := by
    rw [List.filterMap_append, events_findings, events_findings, ← List.map_append]
    rfl
  simp only [stepCall, h, Bool.false_eq_true, if_false]
  split
  · exact hfindings
  · split
    · exact hfindings
    · rw [List.filterMap_append, hfindings, events_skipped, List.append_nil]

/-- A statement yields the events of the call that it is read as. -/
theorem events_step (source : Source) (nesting : Nesting) (statement : Statement) :
    (source.step nesting statement).1.filterMap Finding.event? =
      (source.reading? nesting statement).toList.flatMap Reading.events := by
  cases hrollback : nesting.inRollback with
  | true => simp [source.events_step_of_inRollback hrollback, reading?, hrollback]
  | false =>
    have hstep : (source.step nesting statement).1 =
        source.unclosed statement ++ (source.stepBody nesting statement).1 := rfl
    rw [hstep, List.filterMap_append, events_unclosed, List.nil_append, stepBody, reading?, hrollback]
    cases isBlockEnd statement.text with
    | true => rfl
    | false =>
      cases keywordBlock? statement.text with
      | some block => cases block <;> rfl
      | none =>
        cases Call.parse? statement.text with
        | none => exact events_skipped source statement
        | some call => simpa using events_stepCall source hrollback statement call

theorem events_steps (source : Source) (nesting : Nesting) (statements : List Statement) :
    (source.steps nesting statements).1.filterMap Finding.event? =
      (source.readings nesting statements).flatMap Reading.events := by
  induction statements generalizing nesting with
  | nil => rfl
  | cons statement others ih =>
    simp only [steps, readings, List.filterMap_append, List.flatMap_append, events_step, ih]

end Source

/-- The events of a file are those of the calls that a scan of its text reads. -/
theorem events_read (source : Source) (text : List Char) :
    (File.read source text).events =
      (source.readings [] (statements text)).flatMap Reading.events := by
  have hunterminated (nesting : Nesting) :
      (source.unterminated nesting).filterMap Finding.event? = [] := by
    rw [Source.unterminated, List.filterMap_map, List.filterMap_eq_nil_iff]
    intro block _
    rfl
  simp only [File.read, Source.scan, List.filterMap_append, hunterminated, List.append_nil,
    Source.events_steps]

end ForeignKeyLint.Migration
