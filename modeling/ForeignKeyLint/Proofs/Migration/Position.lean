import ForeignKeyLint.Proofs.Migration.Fault
import ForeignKeyLint.Proofs.Migration.Rollback
import ForeignKeyLint.Proofs.Ruby.LineNumber

/-!
Where the findings of a scan are. A statement is told about at its own number, and a table block keeps the
number of the statement that opens it: the numbers of the open table blocks, from the outermost one on, are
those of some of the statements that have been read, in the order they were read in. Main statement: every
finding is in the file that is scanned and at the number of one of its lines of code, the numbers do not
decrease, and the complaints about table blocks that are never closed come last, one for each of these blocks.
-/

namespace ForeignKeyLint.Migration

open Ruby Schema Text

namespace Finding

def location : Finding → Location
  | .event found => found.location
  | .diagnostic found => found.location

/-- The finding is the complaint about a table block that is never closed. -/
def isUnterminated : Finding → Bool
  | .event _ => false
  | .diagnostic found => found.kind = .unterminatedBlock

end Finding

theorem Meaning.location_of_mem_findings {meaning : Meaning} (hmeaning : meaning.FaultsProperly)
    {location : Location} {finding : Finding} (h : finding ∈ meaning.findings location) :
    finding.location = location ∧ finding.isUnterminated = false := by
  simp only [findings, List.mem_append, List.mem_map, Option.mem_toList] at h
  rcases h with ⟨operation, -, rfl⟩ | ⟨⟨kind, message⟩, hfault, rfl⟩
  · exact ⟨rfl, rfl⟩
  · have hkind : kind ≠ .unterminatedBlock := by
      rintro rfl
      exact Bool.noConfusion (hmeaning _ hfault)
    exact ⟨rfl, decide_eq_false hkind⟩

namespace Nesting

/-- The numbers of the statements that open the table blocks, outermost first. -/
def openings (nesting : Nesting) : List Nat :=
  nesting.tables.map TableBlock.openedAt

theorem openings_pop (nesting : Nesting) : nesting.pop.openings.Sublist nesting.openings :=
  (((List.tail_sublist nesting).filterMap Frame.table?).reverse).map TableBlock.openedAt

/-- A frame on top opens no table block, or one that is opened by its own statement. -/
theorem openings_cons {frame : Frame} {line : Nat} (nesting : Nesting)
    (h : ∀ block ∈ frame.table?, block.openedAt = line) :
    (openings (frame :: nesting)).Sublist (nesting.openings ++ [line]) := by
  unfold openings tables
  cases htable : frame.table? with
  | none =>
    rw [List.filterMap_cons_none htable]
    exact List.sublist_append_left _ _
  | some block =>
    rw [List.filterMap_cons_some htable, List.reverse_cons, List.map_append, List.map_singleton,
      h block htable]

end Nesting

theorem Frame.openedAt_ofCall (call : Call) (table : Option (String × TableMode)) (line : Nat) :
    ∀ block ∈ (Frame.ofCall call table line).table?, block.openedAt = line := by
  intro block hblock
  unfold ofCall at hblock
  split at hblock
  · cases hblock
    rfl
  · split at hblock <;> cases hblock

namespace Source

variable {source : Source}

/-- What is found in a statement is at its number, and no complaint about a block. -/
theorem location_of_mem_step {finding : Finding} {nesting : Nesting} {statement : Statement}
    (h : finding ∈ (source.step nesting statement).1) :
    finding.location = source.location statement.line ∧ finding.isUnterminated = false := by
  rcases mem_step h with h | h | ⟨meaning, hmeaning, h⟩
  · unfold unclosed at h
    split at h
    · cases List.mem_singleton.mp h
      exact ⟨rfl, rfl⟩
    · cases h
  · unfold skipped at h
    split at h
    · cases List.mem_singleton.mp h
      exact ⟨rfl, rfl⟩
    · cases h
  · exact Meaning.location_of_mem_findings hmeaning h

theorem location_of_mem_steps {finding : Finding} {nesting : Nesting} {statements : List Statement}
    (h : finding ∈ (source.steps nesting statements).1) :
    finding.isUnterminated = false ∧
      ∃ statement ∈ statements, finding.location = source.location statement.line := by
  induction statements generalizing nesting with
  | nil => cases h
  | cons statement rest ih =>
    rcases List.mem_append.mp h with h | h
    · obtain ⟨hlocation, hkind⟩ := location_of_mem_step h
      exact ⟨hkind, statement, List.mem_cons_self, hlocation⟩
    · obtain ⟨hkind, other, hother, hlocation⟩ := ih h
      exact ⟨hkind, other, List.mem_cons_of_mem _ hother, hlocation⟩

/-- Statements in order are told about in order. -/
theorem lines_of_steps {statements : List Statement}
    (hordered : (statements.map (·.line)).Pairwise (· ≤ ·)) (nesting : Nesting) :
    ((source.steps nesting statements).1.map (·.location.line)).Pairwise (· ≤ ·) := by
  rw [List.pairwise_map] at hordered ⊢
  induction statements generalizing nesting with
  | nil => exact .nil
  | cons statement rest ih =>
    obtain ⟨hfirst, hrest⟩ := List.pairwise_cons.mp hordered
    have hline {finding : Finding} (h : finding ∈ (source.step nesting statement).1) :
        finding.location.line = statement.line :=
      congrArg Location.line (location_of_mem_step h).1
    refine List.pairwise_append.mpr ⟨?_, ih hrest _, fun finding hfinding later hlater => ?_⟩
    · exact List.pairwise_of_forall_mem_list fun finding hfinding other hother =>
        ((hline hfinding).trans (hline hother).symm).le
    · obtain ⟨-, other, hother, hlocation⟩ := location_of_mem_steps hlater
      rw [hline hfinding, hlocation]
      exact hfirst other hother

/-- A statement closes a table block, opens one at its number or leaves them as they are. -/
theorem openings_step (nesting : Nesting) (statement : Statement) :
    (source.step nesting statement).2.openings.Sublist (nesting.openings ++ [statement.line]) := by
  have hbody : (source.step nesting statement).2 = (source.stepBody nesting statement).2 := rfl
  have hsame : nesting.openings.Sublist (nesting.openings ++ [statement.line]) :=
    List.sublist_append_left _ _
  have hother {frame : Frame} (h : frame.table? = none) :
      (Nesting.openings (frame :: nesting)).Sublist (nesting.openings ++ [statement.line]) :=
    Nesting.openings_cons nesting (by simp [h])
  rw [hbody, stepBody]
  split
  · exact nesting.openings_pop.trans hsame
  · split
    · exact hother rfl
    · exact hother rfl
    · split
      · rw [nesting_stepCall]
        split
        · exact Nesting.openings_cons nesting (Frame.openedAt_ofCall _ _ _)
        · exact hsame
      · dsimp only
        split
        · exact hother rfl
        · exact hsame

theorem openings_steps (nesting : Nesting) (statements : List Statement) :
    (source.steps nesting statements).2.openings.Sublist
      (nesting.openings ++ statements.map (·.line)) := by
  induction statements generalizing nesting with
  | nil => exact (List.append_nil nesting.openings).symm ▸ List.Sublist.refl _
  | cons statement rest ih =>
    have hrest := (ih (source.step nesting statement).2).trans
      ((openings_step nesting statement).append_right _)
    rwa [List.append_assoc] at hrest

theorem locations_of_unterminated (nesting : Nesting) :
    (source.unterminated nesting).map (·.location) = nesting.openings.map source.location := by
  simp only [unterminated, Nesting.openings, List.map_map]
  rfl

/-- What a scan finds is at the number of a statement. -/
theorem location_of_mem_scan {text : List Char} {finding : Finding} (h : finding ∈ source.scan text) :
    ∃ statement ∈ statements text, finding.location = source.location statement.line := by
  rcases List.mem_append.mp h with h | h
  · exact (location_of_mem_steps h).2
  · have hlocation : finding.location ∈ (source.steps [] (statements text)).2.openings.map
        source.location := by
      rw [← locations_of_unterminated]
      exact List.mem_map_of_mem h
    obtain ⟨line, hline, heq⟩ := List.mem_map.mp hlocation
    obtain ⟨statement, hstatement, rfl⟩ :=
      List.mem_map.mp ((openings_steps [] (statements text)).subset hline)
    exact ⟨statement, hstatement, heq.symm⟩

/-- What a scan finds is at a line of code of the file. -/
theorem standsAsCode_of_mem_scan {text : List Char} {finding : Finding} (h : finding ∈ source.scan text) :
    finding.location.file = source.path ∧ 1 ≤ finding.location.line ∧
      finding.location.line ≤ (lines text).length ∧
      ∃ before line, StandsAsCode (numberLines 1 (lines text)) before line ∧
        finding.location.line = line.number := by
  obtain ⟨statement, hstatement, hlocation⟩ := location_of_mem_scan h
  obtain ⟨before, line, hstands, hline⟩ := (statements_in_order text).2 statement hstatement
  obtain ⟨hnumber, hlength⟩ := number_eq_add_length hstands.stands
  have hfound : finding.location.line = line.number := (congrArg Location.line hlocation).trans hline
  exact ⟨congrArg Location.file hlocation, by omega, by omega, before, line, hstands, hfound⟩

/-- A scan tells of the statements of the file in their order, and then of each table block that is still
open, from the outermost one on. All of it is in the file and at lines of code. -/
theorem scan_in_order (source : Source) (text : List Char) :
    let (told, nesting) := source.steps [] (statements text)
    let blocks := source.unterminated nesting
    source.scan text = told ++ blocks ∧
      (∀ finding ∈ source.scan text, finding.location.file = source.path ∧
        1 ≤ finding.location.line ∧ finding.location.line ≤ (lines text).length ∧
        ∃ before line, StandsAsCode (numberLines 1 (lines text)) before line ∧
          finding.location.line = line.number) ∧
      (∀ finding ∈ told, finding.isUnterminated = false) ∧
      (told.map (·.location.line)).Pairwise (· ≤ ·) ∧
      (∀ finding ∈ blocks, finding.isUnterminated = true) ∧
      blocks.map (·.location) = nesting.tables.map (source.location ·.openedAt) ∧
      (blocks.map (·.location.line)).Pairwise (· ≤ ·) := by
  obtain ⟨hordered, -⟩ := statements_in_order text
  have hblocks := source.locations_of_unterminated (source.steps [] (statements text)).2
  refine ⟨rfl, fun finding => standsAsCode_of_mem_scan,
    fun finding hfinding => (location_of_mem_steps hfinding).1, lines_of_steps hordered [],
    fun finding hfinding => ?_, ?_, ?_⟩
  · obtain ⟨block, -, rfl⟩ := List.mem_map.mp hfinding
    rfl
  · rw [hblocks, Nesting.openings, List.map_map]
    rfl
  · have hlines := congrArg (List.map Location.line) hblocks
    simp only [List.map_map, Function.comp_def, location, List.map_id'] at hlines
    rw [hlines]
    exact hordered.sublist (openings_steps [] (statements text))

end Source

/-- The lines of events count from one. -/
theorem line_pos_of_mem_read {source : Source} {text : List Char} {event : Event}
    (h : event ∈ (File.read source text).events) : 0 < event.location.line := by
  obtain ⟨finding, hfinding, hevent⟩ := List.mem_filterMap.mp h
  cases finding with
  | event found =>
    cases hevent
    exact (Source.standsAsCode_of_mem_scan hfinding).2.1
  | diagnostic found => cases hevent

end ForeignKeyLint.Migration
