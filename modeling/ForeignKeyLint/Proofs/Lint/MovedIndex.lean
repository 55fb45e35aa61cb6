import ForeignKeyLint.Proofs.Lint.AddedIndex

/-!
An index counts the same wherever it is written. An added index can be moved, across the ends of files
and out of the snapshot or into it, as long as it passes no event that drops, renames or removes
something, and the verdict stays what it was.

The move is not without trace: the list of indexes keeps another order, and of two equal indexes the
other one is the one that was not added. So the two runs are compared up to the order of their
indexes, in which each schema covers the other. Passing one event of the kinds allowed keeps them so,
and so does every event after the move, of whatever kind.
-/

namespace ForeignKeyLint

namespace Schema

/-- The operation acts on the indexes that are there when it comes, or on the columns they name. -/
def Operation.actsOnIndexes : Operation → Bool
  | .dropTable _ | .renameTable .. | .renameColumn .. | .removeColumn .. => true
  | .defineTable _ | .declareColumn .. | .retypeColumn .. | .addIndex .. => false

namespace State

/-- The schemas are the same up to the order of their indexes. -/
structure Reorders (first second : State) : Prop where
  covers : Covers first second
  covered : Covers second first

namespace Reorders

variable {first second third : State}

theorem refl (state : State) : Reorders state state :=
  ⟨.refl state, .refl state⟩

theorem trans (h : Reorders first second) (hnext : Reorders second third) : Reorders first third :=
  ⟨h.covers.trans hnext.covers, hnext.covered.trans h.covered⟩

/-- A whole history keeps the relation, whatever its events are. -/
theorem replay (h : Reorders first second) (history : List Occurrence) :
    Reorders (first.replay history) (second.replay history) :=
  ⟨h.covers.replay history, h.covered.replay history⟩

end Reorders

theorem reorders_of_eq {first second : State} (h : first = second) : Reorders first second :=
  h ▸ .refl first

theorem declare_addIndex (state : State) (index : Index) (origin : Origin) (key : ColumnKey)
    (kind : Kind) (inlineIndex : InlineIndex) (location : Location) :
    (state.addIndex index).declare origin key kind inlineIndex location =
      (state.declare origin key kind inlineIndex location).addIndex index := by
  have hindexes : (state.declare origin key kind inlineIndex location).indexes = state.indexes := rfl
  rw [addIndex, addIndex, hindexes]
  by_cases hknown : state.indexes.contains index = true
  · rw [if_pos hknown, if_pos hknown]
  · rw [if_neg hknown, if_neg hknown]
    rfl

theorem retype_addIndex (state : State) (index : Index) (origin : Origin) (change : Retype) :
    (state.addIndex index).retype origin change = (state.retype origin change).addIndex index := by
  rw [addIndex, addIndex, indexes_retype]
  by_cases hknown : state.indexes.contains index = true
  · rw [if_pos hknown, if_pos hknown]
  · rw [if_neg hknown, if_neg hknown, retype, retype]
    cases state.columns.find? change.key <;> rfl

/-- Of two indexes it does not matter which one is added first. -/
theorem covers_addIndex_comm (state : State) (index other : Index) :
    Covers ((state.addIndex index).addIndex other) ((state.addIndex other).addIndex index) := by
  constructor
  · rw [addIndex_eq (state.addIndex index), addIndex_eq state index,
      addIndex_eq (state.addIndex other), addIndex_eq state other]
  · intro known hknown
    rw [mem_addIndex, mem_addIndex] at hknown ⊢
    exact or_right_comm.mp hknown

/-- One event that does not act on indexes can come before or after an index is added. -/
theorem reorders_apply_addIndex (state : State) (index : Index) (origin : Origin) {event : Event}
    (h : event.operation.actsOnIndexes = false) :
    Reorders ((state.addIndex index).apply origin event)
      ((state.apply origin event).addIndex index) := by
  obtain ⟨operation, location⟩ := event
  cases operation with
  | defineTable table => exact .refl _
  | declareColumn table column kind inlineIndex =>
    exact reorders_of_eq (declare_addIndex state index origin _ kind inlineIndex location)
  | retypeColumn table column kind => exact reorders_of_eq (retype_addIndex state index origin _)
  | addIndex table columns => exact ⟨covers_addIndex_comm _ _ _, covers_addIndex_comm _ _ _⟩
  | dropTable table => cases h
  | renameTable source target => cases h
  | renameColumn table source target => cases h
  | removeColumn table column => cases h

/-- An index passes a history of such events. -/
theorem reorders_replay_addIndex (state : State) (index : Index) {crossed : List Occurrence}
    (h : ∀ occurrence ∈ crossed, occurrence.operation.actsOnIndexes = false) :
    Reorders ((state.addIndex index).replay crossed) ((state.replay crossed).addIndex index) := by
  induction crossed generalizing state with
  | nil => exact .refl _
  | cons occurrence crossed ih =>
    have hstep := reorders_apply_addIndex state index occurrence.origin
      (h occurrence List.mem_cons_self)
    have hrest := ih (state.apply occurrence.origin occurrence.event)
      fun later hlater => h later (List.mem_cons_of_mem _ hlater)
    exact (hstep.replay crossed).trans hrest

end State

end Schema

namespace Lint

open Migration Schema

/-- The second snapshot and files are the first ones with an event moved on, from its place to a later
one, and `crossed` is what stands between the two places. -/
structure MovedPast (event : Event) (crossed : List Occurrence) (snapshot : Snapshot)
    (files : List File) (otherSnapshot : Snapshot) (otherFiles : List File) : Prop where
  /-- Without the event both are the same. -/
  common : ∃ rest restFiles, Inserted event rest restFiles snapshot files ∧
    Inserted event rest restFiles otherSnapshot otherFiles
  passes : ∃ before after origin otherOrigin,
    history snapshot files =
        before ++ { origin := origin, event := event } :: (crossed ++ after) ∧
      history otherSnapshot otherFiles =
        before ++ crossed ++ { origin := otherOrigin, event := event } :: after

section Move

variable {event : Event} {crossed : List Occurrence} {snapshot other : Snapshot}
  {files others : List File}

/-- The place of an added index is lost in the schema, up to the order of the indexes. -/
theorem MovedPast.reorders {table : String} {columns : List String}
    (h : MovedPast event crossed snapshot files other others)
    (hindex : event.operation = .addIndex table columns)
    (hcrossed : ∀ occurrence ∈ crossed, occurrence.operation.actsOnIndexes = false) :
    (finalState snapshot files).Reorders (finalState other others) := by
  obtain ⟨before, after, origin, otherOrigin, hfirst, hsecond⟩ := h.passes
  have hadds (state : State) (origin : Origin) :
      state.apply origin event = state.addIndex { table, columns } := by
    simp only [State.apply, hindex]
  have hpassed := State.reorders_replay_addIndex (State.replay {} before) { table, columns } hcrossed
  rw [finalState_eq_replay, finalState_eq_replay, hfirst, hsecond]
  have hreplay := hpassed.replay after
  rw [← hadds _ origin, ← hadds _ otherOrigin] at hreplay
  simpa [State.replay, List.foldl_append] using hreplay

theorem MovedPast.diagnostics (h : MovedPast event crossed snapshot files other others) :
    snapshot.diagnostics = other.diagnostics ∧
      files.flatMap (·.diagnostics) = others.flatMap (·.diagnostics) := by
  obtain ⟨rest, restFiles, hfirst, hsecond⟩ := h.common
  obtain ⟨hsnapshot, hfiles⟩ := hfirst.diagnostics
  obtain ⟨hother, hothers⟩ := hsecond.diagnostics
  exact ⟨hsnapshot.trans hother.symm, hfiles.trans hothers.symm⟩

/-- An event that is added adds no file. -/
theorem Inserted.length_files (h : Inserted event snapshot files other others) :
    others.length = files.length := by
  cases h with
  | intoSnapshot => rfl
  | intoFile => simp

theorem MovedPast.length_files (h : MovedPast event crossed snapshot files other others) :
    files.length = others.length := by
  obtain ⟨rest, restFiles, hfirst, hsecond⟩ := h.common
  exact hfirst.length_files.trans hsecond.length_files.symm

end Move

/-- Verdicts on as many files that relieve each other are the same. -/
theorem Verdict.Relieves.antisymm {first second : Verdict} (h : first.Relieves second)
    (hback : second.Relieves first) (hfiles : first.stats.files = second.stats.files) :
    first = second := by
  obtain ⟨violations, diagnostics, ⟨files, columnsTracked, foreignKeys, indexes⟩⟩ := first
  obtain ⟨others, otherDiagnostics, ⟨_, _, _, otherIndexes⟩⟩ := second
  have hviolations : violations = others := h.violations.antisymm hback.violations
  have hindexes : indexes = otherIndexes := Nat.le_antisymm hback.indexes h.indexes
  have hdiagnostics : diagnostics = otherDiagnostics := h.diagnostics
  have hcolumns := h.columnsTracked
  have hforeignKeys := h.foreignKeys
  simp only at hfiles hcolumns hforeignKeys
  rw [hviolations, hdiagnostics, hindexes, hfiles, hcolumns, hforeignKeys]

theorem MovedPast.check_eq {event : Event} {crossed : List Occurrence} {snapshot other : Snapshot}
    {files others : List File} {table : String} {columns : List String} (policy : Policy)
    (h : MovedPast event crossed snapshot files other others)
    (hindex : event.operation = .addIndex table columns)
    (hcrossed : ∀ occurrence ∈ crossed, occurrence.operation.actsOnIndexes = false) :
    policy.check snapshot files = policy.check other others := by
  have hreorders := h.reorders hindex hcrossed
  obtain ⟨hdiagnostics, hfileDiagnostics⟩ := h.diagnostics
  have hforth : (policy.check snapshot files).Relieves (policy.check other others) :=
    check_relieves hreorders.covers hdiagnostics hfileDiagnostics
  have hback : (policy.check other others).Relieves (policy.check snapshot files) :=
    check_relieves hreorders.covered hdiagnostics.symm hfileDiagnostics.symm
  exact hforth.antisymm hback h.length_files

/-- An added index that is moved on or back past events that do not act on indexes leaves the verdict
as it is, whatever comes before and after. -/
theorem check_with_moved_index (policy : Policy) {event : Event} {crossed : List Occurrence}
    {snapshot other : Snapshot} {files others : List File} {table : String} {columns : List String}
    (hindex : event.operation = .addIndex table columns)
    (hmoved : MovedPast event crossed snapshot files other others ∨
      MovedPast event crossed other others snapshot files)
    (hcrossed : ∀ occurrence ∈ crossed, occurrence.operation.actsOnIndexes = false) :
    policy.check snapshot files = policy.check other others := by
  rcases hmoved with hon | hback
  · exact hon.check_eq policy hindex hcrossed
  · exact (hback.check_eq policy hindex hcrossed).symm

def titleIndex : Event where
  operation := .addIndex "albums" ["artist_id", "title"]
  location := { file := ⟨"schema.rb"⟩, line := 9 }

/-- A file with an index on the same columns in the other order, and a change of type. -/
def reversedFile : File where
  path := ⟨"0.rb"⟩
  events := [
    { operation := .addIndex "albums" ["title", "artist_id"]
      location := { file := ⟨"0.rb"⟩, line := 1 } },
    { operation := .retypeColumn "albums" "artist_id" .integer
      location := { file := ⟨"0.rb"⟩, line := 2 } }]
  diagnostics := []

/-- The index goes from the start of the snapshot to the end of the first file. The two lists of
indexes end in different orders, after the second file has renamed the column and the table. -/
theorem check_with_moved_titleIndex :
    let snapshot : Snapshot := { albumSnapshot with events := titleIndex :: albumSnapshot.events }
    let files := [reversedFile, movingFile]
    let others := [{ reversedFile with events := reversedFile.events ++ [titleIndex] }, movingFile]
    let verdict := Policy.check {} snapshot files
    verdict = Policy.check {} albumSnapshot others ∧
      verdict.violations.map (·.column) = ["label_id"] ∧ verdict.stats.indexes = 1 ∧
      (finalState snapshot files).indexes ≠ (finalState albumSnapshot others).indexes := by
  intro snapshot files others verdict
  have hfirst : Inserted titleIndex albumSnapshot files snapshot files :=
    .intoSnapshot [] albumSnapshot.events rfl
  have hsecond : Inserted titleIndex albumSnapshot files albumSnapshot others :=
    .intoFile [] [movingFile] reversedFile reversedFile.events [] (List.append_nil _).symm
  have hmoved : MovedPast titleIndex
      (occurrences .snapshot albumSnapshot.events ++ occurrences .changeSet reversedFile.events)
      snapshot files albumSnapshot others :=
    ⟨⟨_, _, hfirst, hsecond⟩,
      [], occurrences .changeSet movingFile.events, .snapshot, .changeSet, rfl, rfl⟩
  exact ⟨check_with_moved_index {} rfl (.inl hmoved) (by decide), by decide, by decide, by decide⟩

end Lint

end ForeignKeyLint
