import ForeignKeyLint.Lint.Verdict
import ForeignKeyLint.Proofs.Schema.Life

/-!
Which columns a verdict reports. The check folds all events into records and indexes and looks at
these. For histories without renames the same columns are picked out by a reading of the events
alone: what the life of the column says, and which indexes survive.
-/

namespace ForeignKeyLint.Lint

open Migration Schema Text

/-- The events that a verdict folds: those of the snapshot, then those of each file. -/
def history (snapshot : Snapshot) (files : List File) : List Occurrence :=
  occurrences .snapshot snapshot.events ++ occurrences .changeSet (files.flatMap (·.events))

theorem finalState_eq_replay (snapshot : Snapshot) (files : List File) :
    finalState snapshot files = State.replay {} (history snapshot files) := by
  rw [finalState, State.applyAll_eq_replay, State.applyAll_eq_replay, history, State.replay_append]

theorem sorted_finalState (snapshot : Snapshot) (files : List File) :
    (finalState snapshot files).columns.Sorted := by
  rw [finalState_eq_replay]
  exact State.sorted_replay_empty _

/-- The violation that a column at fault gives rise to. -/
def Violation.ofEntry (entry : ColumnKey × Column) : Violation :=
  { table := entry.1.table, column := entry.1.column, kind := entry.2.kind
    location := entry.2.kindLocation, firstSeen := entry.2.firstSeen }

theorem violations_eq_map (policy : Policy) (state : State) :
    policy.violations state =
      (state.columns.filter fun entry => policy.isViolation state entry.1 entry.2).map
        Violation.ofEntry := rfl

/-- Some violation names the column. -/
def Verdict.Reports (verdict : Verdict) (key : ColumnKey) : Prop :=
  ∃ violation ∈ verdict.violations, violation.table = key.table ∧ violation.column = key.column

instance (verdict : Verdict) (key : ColumnKey) : Decidable (verdict.Reports key) :=
  inferInstanceAs (Decidable (∃ violation ∈ verdict.violations, _ ∧ _))

/-- A verdict reports the columns of the folded schema that the policy finds at fault. -/
theorem reports_iff_isViolation (policy : Policy) (snapshot : Snapshot) (files : List File)
    (key : ColumnKey) :
    (policy.check snapshot files).Reports key ↔
      ∃ column, (finalState snapshot files).columns.find? key = some column ∧
        policy.isViolation (finalState snapshot files) key column = true := by
  have hsorted := sorted_finalState snapshot files
  simp only [Verdict.Reports, Policy.check, violations_eq_map, List.mem_map, List.mem_filter]
  constructor
  · rintro ⟨_, ⟨⟨⟨table, name⟩, column⟩, ⟨hmem, hviolation⟩, rfl⟩, htable, hcolumn⟩
    obtain ⟨keyTable, keyName⟩ := key
    obtain rfl : table = keyTable := htable
    obtain rfl : name = keyName := hcolumn
    exact ⟨column, (hsorted.mem_iff _ _).mp hmem, hviolation⟩
  · rintro ⟨column, hfound, hviolation⟩
    exact ⟨_, ⟨(key, column), ⟨(hsorted.mem_iff _ _).mpr hfound, hviolation⟩, rfl⟩, rfl, rfl⟩

/-- The declaration provides for an index: it asks for one, or it is a reference that the policy
counts as indexed and that declines none. -/
def Policy.Provides (policy : Policy) (kind : Kind) (inlineIndex : InlineIndex) : Prop :=
  inlineIndex = .requested ∨
    (policy.referencesIndexedByDefault = true ∧ kind = .reference ∧ inlineIndex ≠ .declined)

/-- A foreign key without an index, as the events of a history tell it. -/
structure LacksIndex (policy : Policy) (history : List Occurrence) (key : ColumnKey) : Prop where
  alive : life key history ≠ []
  suffix : policy.foreignKeySuffix.toList <:+ key.column.toList
  keyShaped : ∃ kind, effectiveKind? (life key history) = some kind ∧
    (kind = .bigint ∨ kind = .integer ∨ kind = .reference)
  unprovided : ∃ kind inlineIndex, lastDeclaration? (life key history) = some (kind, inlineIndex) ∧
    ¬policy.Provides kind inlineIndex
  unindexed : ∀ index, index.table = key.table → index.leading? = some key.column →
    ¬Survives index history
  heeded : policy.isIgnored key = false
  inScope : policy.scope = .all ∨ ∃ occurrence ∈ life key history, occurrence.origin = .changeSet

theorem isKeyShaped_iff (kind : Kind) :
    kind.isKeyShaped = true ↔ kind = .bigint ∨ kind = .integer ∨ kind = .reference := by
  cases kind <;> simp [Kind.isKeyShaped]

theorem isServed_iff (policy : Policy) (state : State) (key : ColumnKey) (column : Column) :
    policy.isServed state key column = true ↔
      policy.Provides column.declaredKind column.inlineIndex ∨
        ∃ index ∈ state.indexes, index.table = key.table ∧ index.leading? = some key.column := by
  simp [Policy.isServed, Policy.Provides, State.hasLeadingIndex, and_assoc]

theorem exists_changeSet_iff (life : List Occurrence) :
    (life.any (·.origin.isChangeSet)) = true ↔
      ∃ occurrence ∈ life, occurrence.origin = .changeSet := by
  simp only [List.any_eq_true]
  refine exists_congr fun occurrence => and_congr_right fun _ => ?_
  cases occurrence.origin <;> simp [Origin.isChangeSet]

/-- What the policy asks of a recorded column, one condition for each of its checks. -/
theorem isViolation_iff (policy : Policy) (state : State) (key : ColumnKey) (column : Column) :
    policy.isViolation state key column = true ↔
      policy.foreignKeySuffix.toList <:+ key.column.toList ∧
      (column.kind = .bigint ∨ column.kind = .integer ∨ column.kind = .reference) ∧
      ¬policy.Provides column.declaredKind column.inlineIndex ∧
      (¬∃ index ∈ state.indexes, index.table = key.table ∧ index.leading? = some key.column) ∧
      policy.isIgnored key = false ∧
      (policy.scope = .all ∨ column.touched = true) := by
  have hserved : policy.isServed state key column = false ↔
      ¬policy.Provides column.declaredKind column.inlineIndex ∧
      ¬∃ index ∈ state.indexes, index.table = key.table ∧ index.leading? = some key.column := by
    rw [← Bool.not_eq_true, isServed_iff, not_or]
  have hsuffix : endsWith policy.foreignKeySuffix.toList key.column.toList = true ↔
      policy.foreignKeySuffix.toList <:+ key.column.toList := List.isSuffixOf_iff_suffix
  simp only [Policy.isViolation, Policy.isForeignKey, Policy.inScope, Bool.and_eq_true,
    Bool.not_eq_true', Bool.or_eq_true, decide_eq_true_eq, hsuffix, hserved, isKeyShaped_iff,
    and_assoc]

theorem isRename_of_mem_history {snapshot : Snapshot} {files : List File}
    (hsnapshot : ∀ event ∈ snapshot.events, event.operation.isRename = false)
    (hfiles : ∀ file ∈ files, ∀ event ∈ file.events, event.operation.isRename = false) :
    ∀ occurrence ∈ history snapshot files, occurrence.operation.isRename = false := by
  intro occurrence hmem
  simp only [history, occurrences, List.mem_append, List.mem_map, List.mem_flatMap] at hmem
  rcases hmem with ⟨event, hevent, rfl⟩ | ⟨event, ⟨file, hfile, hevent⟩, rfl⟩
  · exact hsnapshot event hevent
  · exact hfiles file hfile event hevent

/-- When nothing is renamed, a verdict reports exactly the columns that lack an index by the events
alone. -/
theorem reports_iff_lacksIndex (policy : Policy) (snapshot : Snapshot) (files : List File)
    (hsnapshot : ∀ event ∈ snapshot.events, event.operation.isRename = false)
    (hfiles : ∀ file ∈ files, ∀ event ∈ file.events, event.operation.isRename = false)
    (key : ColumnKey) :
    (policy.check snapshot files).Reports key ↔
      LacksIndex policy (history snapshot files) key := by
  have hrename := isRename_of_mem_history hsnapshot hfiles
  have hrecorded := recorded_replay (history snapshot files) hrename key
  have hindexes := mem_indexes_replay_iff (history snapshot files) hrename
  rw [reports_iff_isViolation, finalState_eq_replay]
  constructor
  · rintro ⟨column, hfound, hviolation⟩
    rw [hfound] at hrecorded
    obtain ⟨hsuffix, hkind, hprovides, hindexed, hignored, hscope⟩ :=
      (isViolation_iff _ _ _ _).mp hviolation
    exact {
      alive := hrecorded.alive
      suffix := hsuffix
      keyShaped := ⟨column.kind, hrecorded.effectiveKind, hkind⟩
      unprovided := ⟨_, _, hrecorded.declared, hprovides⟩
      unindexed := fun index htable hleading hsurvives =>
        hindexed ⟨index, (hindexes index).mpr hsurvives, htable, hleading⟩
      heeded := hignored
      inScope := hscope.imp_right fun htouched =>
        (exists_changeSet_iff _).mp (hrecorded.touched ▸ htouched) }
  · intro h
    cases hfound : (State.replay {} (history snapshot files)).columns.find? key with
    | none =>
      rw [hfound] at hrecorded
      exact absurd hrecorded h.alive
    | some column =>
      rw [hfound] at hrecorded
      -- The record agrees with the life of the column on what the two conditions below speak of.
      obtain ⟨kind, heffective, hshaped⟩ := h.keyShaped
      obtain ⟨declaredKind, inlineIndex, hdeclared, hprovides⟩ := h.unprovided
      obtain rfl : column.kind = kind :=
        Option.some.inj (hrecorded.effectiveKind.symm.trans heffective)
      obtain ⟨rfl, rfl⟩ : column.declaredKind = declaredKind ∧ column.inlineIndex = inlineIndex :=
        Prod.mk.inj (Option.some.inj (hrecorded.declared.symm.trans hdeclared))
      refine ⟨column, rfl, (isViolation_iff _ _ _ _).mpr
        ⟨h.suffix, hshaped, hprovides, ?_, h.heeded, h.inScope.imp_right ?_⟩⟩
      · rintro ⟨index, hindex, htable, hleading⟩
        exact h.unindexed index htable hleading ((hindexes index).mp hindex)
      · intro hchanged
        rw [hrecorded.touched]
        exact (exists_changeSet_iff _).mpr hchanged

/-- A snapshot whose column has an index of its own and leads another. -/
def servedSnapshot : Snapshot where
  events := [
    { operation := .declareColumn "albums" "comment_id" .bigint .requested
      location := { file := ⟨"schema.rb"⟩, line := 1 } },
    { operation := .addIndex "albums" ["comment_id", "artist_id"]
      location := { file := ⟨"schema.rb"⟩, line := 2 } }]

/-- A file that removes the column and brings it back, with a kind that a later declaration does not
override. -/
def revivingFile : File where
  path := ⟨"1.rb"⟩
  events := [
    { operation := .removeColumn "albums" "comment_id"
      location := { file := ⟨"1.rb"⟩, line := 1 } },
    { operation := .retypeColumn "albums" "comment_id" .integer
      location := { file := ⟨"1.rb"⟩, line := 2 } },
    { operation := .declareColumn "albums" "comment_id" .string .declined
      location := { file := ⟨"1.rb"⟩, line := 3 } }]
  diagnostics := []

/-- The removal takes both indexes away, and what comes after it makes the column a foreign key. -/
theorem revivedColumn_lacksIndex :
    LacksIndex {} (history servedSnapshot [revivingFile])
      { table := "albums", column := "comment_id" } := by
  refine (reports_iff_lacksIndex {} servedSnapshot [revivingFile] (by decide) (by decide) _).mp ?_
  let place : Location := { file := ⟨"1.rb"⟩, line := 2 }
  let violation : Violation :=
    { table := "albums", column := "comment_id", kind := .integer, location := place
      firstSeen := place }
  exact ⟨violation, by decide, rfl, rfl⟩

end ForeignKeyLint.Lint
