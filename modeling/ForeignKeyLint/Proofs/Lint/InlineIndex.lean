import ForeignKeyLint.Proofs.Lint.AddedIndex
import ForeignKeyLint.Proofs.Lint.Ambiguity
import ForeignKeyLint.Proofs.Lint.Independence
import ForeignKeyLint.Proofs.Schema.Touched

/-!
One text read as a snapshot and read as a file of the change set. The readings differ in two ways. A
snapshot leaves no column touched, which a policy that reports all columns does not look at. And it
adds an index after each declaration that asks for one, where the file leaves it at the flag of the
column. The index lives on its own: a rename takes it along, and a later declaration of the column
drops the flag but not the index. So the snapshot reports no more than the file. When nothing is
renamed and no column is declared twice, an index that only the snapshot has always belongs to a
column whose flag is still there, and the two report the same.
-/

namespace ForeignKeyLint

open Migration Schema

namespace Schema

/-- The index that a declaration asks for. -/
def Operation.requestedIndex? : Operation → Option Index
  | .declareColumn table column _ .requested => some { table, columns := [column] }
  | _ => none

theorem declares?_of_requestedIndex? {operation : Operation} {index : Index}
    (h : operation.requestedIndex? = some index) :
    ∃ table column kind, operation = .declareColumn table column kind .requested ∧
      index = { table, columns := [column] } := by
  cases operation with
  | declareColumn table column kind inlineIndex =>
    cases inlineIndex with
    | requested => exact ⟨table, column, kind, rfl, (Option.some.inj h).symm⟩
    | declined => cases h
    | unspecified => cases h
  | _ => cases h

/-- An index of one column goes with the column. -/
theorem destroys_eq_ends (operation : Operation) (key : ColumnKey) :
    operation.destroys { table := key.table, columns := [key.column] } = operation.ends key := by
  obtain ⟨table, column⟩ := key
  cases operation <;> simp [Operation.destroys, Operation.ends, eq_comm]

namespace State

theorem applyAll_append (state : State) (origin : Origin) (first second : List Event) :
    state.applyAll origin (first ++ second) =
      (state.applyAll origin first).applyAll origin second :=
  List.foldl_append

/-- An event and the index it asks for. -/
theorem applyAll_withInlineIndex (state : State) (origin : Origin) (event : Event) :
    state.applyAll origin (Snapshot.withInlineIndex event) =
      match event.operation.requestedIndex? with
      | some index => (state.apply origin event).addIndex index
      | none => state.apply origin event := by
  obtain ⟨operation, location⟩ := event
  cases operation with
  | declareColumn table column kind inlineIndex => cases inlineIndex <;> rfl
  | _ => rfl

variable {more less : State} {origin : Origin}

theorem Covers.applyAll_withInlineIndex (h : Covers more less) (event : Event) :
    Covers (more.applyAll origin (Snapshot.withInlineIndex event)) (less.apply origin event) := by
  have happly := h.apply origin event
  rw [State.applyAll_withInlineIndex]
  cases event.operation.requestedIndex? with
  | none => exact happly
  | some index => exact (covers_addIndex _ index).trans happly

/-- The indexes that declarations ask for cost nothing, whatever the events are. -/
theorem Covers.applyAll_flatMap (h : Covers more less) (events : List Event) :
    Covers (more.applyAll origin (events.flatMap Snapshot.withInlineIndex))
      (less.applyAll origin events) := by
  induction events generalizing more less with
  | nil => exact h
  | cons event events ih =>
    rw [List.flatMap_cons, applyAll_append]
    exact ih (h.applyAll_withInlineIndex event)

/-- The index is one that the declaration in force of its column asks for. -/
def Requests (state : State) (index : Index) : Prop :=
  ∃ key ∈ state.declared, index = { table := key.table, columns := [key.column] } ∧
    ∃ column, state.columns.find? key = some column ∧ column.inlineIndex = .requested

/-- The declaration of a column asks for its index from now on. -/
theorem requests_apply_of_requestedIndex? (state : State) {event : Event} {index : Index}
    (h : event.operation.requestedIndex? = some index) :
    (state.apply origin event).Requests index := by
  obtain ⟨table, column, kind, hdeclares, rfl⟩ := declares?_of_requestedIndex? h
  refine ⟨{ table, column }, ?_, rfl, _, state.find?_apply_of_declare origin hdeclares, ?_⟩
  · rw [declared_apply, hdeclares]
    simp [Operation.declares?]
  · cases state.columns.find? { table, column } <;> rfl

/-- A column keeps asking for its index until it is ended or declared again. -/
theorem Requests.apply {state : State} {index : Index} (h : state.Requests index) {event : Event}
    (hrename : event.operation.isRename = false) (hkept : event.operation.destroys index = false)
    (hfresh : ∀ key ∈ state.declared, event.operation.declares? ≠ some key) :
    (state.apply origin event).Requests index := by
  obtain ⟨key, hdeclared, rfl, column, hfound, hrequested⟩ := h
  rw [destroys_eq_ends] at hkept
  have hstill : key ∈ (state.apply origin event).declared := by
    rw [declared_apply]
    exact List.mem_append_left _ hdeclared
  by_cases hshapes : event.operation.shapes? = some key
  · cases hop : event.operation with
    | declareColumn table column kind inlineIndex =>
      rw [hop] at hshapes
      exact absurd (by rw [hop]; exact hshapes) (hfresh key hdeclared)
    | retypeColumn table name kind =>
      obtain rfl : { table, column := name } = key := by
        simpa [hop, Operation.shapes?] using hshapes
      have hafter := state.find?_apply_of_retype origin hop
      rw [hfound] at hafter
      exact ⟨_, hstill, rfl, _, hafter, hrequested⟩
    | _ => simp [hop, Operation.shapes?] at hshapes
  · have hafter := state.find?_apply_of_unrelated origin event key hrename hkept hshapes
    exact ⟨key, hstill, rfl, column, hafter.trans hfound, hrequested⟩

/-- The first schema covers the second, and what it has more are indexes that columns ask for. -/
structure Fulfils (more less : State) : Prop where
  covers : Covers more less
  requested : ∀ index ∈ more.indexes, index ∈ less.indexes ∨ less.Requests index

theorem Fulfils.refl (state : State) : Fulfils state state :=
  ⟨.refl state, fun _ => .inl⟩

/-- One event that renames nothing and declares no column again keeps the relation, when the index
it asks for is added to the first schema. -/
theorem Fulfils.applyAll_withInlineIndex (h : Fulfils more less) {event : Event}
    (hrename : event.operation.isRename = false)
    (hfresh : ∀ key ∈ less.declared, event.operation.declares? ≠ some key) :
    Fulfils (more.applyAll origin (Snapshot.withInlineIndex event)) (less.apply origin event) := by
  refine ⟨h.covers.applyAll_withInlineIndex event, ?_⟩
  have happly : ∀ index ∈ (more.apply origin event).indexes,
      index ∈ (less.apply origin event).indexes ∨ (less.apply origin event).Requests index := by
    intro index hmem
    rw [mem_indexes_apply _ _ _ _ hrename] at hmem ⊢
    rcases hmem with ⟨hmore, hkept⟩ | hadded
    · rcases h.requested index hmore with hless | hrequests
      · exact .inl (.inl ⟨hless, hkept⟩)
      · exact .inr (hrequests.apply hrename hkept hfresh)
    · exact .inl (.inr hadded)
  intro index hmem
  rw [State.applyAll_withInlineIndex] at hmem
  cases hasked : event.operation.requestedIndex? with
  | none =>
    rw [hasked] at hmem
    exact happly index hmem
  | some asked =>
    rw [hasked] at hmem
    rcases (mem_addIndex _ _ _).mp hmem with hmem | rfl
    · exact happly index hmem
    · exact .inr (requests_apply_of_requestedIndex? less hasked)

/-- Events that rename nothing and declare each column once keep the relation. -/
theorem Fulfils.applyAll_flatMap (h : Fulfils more less) {events : List Event}
    (hrename : ∀ event ∈ events, event.operation.isRename = false)
    (hnodup : (less.declared ++ events.filterMap (·.operation.declares?)).Nodup) :
    Fulfils (more.applyAll origin (events.flatMap Snapshot.withInlineIndex))
      (less.applyAll origin events) := by
  induction events generalizing more less with
  | nil => exact h
  | cons event events ih =>
    have hdeclared : less.declared ++ (event :: events).filterMap (·.operation.declares?) =
        (less.apply origin event).declared ++ events.filterMap (·.operation.declares?) := by
      rw [declared_apply, List.append_assoc]
      cases hdeclares : event.operation.declares? <;> simp [hdeclares]
    have hfresh : ∀ key ∈ less.declared, event.operation.declares? ≠ some key := by
      intro key hkey hdeclares
      have hagain : key ∈ (event :: events).filterMap (·.operation.declares?) :=
        List.mem_filterMap.mpr ⟨event, List.mem_cons_self, hdeclares⟩
      exact (List.nodup_append.mp hnodup).2.2 key hkey key hagain rfl
    rw [List.flatMap_cons, applyAll_append]
    rw [hdeclared] at hnodup
    exact ih (h.applyAll_withInlineIndex (hrename event List.mem_cons_self) hfresh)
      (fun later hlater => hrename later (List.mem_cons_of_mem _ hlater)) hnodup

end State

end Schema

namespace Lint

theorem violations_untouched {policy : Policy} (hscope : policy.scope = .all) (state : State) :
    policy.violations state.untouched = policy.violations state := by
  have hjudged (entry : ColumnKey × Column) :
      policy.isViolation state.untouched entry.1 entry.2.untouched =
        policy.isViolation state entry.1 entry.2 := by
    simp only [Policy.isViolation, Policy.inScope, hscope]
    rfl
  have hchosen : state.untouched.columns.filter
        (fun entry => policy.isViolation state.untouched entry.1 entry.2) =
      (state.columns.filter fun entry => policy.isViolation state entry.1 entry.2).map
        fun entry => (entry.1, entry.2.untouched) := by
    rw [State.untouched, ColumnTable.untouched, List.filter_map]
    exact congrArg _ (List.filter_congr fun entry _ => hjudged entry)
  rw [violations_eq_map, violations_eq_map, hchosen, List.map_map]
  rfl

theorem foreignKeys_untouched (policy : Policy) (state : State) :
    policy.foreignKeys state.untouched = policy.foreignKeys state := by
  simp only [Policy.foreignKeys, State.untouched, ColumnTable.untouched, List.filter_map,
    List.length_map]
  rfl

/-- A policy that reports all columns does not look at the marks. -/
theorem agrees_of_untouched {policy : Policy} (hscope : policy.scope = .all)
    {snapshot other : Snapshot} {files others : List File}
    (h : (finalState snapshot files).untouched = (finalState other others).untouched) :
    (policy.check snapshot files).Agrees (policy.check other others) := by
  have hlength (state : State) : state.untouched.columns.length = state.columns.length :=
    List.length_map _
  constructor
  · change policy.violations _ = policy.violations _
    rw [← violations_untouched hscope, h, violations_untouched hscope]
  · change List.length _ = List.length _
    rw [← hlength, h, hlength]
  · change policy.foreignKeys _ = policy.foreignKeys _
    rw [← foreignKeys_untouched, h, foreignKeys_untouched]
  · exact congrArg (fun state => countDistinct state.indexes) h

theorem Verdict.Relieves.trans_agrees {first second third : Verdict} (h : first.Relieves second)
    (hagrees : second.Agrees third) (hdiagnostics : second.diagnostics = third.diagnostics) :
    first.Relieves third where
  violations := hagrees.violations ▸ h.violations
  diagnostics := h.diagnostics.trans hdiagnostics
  columnsTracked := h.columnsTracked.trans hagrees.columnsTracked
  foreignKeys := h.foreignKeys.trans hagrees.foreignKeys
  indexes := hagrees.indexes ▸ h.indexes

/-- A column whose index is only in the first schema asks for it, and is at fault in neither. -/
theorem isViolation_of_fulfils {more less : State} (h : more.Fulfils less) {policy : Policy}
    {key : ColumnKey} {column : Column} (hfound : less.columns.find? key = some column)
    (hviolation : policy.isViolation less key column = true) :
    policy.isViolation more key column = true := by
  obtain ⟨hsuffix, hkind, hprovides, hindexed, hrest⟩ := (isViolation_iff _ _ _ _).mp hviolation
  refine (isViolation_iff _ _ _ _).mpr ⟨hsuffix, hkind, hprovides, ?_, hrest⟩
  rintro ⟨index, hindex, htable, hleading⟩
  rcases h.requested index hindex with hless | ⟨asking, -, rfl, known, hknown, hrequested⟩
  · exact hindexed ⟨index, hless, htable, hleading⟩
  · obtain ⟨table, name⟩ := asking
    obtain ⟨keyTable, keyName⟩ := key
    obtain rfl : table = keyTable := htable
    obtain rfl : name = keyName := by simpa [Index.leading?] using hleading
    obtain rfl : known = column := Option.some.inj (hknown.symm.trans hfound)
    exact hprovides (.inl hrequested)

theorem violations_of_fulfils {more less : State} (h : more.Fulfils less) (policy : Policy)
    (hsorted : less.columns.Sorted) : policy.violations more = policy.violations less := by
  rw [violations_eq_map, violations_eq_map, h.covers.columns]
  congr 1
  apply List.filter_congr
  intro entry hentry
  have hfound := (hsorted.mem_iff entry.1 entry.2).mp hentry
  rw [Bool.eq_iff_iff]
  exact ⟨isViolation_of_covers h.covers, isViolation_of_fulfils h hfound⟩

/-- The snapshot that has the events of a file and no index besides. -/
def plainSnapshot (file : File) : Snapshot where
  events := file.events
  diagnostics := file.diagnostics

theorem untouched_finalState_plainSnapshot (file : File) :
    (finalState (plainSnapshot file) []).untouched = (finalState {} [file]).untouched := by
  rw [finalState_eq_replay, finalState_eq_replay]
  apply State.untouched_replay_congr rfl
  simp [history, occurrences, plainSnapshot]

/-- A text read as a snapshot reports no column that it does not report as a file of the change set,
and it tells the same otherwise. Without renames and repeated declarations it reports the same. -/
theorem check_snapshot_or_file {policy : Policy} (hscope : policy.scope = .all) (source : Source)
    (text : List Char) :
    let file := File.read source text
    let asSnapshot := policy.check (Snapshot.read source text) []
    let asFile := policy.check {} [file]
    asSnapshot.Relieves asFile ∧
      ((∀ event ∈ file.events, event.operation.isRename = false) →
        (file.events.filterMap (·.operation.declares?)).Nodup →
        asSnapshot.violations = asFile.violations) := by
  intro file asSnapshot asFile
  have hmarks := untouched_finalState_plainSnapshot file
  have hagrees := agrees_of_untouched hscope hmarks
  constructor
  · have hcovers : (finalState (Snapshot.read source text) []).Covers
        (finalState (plainSnapshot file) []) :=
      (State.Covers.refl {}).applyAll_flatMap file.events
    have hrelieves : asSnapshot.Relieves (policy.check (plainSnapshot file) []) :=
      check_relieves hcovers rfl rfl
    have hambiguous := congrArg State.ambiguousRetypes hmarks
    refine hrelieves.trans_agrees hagrees ?_
    change _ ++ _ ++ (finalState (plainSnapshot file) []).untouched.ambiguousRetypes.map ambiguity =
      _ ++ _ ++ (finalState {} [file]).untouched.ambiguousRetypes.map ambiguity
    rw [hambiguous]
    simp [plainSnapshot]
  · intro hrename hnodup
    have hfulfils : (finalState (Snapshot.read source text) []).Fulfils
        (finalState (plainSnapshot file) []) :=
      (State.Fulfils.refl {}).applyAll_flatMap hrename hnodup
    have hsorted := sorted_finalState (plainSnapshot file) []
    exact (violations_of_fulfils hfulfils policy hsorted).trans hagrees.violations

/-- A schema with two columns that ask for an index. One of them is removed and comes back. -/
def albumSchema : List Char :=
  ("create_table :albums do |t|\n" ++
    "  t.bigint :artist_id, index: true\n" ++
    "  t.integer :label_id, index: true\n" ++
    "end\n" ++
    "remove_column :albums, :artist_id\n" ++
    "change_column :albums, :artist_id, :bigint\n").toList

/-- What is read of the schema. -/
def albumSchemaFile : File where
  path := ⟨"schema.rb"⟩
  events := [
    { operation := .defineTable "albums"
      location := { file := ⟨"schema.rb"⟩, line := 1 } },
    { operation := .declareColumn "albums" "artist_id" .bigint .requested
      location := { file := ⟨"schema.rb"⟩, line := 2 } },
    { operation := .declareColumn "albums" "label_id" .integer .requested
      location := { file := ⟨"schema.rb"⟩, line := 3 } },
    { operation := .removeColumn "albums" "artist_id"
      location := { file := ⟨"schema.rb"⟩, line := 5 } },
    { operation := .retypeColumn "albums" "artist_id" .bigint
      location := { file := ⟨"schema.rb"⟩, line := 6 } }]
  diagnostics := []

theorem read_albumSchema :
    File.read { path := ⟨"schema.rb"⟩ } albumSchema = albumSchemaFile := by
  decide +kernel

/-- The removal takes the flag and the index, so both readings report the column that comes back
without them. -/
theorem check_albumSchema :
    let source : Source := { path := ⟨"schema.rb"⟩ }
    let policy : Policy := { scope := .all }
    let asSnapshot := policy.check (Snapshot.read source albumSchema) []
    let asFile := policy.check {} [File.read source albumSchema]
    asSnapshot.Relieves asFile ∧ asSnapshot.violations = asFile.violations ∧
      asSnapshot.violations.map (·.column) = ["artist_id"] ∧
      asSnapshot.stats.indexes = 1 ∧ asFile.stats.indexes = 0 := by
  intro source policy asSnapshot asFile
  have hscope : policy.scope = .all := rfl
  obtain ⟨hrelieves, hequal⟩ := check_snapshot_or_file hscope source albumSchema
  simp only [source, read_albumSchema] at hequal
  have hviolations := hequal (by decide) (by decide)
  simp only [asSnapshot, asFile, source, Snapshot.read, read_albumSchema]
    at hviolations hrelieves ⊢
  exact ⟨hrelieves, hviolations, by decide +kernel, by decide +kernel, by decide +kernel⟩

end Lint

end ForeignKeyLint
