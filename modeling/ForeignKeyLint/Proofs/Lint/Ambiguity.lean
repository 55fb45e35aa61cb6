import ForeignKeyLint.Proofs.Lint.Reported
import ForeignKeyLint.Proofs.Schema.Lineage

/-!
Which diagnostics a verdict tells. Those of the snapshot come first and those of the files follow in
order. Then, when nothing is renamed, there is exactly one for each change of type whose column no
declaration names, before it or after it, in the order of the history.

A replay notes a change of type when the record of its column does not count as declared, and drops
and removals forget that it does. So it may note changes of declared columns, which are left out in the
end, and it must not miss one of an undeclared column: a record counts as declared only if some
declaration has named its column.
-/

namespace ForeignKeyLint

namespace Schema

/-- The column that the operation declares. -/
def Operation.declares? : Operation → Option ColumnKey
  | .declareColumn table column _ _ => some { table, column }
  | _ => none

/-- The change of type that an event is. -/
def Event.retype? (event : Event) : Option Retype :=
  match event.operation with
  | .retypeColumn table column kind => some { key := { table, column }, kind, location := event.location }
  | _ => none

/-- The columns that declarations of a history name, in order. -/
def declaredKeys (history : List Occurrence) : List ColumnKey :=
  history.filterMap fun occurrence => occurrence.operation.declares?

namespace State

theorem declared_apply (state : State) (origin : Origin) (event : Event) :
    (state.apply origin event).declared = state.declared ++ event.operation.declares?.toList := by
  unfold apply
  cases event.operation with
  | retypeColumn table column kind =>
    simp only [retype, Operation.declares?]
    cases state.columns.find? { table, column } <;> simp
  | addIndex table columns =>
    simp only [addIndex, Operation.declares?]
    split <;> simp
  | _ => simp [Operation.declares?, dropTable, renameTable, declare, renameColumn, removeColumn]

/-- Every declaration notes its column, whatever happens to it later. -/
theorem declared_replay (history : List Occurrence) :
    (State.replay {} history).declared = declaredKeys history := by
  induction history using List.reverseRecOn with
  | nil => rfl
  | append_singleton history last ih =>
    rw [replay_concat, declared_apply, ih, declaredKeys, declaredKeys, List.filterMap_append]
    cases hdeclares : last.event.operation.declares? <;> simp [Occurrence.operation, hdeclares]

/-- A change of type is noted unless the record of its column counts as declared. -/
theorem undeclaredRetypes_apply (state : State) (origin : Origin) (event : Event) :
    (state.apply origin event).undeclaredRetypes =
      state.undeclaredRetypes ++ event.retype?.toList.filter fun change =>
        !(state.columns.find? change.key).any (·.declared) := by
  unfold apply Event.retype?
  cases event.operation with
  | retypeColumn table column kind =>
    simp only [retype, Option.toList_some, List.filter_singleton]
    cases state.columns.find? { table, column } with
    | none => rfl
    | some known => cases hdeclared : known.declared <;> simp [hdeclared]
  | addIndex table columns =>
    simp only [addIndex]
    split <;> simp
  | _ => simp [dropTable, renameTable, declare, renameColumn, removeColumn]

end State

/-- Without renames, a record counts as declared only if a declaration names its column. -/
theorem mem_declaredKeys_of_declared (history : List Occurrence)
    (hrename : ∀ occurrence ∈ history, occurrence.operation.isRename = false) {key : ColumnKey}
    {column : Column} (hfound : (State.replay {} history).columns.find? key = some column)
    (hdeclared : column.declared = true) : key ∈ declaredKeys history := by
  rw [(tracesTo_lineage hfound).declared, lineage_eq_life history hrename, List.any_eq_true]
    at hdeclared
  obtain ⟨occurrence, hlife, hdeclares⟩ := hdeclared
  obtain ⟨hmem, hshapes⟩ := List.mem_filter.mp hlife
  refine List.mem_filterMap.mpr ⟨occurrence, (List.rtakeWhile_suffix _ _).subset hmem, ?_⟩
  cases hop : occurrence.operation with
  | declareColumn table name kind inlineIndex =>
    simpa [hop, Operation.shapes?, Operation.declares?] using hshapes
  | _ => simp [hop, Operation.declaration?] at hdeclares

/-- The changes of type in a history, in order. -/
def retypes (history : List Occurrence) : List Retype :=
  history.filterMap fun occurrence => occurrence.event.retype?

/-- Among the columns that no declaration names, every change of type is noted. -/
theorem filter_undeclaredRetypes (history : List Occurrence)
    (hrename : ∀ occurrence ∈ history, occurrence.operation.isRename = false)
    (undeclared : ColumnKey → Bool)
    (h : ∀ key ∈ declaredKeys history, undeclared key = false) :
    ((State.replay {} history).undeclaredRetypes.filter fun change => undeclared change.key) =
      (retypes history).filter fun change => undeclared change.key := by
  induction history using List.reverseRecOn with
  | nil => rfl
  | append_singleton history last ih =>
    have hrename' : ∀ occurrence ∈ history, occurrence.operation.isRename = false :=
      fun occurrence hmem => hrename occurrence (by simp [hmem])
    have hearlier : ∀ key ∈ declaredKeys history, undeclared key = false := by
      intro key hmem
      apply h
      rw [declaredKeys, List.filterMap_append]
      exact List.mem_append_left _ hmem
    -- The last change is passed over only if its column is declared, and then it does not count.
    have hlast : ∀ change : Retype, undeclared change.key = true →
        ((State.replay {} history).columns.find? change.key).any (·.declared) = false := by
      intro change hundeclared
      cases hfound : (State.replay {} history).columns.find? change.key with
      | none => rfl
      | some column =>
        rw [Option.any_some, Bool.eq_false_iff]
        intro hdeclared
        have hknown := hearlier _ (mem_declaredKeys_of_declared history hrename' hfound hdeclared)
        rw [hknown] at hundeclared
        contradiction
    have hretypes : retypes (history ++ [last]) = retypes history ++ last.event.retype?.toList := by
      rw [retypes, List.filterMap_append, retypes]
      cases hretype : last.event.retype? <;> simp [hretype]
    rw [State.replay_concat, State.undeclaredRetypes_apply, hretypes, List.filter_append,
      List.filter_append, ih hrename' hearlier, List.filter_filter]
    congr 1
    apply List.filter_congr
    intro change _
    cases hundeclared : undeclared change.key with
    | false => rfl
    | true => simp [hlast change hundeclared]

/-- Without renames, the ambiguous changes of type are those of columns that no declaration names. -/
theorem ambiguousRetypes_replay (history : List Occurrence)
    (hrename : ∀ occurrence ∈ history, occurrence.operation.isRename = false) :
    (State.replay {} history).ambiguousRetypes =
      (retypes history).filter fun change => !(declaredKeys history).contains change.key := by
  rw [State.ambiguousRetypes, State.declared_replay]
  apply filter_undeclaredRetypes history hrename fun key => !(declaredKeys history).contains key
  intro key hmem
  simp [hmem]

end Schema

namespace Lint

open Migration Schema

/-- The complaint about an event of a history: it changes the type of a column that no declaration
names. -/
def ambiguity? (history : List Occurrence) (occurrence : Occurrence) : Option Diagnostic :=
  match occurrence.operation with
  | .retypeColumn table column kind =>
    if { table, column } ∈ declaredKeys history then none
    else some {
      kind := .ambiguousRetype
      location := occurrence.event.location
      message := table ++ "." ++ column ++ " changes type but was never declared; assuming " ++
        kind.name }
  | _ => none

/-- When nothing is renamed, a verdict tells the diagnostics of its inputs in order, and then complains
once about each change of type whose column no declaration names. -/
theorem diagnostics_check (policy : Policy) (snapshot : Snapshot) (files : List File)
    (hsnapshot : ∀ event ∈ snapshot.events, event.operation.isRename = false)
    (hfiles : ∀ file ∈ files, ∀ event ∈ file.events, event.operation.isRename = false) :
    (policy.check snapshot files).diagnostics =
      snapshot.diagnostics ++ files.flatMap (·.diagnostics) ++
        (history snapshot files).filterMap (ambiguity? (history snapshot files)) := by
  have hrename := isRename_of_mem_history hsnapshot hfiles
  change snapshot.diagnostics ++ files.flatMap (·.diagnostics) ++
    (finalState snapshot files).ambiguousRetypes.map ambiguity = _
  rw [finalState_eq_replay, ambiguousRetypes_replay _ hrename, retypes, List.filter_filterMap,
    List.map_filterMap]
  congr 2
  funext occurrence
  unfold ambiguity? Event.retype? Occurrence.operation
  cases occurrence.event.operation with
  | retypeColumn table column kind =>
    by_cases hdeclared : { table, column } ∈ declaredKeys (history snapshot files) <;>
      simp [Option.filter, hdeclared, ambiguity]
  | _ => rfl

/-- A snapshot with a declared column, and a statement that means nothing. -/
def labelSnapshot : Snapshot where
  events := [
    { operation := .declareColumn "albums" "label_id" .bigint .unspecified
      location := { file := ⟨"schema.rb"⟩, line := 1 } }]
  diagnostics := [
    { kind := .parseSkip, location := { file := ⟨"schema.rb"⟩, line := 2 }
      message := "unrecognized statement: x" }]

/-- A file that drops the table and changes the types of three columns: one that the snapshot declares,
one that is declared too late, and one that is declared nowhere and comes twice. -/
def retypingFile : File where
  path := ⟨"1.rb"⟩
  events := [
    { operation := .dropTable "albums", location := { file := ⟨"1.rb"⟩, line := 1 } },
    { operation := .retypeColumn "albums" "label_id" .integer
      location := { file := ⟨"1.rb"⟩, line := 2 } },
    { operation := .retypeColumn "albums" "genre_id" .bigint
      location := { file := ⟨"1.rb"⟩, line := 3 } },
    { operation := .retypeColumn "albums" "artist_id" .bigint
      location := { file := ⟨"1.rb"⟩, line := 4 } },
    { operation := .declareColumn "albums" "artist_id" .integer .requested
      location := { file := ⟨"1.rb"⟩, line := 5 } },
    { operation := .removeColumn "albums" "genre_id"
      location := { file := ⟨"1.rb"⟩, line := 6 } },
    { operation := .retypeColumn "albums" "genre_id" .string
      location := { file := ⟨"1.rb"⟩, line := 7 } }]
  diagnostics := []

theorem diagnostics_check_retypingFile :
    let complaint (line : Nat) (kind : String) : Diagnostic :=
      { kind := .ambiguousRetype, location := { file := ⟨"1.rb"⟩, line }
        message := "albums.genre_id changes type but was never declared; assuming " ++ kind }
    (Policy.check {} labelSnapshot [retypingFile]).diagnostics =
      labelSnapshot.diagnostics ++ [complaint 3 "bigint", complaint 7 "string"] := by
  intro complaint
  rw [diagnostics_check {} labelSnapshot [retypingFile] (by decide) (by decide)]
  decide

end Lint

end ForeignKeyLint
