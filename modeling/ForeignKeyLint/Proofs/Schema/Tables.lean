import ForeignKeyLint.Proofs.Schema.Part

/-!
Operations on different tables. Tables are chosen so that no rename of a table leads out of the choice
or into it. Then every operation acts within the part of the chosen tables or outside of it, and what
a history makes of the chosen tables is what its operations on these tables make of them.

Histories about different tables can change places. They lead to schemas that are alike, with the same
columns and the same indexes in some order, and every event keeps schemas alike.
-/

namespace ForeignKeyLint.Schema

/-- The columns and indexes of chosen tables. -/
def Part.ofTables (chosen : String → Bool) : Part where
  column key := chosen key.table
  index index := chosen index.table

namespace Operation

/-- All tables that the operation mentions are chosen. -/
def isOn (chosen : String → Bool) (operation : Operation) : Bool :=
  operation.tables.all chosen

/-- A table stays inside or outside of the choice when it is renamed. -/
def isUndivided (chosen : String → Bool) : Operation → Bool
  | .renameTable source target => chosen source == chosen target
  | _ => true

variable {chosen : String → Bool} {operation : Operation}

theorem actsWithin_ofTables (h : operation.isOn chosen = true) :
    operation.ActsWithin (.ofTables chosen) := by
  cases operation <;> simp_all [isOn, tables, ActsWithin, Part.ofTables]

theorem actsOutside_ofTables (h : ∀ table ∈ operation.tables, chosen table = false) :
    operation.ActsOutside (.ofTables chosen) := by
  cases operation <;> simp_all [tables, ActsOutside, Part.ofTables]

/-- The tables of an operation are all chosen or all not chosen. -/
theorem eq_false_of_isUndivided (h : operation.isUndivided chosen = true)
    (hnot : operation.isOn chosen = false) : ∀ table ∈ operation.tables, chosen table = false := by
  cases operation <;> simp_all [isOn, isUndivided, tables]

theorem isUndivided_not (operation : Operation) (chosen : String → Bool) :
    operation.isUndivided (fun table => !chosen table) = operation.isUndivided chosen := by
  cases operation <;> simp [isUndivided]

end Operation

/-- What a history makes of chosen tables is what its operations on these tables make of them. -/
theorem Restricts.replay_ofTables {chosen : String → Bool} {whole rest : State}
    (h : Restricts (.ofTables chosen) whole rest) (hwhole : whole.columns.Sorted)
    (hrest : rest.columns.Sorted) {history : List Occurrence}
    (hundivided : ∀ occurrence ∈ history, occurrence.operation.isUndivided chosen = true) :
    Restricts (.ofTables chosen) (whole.replay history)
      (rest.replay (history.filter fun occurrence => occurrence.operation.isOn chosen)) := by
  apply h.replay hwhole hrest
  intro occurrence hmem
  constructor
  · exact Operation.actsWithin_ofTables
  · intro hoff
    exact Operation.actsOutside_ofTables
      (Operation.eq_false_of_isUndivided (hundivided occurrence hmem) hoff)

/-- The states have the same columns and, in some order, the same indexes. -/
structure Alike (first second : State) : Prop where
  columns : first.columns = second.columns
  indexes : ∀ index, index ∈ first.indexes ↔ index ∈ second.indexes

namespace Alike

variable {first second third : State}

theorem refl (state : State) : Alike state state :=
  ⟨rfl, fun _ => Iff.rfl⟩

theorem trans (h : Alike first second) (hnext : Alike second third) : Alike first third :=
  ⟨h.columns.trans hnext.columns, fun index => (h.indexes index).trans (hnext.indexes index)⟩

/-- One event, whatever it is, keeps states alike. -/
theorem apply (h : Alike first second) (origin : Origin) (event : Event) :
    Alike (first.apply origin event) (second.apply origin event) := by
  obtain ⟨operation, location⟩ := event
  cases operation with
  | defineTable table => exact h
  | dropTable table =>
    constructor
    · simp only [State.apply, State.dropTable, h.columns]
    · simp [State.apply, State.dropTable, h.indexes]
  | renameTable source target =>
    constructor
    · simp only [State.apply, State.renameTable, h.columns]
    · simp [State.apply, State.renameTable, h.indexes]
  | declareColumn table column kind inlineIndex =>
    constructor
    · simp only [State.apply, State.columns_declare, h.columns]
    · exact h.indexes
  | retypeColumn table column kind =>
    constructor
    · simp only [State.apply, State.columns_retype, h.columns]
    · simpa [State.apply, State.indexes_retype] using h.indexes
  | renameColumn table source target =>
    constructor
    · simp only [State.apply, State.columns_renameColumn, h.columns]
    · simp [State.apply, State.renameColumn, h.indexes]
  | removeColumn table column =>
    constructor
    · simp only [State.apply, State.removeColumn, h.columns]
    · simp [State.apply, State.removeColumn, h.indexes]
  | addIndex table columns =>
    constructor
    · simp only [State.apply, State.columns_addIndex, h.columns]
    · simp [State.apply, State.mem_addIndex, h.indexes]

/-- A whole history keeps states alike. -/
theorem replay (h : Alike first second) (history : List Occurrence) :
    Alike (first.replay history) (second.replay history) := by
  induction history generalizing first second with
  | nil => exact h
  | cons occurrence rest ih => exact ih (h.apply occurrence.origin occurrence.event)

/-- States are alike when they are the same on chosen tables and on the others. -/
theorem of_restricts {chosen : String → Bool} {inside outside : State}
    (hfirst : first.columns.Sorted) (hsecond : second.columns.Sorted)
    (hinsideFirst : Restricts (.ofTables chosen) first inside)
    (hinsideSecond : Restricts (.ofTables chosen) second inside)
    (houtsideFirst : Restricts (.ofTables fun table => !chosen table) first outside)
    (houtsideSecond : Restricts (.ofTables fun table => !chosen table) second outside) :
    Alike first second where
  columns := by
    apply hfirst.ext hsecond
    intro key
    cases hkey : chosen key.table with
    | true =>
      have hsame := (hinsideFirst.columns key).symm.trans (hinsideSecond.columns key)
      simpa [Part.ofTables, hkey] using hsame
    | false =>
      have hsame := (houtsideFirst.columns key).symm.trans (houtsideSecond.columns key)
      simpa [Part.ofTables, hkey] using hsame
  indexes index := by
    have hinside := congrArg (index ∈ ·) (hinsideFirst.indexes.symm.trans hinsideSecond.indexes)
    have houtside := congrArg (index ∈ ·) (houtsideFirst.indexes.symm.trans houtsideSecond.indexes)
    cases hindex : chosen index.table with
    | true => simpa [Part.ofTables, hindex] using hinside
    | false => simpa [Part.ofTables, hindex] using houtside

end Alike

/-- The tables that a history mentions. -/
def tablesOf (history : List Occurrence) : List String :=
  history.flatMap fun occurrence => occurrence.operation.tables

theorem mem_tablesOf {history : List Occurrence} {occurrence : Occurrence} {table : String}
    (hmem : occurrence ∈ history) (htable : table ∈ occurrence.operation.tables) :
    table ∈ tablesOf history :=
  List.mem_flatMap.mpr ⟨occurrence, hmem, htable⟩

namespace Restricts

variable {chosen : String → Bool} {whole rest : State} {history : List Occurrence}

theorem replay_on (h : Restricts (.ofTables chosen) whole rest) (hwhole : whole.columns.Sorted)
    (hrest : rest.columns.Sorted) (hon : ∀ table ∈ tablesOf history, chosen table = true) :
    Restricts (.ofTables chosen) (whole.replay history) (rest.replay history) := by
  have hreplay := h.replay hwhole hrest (fun _ => true) history
  rw [List.filter_true] at hreplay
  apply hreplay
  intro occurrence hmem
  refine ⟨fun _ => Operation.actsWithin_ofTables ?_, fun hfalse => absurd hfalse (by simp)⟩
  rw [Operation.isOn, List.all_eq_true]
  intro table htable
  exact hon table (mem_tablesOf hmem htable)

theorem replay_off (h : Restricts (.ofTables chosen) whole rest) (hwhole : whole.columns.Sorted)
    (hrest : rest.columns.Sorted) (hoff : ∀ table ∈ tablesOf history, chosen table = false) :
    Restricts (.ofTables chosen) (whole.replay history) rest := by
  have hreplay := h.replay hwhole hrest (fun _ => false) history
  rw [List.filter_false] at hreplay
  apply hreplay
  intro occurrence hmem
  refine ⟨fun htrue => absurd htrue (by simp), fun _ => Operation.actsOutside_ofTables ?_⟩
  intro table htable
  exact hoff table (mem_tablesOf hmem htable)

/-- A history on chosen tables and one on other tables leave the same in the chosen tables, in either
order. -/
theorem replay_either_order (h : Restricts (.ofTables chosen) whole rest)
    (hwhole : whole.columns.Sorted) (hrest : rest.columns.Sorted) {on off : List Occurrence}
    (hon : ∀ table ∈ tablesOf on, chosen table = true)
    (hoff : ∀ table ∈ tablesOf off, chosen table = false) :
    Restricts (.ofTables chosen) (whole.replay (on ++ off)) (rest.replay on) ∧
      Restricts (.ofTables chosen) (whole.replay (off ++ on)) (rest.replay on) := by
  rw [State.replay_append, State.replay_append]
  constructor
  · exact (h.replay_on hwhole hrest hon).replay_off (State.sorted_replay hwhole on)
      (State.sorted_replay hrest on) hoff
  · exact (h.replay_off hwhole hrest hoff).replay_on (State.sorted_replay hwhole off) hrest hon

end Restricts

/-- Histories that mention no table in common can change places. -/
theorem alike_replay_append_comm {state : State} (hsorted : state.columns.Sorted)
    {first second : List Occurrence} (hdisjoint : (tablesOf first).Disjoint (tablesOf second)) :
    Alike (state.replay (first ++ second)) (state.replay (second ++ first)) := by
  let chosen (table : String) : Bool := table ∈ tablesOf first
  have hfirst : ∀ table ∈ tablesOf first, chosen table = true := fun table hmem =>
    decide_eq_true hmem
  have hsecond : ∀ table ∈ tablesOf second, chosen table = false := fun table hmem =>
    decide_eq_false fun hother => hdisjoint hother hmem
  have hinside := Restricts.filtered (.ofTables chosen) state
  have houtside := Restricts.filtered (.ofTables fun table => !chosen table) state
  obtain ⟨hin, hin'⟩ := hinside.replay_either_order hsorted (hsorted.filter _) hfirst hsecond
  obtain ⟨hout, hout'⟩ := houtside.replay_either_order hsorted (hsorted.filter _)
    (fun table hmem => by simp [hsecond table hmem]) (fun table hmem => by simp [hfirst table hmem])
  exact .of_restricts (State.sorted_replay hsorted _) (State.sorted_replay hsorted _) hin hin' hout'
    hout

/-- Histories of which no two mention the same table can be replayed in any order. -/
theorem alike_replay_of_perm {histories reordered : List (List Occurrence)}
    (hperm : histories.Perm reordered)
    (hdisjoint : histories.Pairwise fun first second => (tablesOf first).Disjoint (tablesOf second))
    {state : State} (hsorted : state.columns.Sorted) :
    Alike (state.replay histories.flatten) (state.replay reordered.flatten) := by
  induction hperm generalizing state with
  | nil => exact .refl _
  | cons history _ ih =>
    rw [List.flatten_cons, List.flatten_cons, State.replay_append, State.replay_append]
    exact ih hdisjoint.of_cons (State.sorted_replay hsorted history)
  | swap first second others =>
    have hneighbours := (List.pairwise_cons.mp hdisjoint).1 first List.mem_cons_self
    have hcomm := alike_replay_append_comm hsorted hneighbours
    simp only [List.flatten_cons, ← List.append_assoc]
    rw [State.replay_append _ _ others.flatten, State.replay_append _ _ others.flatten]
    exact hcomm.replay others.flatten
  | trans hleft _ ihleft ihright =>
    have hmiddle := (hleft.pairwise_iff fun h => h.symm).mp hdisjoint
    exact (ihleft hdisjoint hsorted).trans (ihright hmiddle hsorted)

end ForeignKeyLint.Schema
