import ForeignKeyLint.Proofs.Migration.BlockForm

/-!
A statement is interpreted as a whole or not at all, and by one interpreter at most. The meaning of a
statement is either an effect or a fault by the way meanings are built. Here an interpretation is put
together piece by piece instead: whether the statement is recognized, the operations, the faults and
the block it opens are four fields that nothing keeps from contradicting each other, and a statement
that lacks something may be found out after some of its pieces are there. What comes out is the
meaning nevertheless, so the pieces never do contradict each other.
-/

namespace ForeignKeyLint.Migration

open Ruby Schema

/-- What is made of a statement, piece by piece. -/
structure Interpretation where
  recognized : Bool := false
  operations : List Operation := []
  faults : List (DiagnosticKind × String) := []
  /-- The table whose block the statement opens. -/
  opens : Option (String × TableMode) := none
deriving Repr, DecidableEq

namespace Interpretation

def unrecognized : Interpretation := {}

/-- A statement of a known form, of which nothing more is known so far. -/
def known : Interpretation := { recognized := true }

def withOperation (interpretation : Interpretation) (operation : Operation) : Interpretation :=
  { interpretation with operations := interpretation.operations ++ [operation] }

def withOperations (interpretation : Interpretation) (operations : List Operation) :
    Interpretation :=
  { interpretation with operations := interpretation.operations ++ operations }

def opening (interpretation : Interpretation) (table : String) (mode : TableMode) :
    Interpretation :=
  { interpretation with opens := some (table, mode) }

def diagnosed (kind : DiagnosticKind) (message : String) : Interpretation :=
  { recognized := true, faults := [(kind, message)] }

/-- A statement of a known form that lacks something it needs. -/
def malformed (message : String) : Interpretation :=
  diagnosed .malformedDeclaration message

/-- The interpretation is whole: nothing is made of a statement that is not recognized, and a
recognized one has no fault, or it has one and nothing else is made of it. -/
structure IsWhole (interpretation : Interpretation) : Prop where
  of_unrecognized : interpretation.recognized = false → interpretation = {}
  of_recognized : interpretation.recognized = true → interpretation.faults = [] ∨
    ∃ fault, interpretation.faults = [fault] ∧ interpretation.operations = [] ∧
      interpretation.opens = none

end Interpretation

/-- The interpretation that says what a meaning says. -/
def Meaning.interpretation : Meaning → Interpretation
  | .unrelated => {}
  | .effect operations opens => { recognized := true, operations, opens }
  | .fault kind message => { recognized := true, faults := [(kind, message)] }

theorem isWhole_interpretation (meaning : Meaning) : meaning.interpretation.IsWhole := by
  cases meaning with
  | unrelated => exact ⟨fun _ => rfl, fun h => nomatch h⟩
  | effect operations opens => exact ⟨fun h => (nomatch h), fun _ => .inl rfl⟩
  | fault kind message =>
    exact ⟨fun h => (nomatch h), fun _ => .inr ⟨(kind, message), rfl, rfl, rfl⟩⟩

section Interpreters

open Interpretation

/-- Opens the block of a table that is created, if the statement has a block. -/
def Interpretation.withBlock (interpretation : Interpretation) (call : Call) (table : String) :
    Interpretation :=
  if call.block.isSome then interpretation.opening table .create else interpretation

/-- The operations that a statement gives rise to for each of some names, of which it needs one. -/
def Interpretation.forNames (names : List String) (operations : String → List Operation)
    (fault : String) : Interpretation :=
  if names.isEmpty then malformed fault else known.withOperations (names.flatMap operations)

def Command.interpret (command : Command) (call : Call) : Interpretation :=
  match command with
  | .createTable =>
    match call.name? 0 with
    | some table => (known.withOperation (.defineTable table)).withBlock call table
    | none => malformed "create_table without a table name"
  | .createJoinTable =>
    match call.name? 0, call.name? 1 with
    | some a, some b =>
      let table := joinTableOf call a b
      let created := known.withOperation (.defineTable table)
      let declared := [a, b].foldl
        (fun found side => found.withOperation (joinColumn table side call)) created
      declared.withBlock call table
    | _, _ => malformed "create_join_table needs two table names"
  | .changeTable =>
    match call.name? 0 with
    | some table => known.opening table .change
    | none => malformed "change_table without a table name"
  | .addColumn =>
    match call.name? 0, call.name? 1, call.name? 2 with
    | some table, some column, some type =>
      known.withOperation (declaration table column (kindOf type) call)
    | _, _, _ => malformed "add_column needs a table, a column and a type"
  | .changeColumn =>
    match call.name? 0, call.name? 1, call.name? 2 with
    | some table, some column, some type =>
      known.withOperation (.retypeColumn table column (kindOf type))
    | _, _, _ => malformed "change_column needs a table, a column and a type"
  | .addReference =>
    match call.name? 0, call.name? 1 with
    | some table, some name => known.withOperations (reference table call name)
    | _, _ => malformed (call.method ++ " needs a table and a reference name")
  | .renameColumn =>
    match call.name? 0, call.name? 1, call.name? 2 with
    | some table, some source, some target =>
      known.withOperation (.renameColumn table source target)
    | _, _, _ => malformed "rename_column needs a table and two names"
  | .removeColumn =>
    match call.name? 0 with
    | some table =>
      forNames (call.name? 1).toList (fun column => [.removeColumn table column])
        (call.method ++ " without a column name")
    | none => malformed (call.method ++ " without a table name")
  | .removeColumns =>
    match call.name? 0 with
    | some table =>
      forNames (call.namesFrom 1) (fun column => [.removeColumn table column])
        (call.method ++ " without a column name")
    | none => malformed (call.method ++ " without a table name")
  | .removeReference =>
    match call.name? 0 with
    | some table =>
      forNames (call.namesFrom 1) (referenceRemoval table call)
        (call.method ++ " without a reference name")
    | none => malformed (call.method ++ " without a table name")
  | .dropTable =>
    match call.name? 0 with
    | some table => known.withOperation (.dropTable table)
    | none => malformed "drop_table without a table name"
  | .dropJoinTable =>
    match call.name? 0, call.name? 1 with
    | some a, some b => known.withOperation (.dropTable (joinTableOf call a b))
    | _, _ => malformed "drop_join_table needs two table names"
  | .renameTable =>
    match call.name? 0, call.name? 1 with
    | some source, some target => known.withOperation (.renameTable source target)
    | _, _ => malformed "rename_table needs two table names"

def BlockCommand.interpret (command : BlockCommand) (table : String) (call : Call) :
    Interpretation :=
  match command with
  | .declare =>
    match call.name? 0, call.name? 1 with
    | some column, some type =>
      known.withOperation (declaration table column (kindOf type) call)
    | _, _ => malformed "column needs a name and a type"
  | .references =>
    forNames (call.namesFrom 0) (reference table call) (call.method ++ " without a reference name")
  | .change =>
    match call.name? 0, call.name? 1 with
    | some column, some type => known.withOperation (.retypeColumn table column (kindOf type))
    | _, _ => malformed "change needs a column and a type"
  | .rename =>
    match call.name? 0, call.name? 1 with
    | some source, some target => known.withOperation (.renameColumn table source target)
    | _, _ => malformed "rename needs two column names"
  | .remove =>
    forNames (call.namesFrom 0) (fun column => [.removeColumn table column])
      "remove without a column name"
  | .removeReferences =>
    forNames (call.namesFrom 0) (referenceRemoval table call)
      (call.method ++ " without a reference name")
  | .typed kind =>
    forNames (call.namesFrom 0) (fun column => [declaration table column kind call])
      (call.method ++ " column without a name")

/-- The interpreter of statements about tables and columns. -/
def interpretColumns (block : Option TableBlock) (call : Call) : Interpretation :=
  match block.filter fun block => call.receiver = some block.parameter with
  | some block =>
    match BlockCommand.ofMethod? block.mode call.method with
    | some command => command.interpret block.name call
    | none => unrecognized
  | none =>
    if call.receiver = none then
      match Command.ofMethod? call.method with
      | some command => command.interpret call
      | none => unrecognized
    else unrecognized

def interpretIndex (table : String) (argument : Option Value) : Interpretation :=
  match argument with
  | none => malformed "index without columns"
  | some value =>
    match value.asNames? with
    | some names =>
      if !names.isEmpty && names.all isColumnName then
        known.withOperation (.addIndex table names)
      else if names.isEmpty then malformed "index with an empty column list"
      else
        diagnosed .unsupportedIndexExpression ("index on " ++ table ++ " is not a plain column list")
    | none =>
      diagnosed .unsupportedIndexExpression ("index on " ++ table ++ " is not a plain column list")

/-- The interpreter of statements about indexes. -/
def interpretIndexes (block : Option TableBlock) (call : Call) : Interpretation :=
  match block.filter fun block => call.receiver = some block.parameter && call.method = "index" with
  | some block => interpretIndex block.name call.positionals[0]?
  | none =>
    if call.receiver = none ∧ call.method = "add_index" then
      match call.name? 0 with
      | some table => interpretIndex table call.positionals[1]?
      | none => malformed "add_index without a table name"
    else unrecognized

end Interpreters

section Agreement

open Interpretation

@[simp]
theorem interpretation_malformed (message : String) :
    (Meaning.malformed message).interpretation = malformed message := rfl

@[simp]
theorem interpretation_operation (operation : Operation) :
    (Meaning.operations [operation]).interpretation = known.withOperation operation := rfl

@[simp]
theorem interpretation_operations (operations : List Operation) :
    (Meaning.operations operations).interpretation = known.withOperations operations := rfl

/-- Names that each give rise to something give rise to nothing only if there are none. -/
theorem forNames_eq (names : List String) {operations : String → List Operation}
    (hsome : ∀ name, operations name ≠ []) (fault : String) :
    forNames names operations fault = (someOf (names.flatMap operations) fault).interpretation := by
  cases names with
  | nil => rfl
  | cons name names =>
    have hne : (name :: names).flatMap operations ≠ [] := by simp [hsome]
    rw [forNames, someOf, if_neg (by simp), if_neg (by simpa using hne), interpretation_operations]

theorem forNames_map_eq (names : List String) (operation : String → Operation) (fault : String) :
    forNames names (fun name => [operation name]) fault =
      (someOf (names.map operation) fault).interpretation := by
  rw [forNames_eq names (fun _ => List.cons_ne_nil _ _), List.map_eq_flatMap]

theorem withBlock_eq (operations : List Operation) (call : Call) (table : String) :
    (known.withOperations operations).withBlock call table =
      (Meaning.effect operations (opening call table)).interpretation := by
  cases hblock : call.block <;> simp [withBlock, Migration.opening, hblock, Meaning.interpretation,
    known, withOperations, Interpretation.opening]

theorem interpret_command (command : Command) (call : Call) :
    command.interpret call = (command.meaning call).interpretation := by
  cases command with
  | createTable =>
    simp only [Command.interpret, Command.meaning]
    cases call.name? 0 with
    | some table => exact withBlock_eq [.defineTable table] call table
    | none => rfl
  | createJoinTable =>
    simp only [Command.interpret, Command.meaning]
    cases call.name? 0 with
    | none => rfl
    | some a =>
      cases call.name? 1 with
      | none => rfl
      | some b => exact withBlock_eq [_, _, _] call _
  | removeColumn =>
    simp only [Command.interpret, Command.meaning]
    cases call.name? 0 with
    | some table => exact forNames_map_eq _ _ _
    | none => rfl
  | removeColumns =>
    simp only [Command.interpret, Command.meaning]
    cases call.name? 0 with
    | some table => exact forNames_map_eq _ _ _
    | none => rfl
  | removeReference =>
    simp only [Command.interpret, Command.meaning]
    cases call.name? 0 with
    | some table => exact forNames_eq _ (fun _ => List.cons_ne_nil _ _) _
    | none => rfl
  | _ =>
    simp only [Command.interpret, Command.meaning]
    cases call.name? 0 <;> cases call.name? 1 <;> cases call.name? 2 <;> rfl

theorem interpret_blockCommand (command : BlockCommand) (table : String) (call : Call) :
    command.interpret table call = (command.meaning table call).interpretation := by
  cases command with
  | references => exact forNames_eq _ (fun _ => List.cons_ne_nil _ _) _
  | removeReferences => exact forNames_eq _ (fun _ => List.cons_ne_nil _ _) _
  | remove => exact forNames_map_eq _ _ _
  | typed kind => exact forNames_map_eq _ _ _
  | _ =>
    simp only [BlockCommand.interpret, BlockCommand.meaning]
    cases call.name? 0 <;> cases call.name? 1 <;> rfl

theorem interpretColumns_eq (block : Option TableBlock) (call : Call) :
    interpretColumns block call = (columnMeaning block call).interpretation := by
  unfold interpretColumns columnMeaning
  cases block.filter fun block => call.receiver = some block.parameter with
  | some block =>
    cases hcommand : BlockCommand.ofMethod? block.mode call.method with
    | some command => simp only [hcommand, interpret_blockCommand]
    | none => simp only [hcommand]; rfl
  | none =>
    cases hreceiver : call.receiver with
    | none =>
      cases hcommand : Command.ofMethod? call.method with
      | some command => simp only [if_true, interpret_command]
      | none => rfl
    | some receiver => rfl

theorem interpretIndex_eq (table : String) (argument : Option Value) :
    interpretIndex table argument = (indexOn table argument).interpretation := by
  cases argument with
  | none => rfl
  | some value =>
    simp only [interpretIndex, indexOn]
    cases value.asNames? with
    | none => rfl
    | some names =>
      cases names with
      | nil => rfl
      | cons name names =>
        cases hplain : (name :: names).all isColumnName with
        | true =>
          simp only [Option.filter, hplain, List.isEmpty_cons, Bool.not_false, Bool.and_self, if_true]
          rfl
        | false => simp [Option.filter, hplain, diagnosed, Meaning.interpretation]

theorem interpretIndexes_eq (block : Option TableBlock) (call : Call) :
    interpretIndexes block call = (indexMeaning block call).interpretation := by
  unfold interpretIndexes indexMeaning
  cases block.filter fun block => call.receiver = some block.parameter && call.method = "index" with
  | some block => exact interpretIndex_eq _ _
  | none =>
    by_cases halone : call.receiver = none ∧ call.method = "add_index"
    · simp only [if_pos halone]
      cases call.name? 0 with
      | some table => exact interpretIndex_eq _ _
      | none => rfl
    · simp only [if_neg halone]
      rfl

end Agreement

/-- No statement about columns has the name of one about indexes. -/
theorem columnMeaning_of_index {call : Call} (h : call.method = "index" ∨ call.method = "add_index")
    (block : Option TableBlock) : columnMeaning block call = .unrelated := by
  have hstanding : Command.ofMethod? call.method = none := by
    rcases h with h | h <;> rw [h] <;> rfl
  have hinside (mode : TableMode) : BlockCommand.ofMethod? mode call.method = none := by
    rcases h with h | h <;> rw [h] <;> cases mode <;> decide
  unfold columnMeaning
  split
  · rw [hinside]
  · rw [hstanding]
    cases call.receiver <;> rfl

/-- A statement is about columns and tables, or about indexes, or about neither. -/
theorem meaning_unrelated_or (block : Option TableBlock) (call : Call) :
    columnMeaning block call = .unrelated ∨ indexMeaning block call = .unrelated := by
  by_cases h : call.method = "index" ∨ call.method = "add_index"
  · exact .inl (columnMeaning_of_index h block)
  · rw [not_or] at h
    exact .inr (Source.indexMeaning_of_method_ne block h.1 h.2)

/-- The findings of a meaning are its operations, or its fault and nothing besides. -/
theorem Meaning.findings_events_or_diagnostic (meaning : Meaning) (location : Location) :
    (∀ finding ∈ meaning.findings location, finding.event?.isSome = true) ∨
      ∃ diagnostic, meaning.findings location = [.diagnostic diagnostic] ∧
        meaning.opens? = none := by
  cases meaning with
  | unrelated => exact .inl fun _ hfinding => nomatch hfinding
  | effect operations opens =>
    refine .inl fun finding hfinding => ?_
    simp only [findings, found, fault?, Option.toList_none, List.map_nil, List.append_nil,
      List.mem_map] at hfinding
    obtain ⟨operation, -, rfl⟩ := hfinding
    rfl
  | fault kind message => exact .inr ⟨_, rfl, rfl⟩

/-- Reading a call tells events only, or a single diagnostic, and then no table block is opened. -/
theorem Reading.findings_events_or_diagnostic (reading : Reading) :
    (∀ finding ∈ reading.findings, finding.event?.isSome = true) ∨
      ∃ diagnostic, reading.findings = [.diagnostic diagnostic] ∧
        (columnMeaning reading.block reading.call).opens? = none := by
  obtain ⟨block, call, location⟩ := reading
  have hnone : Meaning.unrelated.findings location = [] := rfl
  unfold findings
  rcases meaning_unrelated_or block call with hcolumns | hindexes
  · rw [hcolumns, hnone, List.nil_append]
    rcases (indexMeaning block call).findings_events_or_diagnostic location with h | ⟨found, h, -⟩
    · exact .inl h
    · exact .inr ⟨found, h, rfl⟩
  · rw [hindexes, hnone, List.append_nil]
    exact (columnMeaning block call).findings_events_or_diagnostic location

/-- Of every call, read inside or outside of a table block, the interpretations that are put together
piece by piece say what the meanings say. At most one of them recognizes the call, and each is whole:
an interpreter that does not recognize the call makes nothing of it, and one that does finds no fault,
or one fault and nothing else. So reading the call tells events only, or a single diagnostic with no
table block opened. -/
theorem interpreted_whole_and_once (reading : Reading) :
    let columns := interpretColumns reading.block reading.call
    let indexes := interpretIndexes reading.block reading.call
    (columns = (columnMeaning reading.block reading.call).interpretation ∧
      indexes = (indexMeaning reading.block reading.call).interpretation) ∧
    ¬(columns.recognized = true ∧ indexes.recognized = true) ∧
    columns.IsWhole ∧ indexes.IsWhole ∧
    ((∀ finding ∈ reading.findings, finding.event?.isSome = true) ∨
      ∃ diagnostic, reading.findings = [.diagnostic diagnostic] ∧ columns.opens = none) := by
  intro columns indexes
  have hcolumns : columns = (columnMeaning reading.block reading.call).interpretation :=
    interpretColumns_eq reading.block reading.call
  have hindexes : indexes = (indexMeaning reading.block reading.call).interpretation :=
    interpretIndexes_eq reading.block reading.call
  have hopens : columns.opens = (columnMeaning reading.block reading.call).opens? := by
    rw [hcolumns]
    cases columnMeaning reading.block reading.call <;> rfl
  refine ⟨⟨hcolumns, hindexes⟩, ?_, ?_, ?_, hopens ▸ reading.findings_events_or_diagnostic⟩
  · rintro ⟨hcolumnsKnown, hindexesKnown⟩
    rcases meaning_unrelated_or reading.block reading.call with hnone | hnone
    · rw [hcolumns, hnone] at hcolumnsKnown
      cases hcolumnsKnown
    · rw [hindexes, hnone] at hindexesKnown
      cases hindexesKnown
  · exact hcolumns ▸ isWhole_interpretation _
  · exact hindexes ▸ isWhole_interpretation _

end ForeignKeyLint.Migration
