import ForeignKeyLint.Proofs.Lint.Reported
import ForeignKeyLint.Proofs.Migration.Reading
import ForeignKeyLint.Proofs.Schema.Lineage
import ForeignKeyLint.Report

/-!
References that count as indexed. With the policy for it, a reference has an index unless its statement
declines one, and this is decided by the kind that the declaration gives to the column. The `type:`
option of the statement can narrow the kind to one of the integer kinds, and then the policy does not
apply any more. Main statement: a column whose last declaration comes from a statement that adds a
reference and declines no index is reported exactly if the statement names an integer type and the
column would be reported without the policy. So the policy serves every reference but those of an
integer type, whose identifier columns it was to serve as well.
-/

namespace ForeignKeyLint

open Migration Ruby Schema

namespace Migration

/-- The `type:` option of a call names one of the integer kinds. -/
def NamesIntegerType (call : Call) : Prop :=
  ∃ type, (call.option? "type").bind Value.asName? = some type ∧
    (kindOf type = .bigint ∨ kindOf type = .integer)

/-- A reference is of the kind for references unless its type is narrowed. -/
theorem referenceKind_eq_reference_iff (call : Call) :
    referenceKind call = .reference ↔ ¬NamesIntegerType call := by
  unfold referenceKind NamesIntegerType
  cases (call.option? "type").bind Value.asName? with
  | none => simp
  | some type => cases hkind : kindOf type <;> simp [hkind]

/-- A call that declines no index has an `index:` option that is true, or none. -/
theorem inlineIndexOf_ne_declined {option : Option Value} (h : option.all Value.isTruthy = true) :
    inlineIndexOf option ≠ .declined := by
  cases option with
  | none => simp [inlineIndexOf]
  | some value => simp [inlineIndexOf, show value.isTruthy = true from h]

namespace Reading

/-- The statement adds the reference `name` to the table, in a block of the table or alone. -/
inductive AddsReference (reading : Reading) (table name : String) : Prop
  | inBlock (block : TableBlock) (hblock : reading.block = some block)
      (hreceiver : reading.call.receiver = some block.parameter)
      (hmethod : reading.call.method ∈ ["references", "belongs_to"]) (htable : block.name = table)
      (hname : name ∈ reading.call.namesFrom 0)
  | alone (hreceiver : reading.call.receiver = none)
      (hmethod : reading.call.method ∈ ["add_reference", "add_belongs_to"])
      (htable : reading.call.name? 0 = some table) (hname : reading.call.name? 1 = some name)

variable {reading : Reading} {table name : String}

theorem AddsReference.columnMeaning_found (h : reading.AddsReference table name) {operation : Operation}
    (hfound : operation ∈ (columnMeaning reading.block reading.call).found) :
    ∃ other, operation ∈ reference table reading.call other := by
  cases h with
  | inBlock block hblock hreceiver hmethod htable hname =>
    have hcommand : BlockCommand.ofMethod? block.mode reading.call.method = some .references := by
      simp only [List.mem_cons, List.not_mem_nil, or_false] at hmethod
      rcases hmethod with hmethod | hmethod <;> rw [hmethod] <;> cases block.mode <;> rfl
    have hmeaning : columnMeaning reading.block reading.call =
        BlockCommand.references.meaning table reading.call := by
      simp [columnMeaning, hblock, Option.filter, hreceiver, hcommand, htable]
    rw [hmeaning, BlockCommand.meaning, someOf] at hfound
    split at hfound
    · cases hfound
    · obtain ⟨other, -, hother⟩ := List.mem_flatMap.mp hfound
      exact ⟨other, hother⟩
  | alone hreceiver hmethod htable hname =>
    have hcommand : Command.ofMethod? reading.call.method = some .addReference := by
      simp only [List.mem_cons, List.not_mem_nil, or_false] at hmethod
      rcases hmethod with hmethod | hmethod <;> rw [hmethod] <;> rfl
    have hmeaning : columnMeaning reading.block reading.call =
        .operations (reference table reading.call name) := by
      simp [columnMeaning, hreceiver, hcommand, Command.meaning, htable, hname]
    rw [hmeaning] at hfound
    exact ⟨name, hfound⟩

theorem AddsReference.indexMeaning_eq_unrelated (h : reading.AddsReference table name) :
    indexMeaning reading.block reading.call = .unrelated := by
  apply Source.indexMeaning_of_method_ne
  · intro hmethod
    cases h <;> simp_all
  · intro hmethod
    cases h <;> simp_all

/-- The identifier column is declared as the options of the statement say, whichever of the names of
the statement it belongs to. -/
theorem AddsReference.eq_of_declares (h : reading.AddsReference table name) {event : Event}
    {kind : Kind} {inlineIndex : InlineIndex} (hevent : event ∈ reading.events)
    (hdeclares : event.operation = .declareColumn table (name ++ "_id") kind inlineIndex) :
    kind = referenceKind reading.call ∧
      inlineIndex = inlineIndexOf (reading.call.option? "index") := by
  have hfound : event.operation ∈ (columnMeaning reading.block reading.call).found := by
    rw [events, h.indexMeaning_eq_unrelated] at hevent
    obtain ⟨operation, hfound, rfl⟩ := List.mem_map.mp hevent
    simpa [Meaning.found] using hfound
  obtain ⟨other, hother⟩ := h.columnMeaning_found hfound
  rw [hdeclares, reference, List.mem_cons] at hother
  rcases hother with heq | hpolymorphic
  · obtain ⟨-, -, rfl, rfl⟩ := Operation.declareColumn.inj heq
    exact ⟨rfl, rfl⟩
  · -- The other column of a polymorphic reference has another ending.
    split at hpolymorphic
    · rw [List.mem_singleton] at hpolymorphic
      obtain ⟨-, hcolumn, -⟩ := Operation.declareColumn.inj hpolymorphic
      have hending := congrArg (fun column : String => column.toList.getLast?) hcolumn
      simp at hending
    · cases hpolymorphic

end Reading

end Migration

namespace Lint

open Migration

/-- The events of texts, as a verdict folds them. -/
def historyOfTexts (verbose : Bool) (snapshot : TextFile) (files : List TextFile) : List Occurrence :=
  history (Snapshot.read { path := snapshot.path, verbose } snapshot.text)
    (files.map fun file => File.read { path := file.path, verbose } file.text)

/-- The last declaration of a lineage comes from a statement of one of the texts that adds a reference,
as the declaration of its identifier column, and `call` is this statement. -/
def LastDeclaredBy (call : Call) (texts : List TextFile) (lineage : List Occurrence) : Prop :=
  ∃ text ∈ texts, ∃ reading ∈ Source.readings { path := text.path } [] (statements text.text),
    ∃ table name before declaring after kind inlineIndex,
      reading.call = call ∧ reading.AddsReference table name ∧ declaring.event ∈ reading.events ∧
      declaring.operation = .declareColumn table (name ++ "_id") kind inlineIndex ∧
      lineage = before ++ declaring :: after ∧
      ∀ later ∈ after, later.operation.declaration? = none

/-- The declaration in force is the one that the statement makes. -/
theorem LastDeclaredBy.lastDeclaration? {call : Call} {texts : List TextFile}
    {lineage : List Occurrence} (h : LastDeclaredBy call texts lineage) :
    lastDeclaration? lineage =
      some (referenceKind call, inlineIndexOf (call.option? "index")) := by
  obtain ⟨text, -, reading, -, table, name, before, declaring, after, kind, inlineIndex, rfl, hadds,
    hevent, hdeclares, rfl, hafter⟩ := h
  obtain ⟨rfl, rfl⟩ := hadds.eq_of_declares hevent hdeclares
  have hdeclaration : declaring.operation.declaration? =
      some (referenceKind reading.call, inlineIndexOf (reading.call.option? "index")) := by
    rw [hdeclares]
    rfl
  have hnone : declarations after = [] := List.filterMap_eq_nil_iff.mpr hafter
  have hdeclarations : declarations (before ++ declaring :: after) = declarations before ++
      [(referenceKind reading.call, inlineIndexOf (reading.call.option? "index"))] := by
    simp only [declarations] at hnone ⊢
    simp only [List.filterMap_append, List.filterMap_cons, hdeclaration, hnone]
  simp [Schema.lastDeclaration?, hdeclarations]

/-- A statement alone among readings that adds the reference, as an evaluation of the readings finds
it. -/
theorem exists_addsReference (readings : List Reading) (table name : String) (event : Event)
    (accepts : Call → Bool)
    (h : (readings.any fun reading => reading.call.receiver = none &&
      reading.call.method ∈ ["add_reference", "add_belongs_to"] &&
      reading.call.name? 0 = some table && reading.call.name? 1 = some name &&
      event ∈ reading.events && accepts reading.call) = true) :
    ∃ reading ∈ readings, reading.AddsReference table name ∧ event ∈ reading.events ∧
      accepts reading.call = true := by
  obtain ⟨reading, hreading, hfound⟩ := List.any_eq_true.mp h
  simp only [Bool.and_eq_true, decide_eq_true_eq] at hfound
  obtain ⟨⟨⟨⟨⟨hreceiver, hmethod⟩, htable⟩, hname⟩, hevent⟩, haccepts⟩ := hfound
  exact ⟨reading, hreading, .alone hreceiver hmethod htable hname, hevent, haccepts⟩

/-- With the default in force, a column that a reference declared last is reported exactly if the
statement names an integer type and the column is reported without the default. -/
theorem reference_reported_iff (policy : Policy) (verbose : Bool) (snapshot : TextFile)
    (files : List TextFile) (key : ColumnKey) (call : Call)
    (hdefault : policy.referencesIndexedByDefault = true)
    (hlast : LastDeclaredBy call (snapshot :: files)
      (lineage (historyOfTexts verbose snapshot files) key))
    (hindex : (call.option? "index").all Value.isTruthy = true) :
    (Report.ofTexts policy verbose snapshot files).verdict.Reports key ↔
      NamesIntegerType call ∧
        (Report.ofTexts { policy with referencesIndexedByDefault := false } verbose snapshot
          files).verdict.Reports key := by
  let facts := Snapshot.read { path := snapshot.path, verbose } snapshot.text
  let read := files.map fun file => File.read { path := file.path, verbose } file.text
  let strict : Policy := { policy with referencesIndexedByDefault := false }
  change (policy.check facts read).Reports key ↔
    NamesIntegerType call ∧ (strict.check facts read).Reports key
  rw [reports_iff_isViolation, reports_iff_isViolation, ← exists_and_left]
  refine exists_congr fun column => ?_
  rw [and_left_comm]
  refine and_congr_right fun hfound => ?_
  rw [finalState_eq_replay] at hfound
  have hdeclared := (tracesTo_lineage hfound).sumsUp.declared
  obtain ⟨hkind, hinline⟩ := Prod.mk.inj
    (Option.some.inj (hlast.lastDeclaration?.symm.trans hdeclared))
  -- The policies differ in what the declaration provides, and there by the kind alone.
  have hprovides : ¬policy.Provides column.declaredKind column.inlineIndex ↔
      NamesIntegerType call ∧ ¬strict.Provides column.declaredKind column.inlineIndex := by
    have hdeclined := inlineIndexOf_ne_declined hindex
    rw [← hkind, ← hinline]
    simp [Policy.Provides, hdefault, strict, hdeclined, referenceKind_eq_reference_iff, and_comm]
  rw [isViolation_iff, isViolation_iff, hprovides]
  constructor
  · rintro ⟨hsuffix, hshaped, ⟨hinteger, hunprovided⟩, hrest⟩
    exact ⟨hinteger, hsuffix, hshaped, hunprovided, hrest⟩
  · rintro ⟨hinteger, hsuffix, hshaped, hunprovided, hrest⟩
    exact ⟨hsuffix, hshaped, ⟨hinteger, hunprovided⟩, hrest⟩

/-- A snapshot of a database without tables. -/
def emptySnapshot : TextFile where
  path := ⟨"db/schema.rb"⟩
  text := []

/-- A file that adds a reference, and then changes the name and the type of its column. -/
def renamedReference : TextFile where
  path := ⟨"1.rb"⟩
  text := ("add_reference :albums, :artist\n" ++
    "rename_column :albums, :artist_id, :performer_id\n" ++
    "change_column :albums, :performer_id, :bigint\n").toList

/-- What is read of the file. -/
def renamedReferenceFile : File where
  path := renamedReference.path
  events := [
    { operation := .declareColumn "albums" "artist_id" .reference .unspecified
      location := { file := renamedReference.path, line := 1 } },
    { operation := .renameColumn "albums" "artist_id" "performer_id"
      location := { file := renamedReference.path, line := 2 } },
    { operation := .retypeColumn "albums" "performer_id" .bigint
      location := { file := renamedReference.path, line := 3 } }]
  diagnostics := []

theorem read_renamedReference :
    File.read { path := renamedReference.path } renamedReference.text = renamedReferenceFile := by
  decide +kernel

/-- The default serves the reference, whatever its column is changed to later. -/
theorem renamedReference_not_reported :
    let key : ColumnKey := { table := "albums", column := "performer_id" }
    let verdict (policy : Policy) :=
      (Report.ofTexts policy false emptySnapshot [renamedReference]).verdict
    (∃ call, LastDeclaredBy call [emptySnapshot, renamedReference]
        (lineage (historyOfTexts false emptySnapshot [renamedReference]) key) ∧
      (call.option? "index").all Value.isTruthy = true ∧ ¬NamesIntegerType call) ∧
      ¬(verdict { referencesIndexedByDefault := true }).Reports key ∧ (verdict {}).Reports key := by
  intro key verdict
  let added : Event :=
    { operation := .declareColumn "albums" "artist_id" .reference .unspecified
      location := { file := renamedReference.path, line := 1 } }
  obtain ⟨reading, hreading, hadds, hevent, haccepts⟩ := exists_addsReference
    (Source.readings { path := renamedReference.path } [] (statements renamedReference.text))
    "albums" "artist" added
    (fun call => (call.option? "index").all Value.isTruthy && referenceKind call = .reference)
    (by decide +kernel)
  simp only [Bool.and_eq_true, decide_eq_true_eq] at haccepts
  obtain ⟨hindex, hkind⟩ := haccepts
  have hplain := (referenceKind_eq_reference_iff _).mp hkind
  have hhistory : historyOfTexts false emptySnapshot [renamedReference] =
      occurrences .changeSet renamedReferenceFile.events := by
    rw [historyOfTexts, List.map_singleton, read_renamedReference]
    decide +kernel
  have hlast : LastDeclaredBy reading.call [emptySnapshot, renamedReference]
      (lineage (historyOfTexts false emptySnapshot [renamedReference]) key) := by
    rw [hhistory]
    exact ⟨renamedReference, by simp, reading, hreading, "albums", "artist", [],
      { origin := .changeSet, event := added },
      occurrences .changeSet renamedReferenceFile.events.tail, .reference, .unspecified, rfl, hadds,
      hevent, rfl, by decide, by decide⟩
  have hiff := reference_reported_iff { referencesIndexedByDefault := true } false emptySnapshot
    [renamedReference] key reading.call rfl hlast hindex
  refine ⟨⟨reading.call, hlast, hindex, hplain⟩, fun h => hplain (hiff.mp h).1, ?_⟩
  simp only [verdict, Report.ofTexts, List.map_singleton, read_renamedReference]
  decide +kernel

/-- A file that adds a reference of an integer type. -/
def typedReference : TextFile where
  path := ⟨"m.rb"⟩
  text := "add_reference :albums, :artist, type: :bigint\n".toList

/-- The type takes the index from the reference, though the statement declines none. -/
theorem typedReference_reported :
    let key : ColumnKey := { table := "albums", column := "artist_id" }
    (∃ call, LastDeclaredBy call [emptySnapshot, typedReference]
        (lineage (historyOfTexts false emptySnapshot [typedReference]) key) ∧
      (call.option? "index").all Value.isTruthy = true) ∧
      (Report.ofTexts { referencesIndexedByDefault := true } false emptySnapshot
        [typedReference]).verdict.Reports key := by
  intro key
  let added : Event :=
    { operation := .declareColumn "albums" "artist_id" .bigint .unspecified
      location := { file := typedReference.path, line := 1 } }
  obtain ⟨reading, hreading, hadds, hevent, hindex⟩ := exists_addsReference
    (Source.readings { path := typedReference.path } [] (statements typedReference.text))
    "albums" "artist" added (fun call => (call.option? "index").all Value.isTruthy)
    (by decide +kernel)
  have hlast : LastDeclaredBy reading.call [emptySnapshot, typedReference]
      (lineage (historyOfTexts false emptySnapshot [typedReference]) key) :=
    ⟨typedReference, by simp, reading, hreading, "albums", "artist", [],
      { origin := .changeSet, event := added }, [], .bigint, .unspecified, rfl, hadds, hevent, rfl,
      by decide +kernel, by simp⟩
  exact ⟨⟨reading.call, hlast, hindex⟩, by decide +kernel⟩

end Lint

end ForeignKeyLint
