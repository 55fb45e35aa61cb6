import ForeignKeyLint.Proofs.Migration.Reading
import Mathlib.Data.List.TakeWhile

/-!
A statement of a table block and the statement that stands alone mean the same. Inside a block the
receiver stands for the table, and outside the table is the first argument, so every other argument
moves up by one place and the options stay. The two kinds of statements are read by two functions,
which agree on every list of arguments, the faulty ones included. A reference or a typed declaration
may name several columns in a block; it means what one statement for each of its names means.
-/

namespace ForeignKeyLint

open Ruby Schema Text

namespace Ruby

def Argument.isKeyword : Argument → Bool
  | .positional _ => false
  | .keyword .. => true

namespace Call

/-- The call without its receiver, with the table in front of its arguments. -/
def standingAlone (call : Call) (method : String) (table : Value) : Call :=
  { call with receiver := none, method, arguments := .positional table :: call.arguments }

/-- The call with other positional arguments and the same options. -/
def only (call : Call) (values : List Value) : Call :=
  { call with arguments := values.map .positional ++ call.arguments.filter Argument.isKeyword }

section StandingAlone

variable (call : Call) (method : String) (table : Value)

@[simp]
theorem method_standingAlone : (call.standingAlone method table).method = method := rfl

@[simp]
theorem receiver_standingAlone : (call.standingAlone method table).receiver = none := rfl

@[simp]
theorem name?_standingAlone_zero : (call.standingAlone method table).name? 0 = table.asName? := rfl

@[simp]
theorem name?_standingAlone_succ (index : Nat) :
    (call.standingAlone method table).name? (index + 1) = call.name? index := rfl

@[simp]
theorem namesFrom_standingAlone_succ (index : Nat) :
    (call.standingAlone method table).namesFrom (index + 1) = call.namesFrom index := rfl

@[simp]
theorem option?_standingAlone (key : String) :
    (call.standingAlone method table).option? key = call.option? key := rfl

end StandingAlone

@[simp]
theorem positionals_only (call : Call) (values : List Value) :
    (call.only values).positionals = values := by
  have hvalues : (values.map Argument.positional).filterMap Argument.positional? = values := by
    rw [List.filterMap_map]
    exact List.filterMap_some
  have hkeywords :
      (call.arguments.filter Argument.isKeyword).filterMap Argument.positional? = [] := by
    rw [List.filterMap_eq_nil_iff]
    intro argument hmem
    cases argument with
    | positional value => simp [Argument.isKeyword] at hmem
    | keyword key value => rfl
  rw [positionals, only, List.filterMap_append, hvalues, hkeywords, List.append_nil]

@[simp]
theorem name?_only (call : Call) (values : List Value) (index : Nat) :
    (call.only values).name? index = values[index]?.bind Value.asName? := by
  rw [name?, positionals_only]

@[simp]
theorem option?_only (call : Call) (values : List Value) (key : String) :
    (call.only values).option? key = call.option? key := by
  induction values with
  | cons value values ih => exact ih
  | nil =>
    unfold option? only
    simp only [List.map_nil, List.nil_append]
    induction call.arguments with
    | nil => rfl
    | cons argument arguments ih =>
      cases argument with
      | positional value => exact ih
      | keyword k value => simp only [List.filter_cons, Argument.isKeyword, if_true,
          List.findSome?_cons, ih]

end Call

end Ruby

namespace Text

/-- A text without blanks is a word. -/
theorem words_of_not_blank {text : List Char} (hne : text ≠ [])
    (h : ∀ c ∈ text, isBlank c = false) : words text = [text] := by
  induction text with
  | nil => exact absurd rfl hne
  | cons c rest ih =>
    have hrest : ∀ d ∈ rest, isBlank d = false := fun d hd => h d (List.mem_cons_of_mem _ hd)
    rw [words, h c List.mem_cons_self]
    cases rest with
    | nil => rfl
    | cons d others =>
      simp [startsBlank, hrest d List.mem_cons_self, ih (List.cons_ne_nil _ _) hrest]

theorem isBlank_toLower {c : Char} (h : isBlank c = true) : isBlank c.toLower = true := by
  unfold Char.toLower
  split
  · next hupper =>
    -- No blank is a capital.
    have hfirst : 65 ≤ c.toNat := UInt32.le_iff_toNat_le.mp hupper.1
    have hlast : c.toNat ≤ 90 := UInt32.le_iff_toNat_le.mp hupper.2
    simp only [isBlank, Bool.or_eq_true, Bool.and_eq_true, decide_eq_true_eq, beq_iff_eq] at h
    omega
  · exact h

end Text

namespace Schema

/-- No type token is empty or has a blank. -/
theorem all_tokens (kind : Kind) : (kind.tokens.all fun token =>
    token ≠ "" && token.toList.all fun c => !isBlank c) = true := by
  cases kind <;> decide +kernel

/-- A type token is a single word. -/
theorem words_of_ofToken? {token : String} {kind : Kind} (h : Kind.ofToken? token = some kind) :
    words token.toList = [token.toList] := by
  let word := (token.toList.dropWhile (· == ':')).map Char.toLower
  have hword : String.ofList word ∈ kind.tokens := by
    simpa [Kind.ofToken?, word] using List.find?_some h
  obtain ⟨hempty, hblank⟩ : word ≠ [] ∧ ∀ c ∈ word, isBlank c = false := by
    have htoken := List.all_eq_true.mp (all_tokens kind) _ hword
    simpa using htoken
  apply words_of_not_blank
  · intro hnil
    exact hempty (by simp [word, hnil])
  · intro c hc
    rw [← List.takeWhile_append_dropWhile (p := (· == ':')) (l := token.toList)] at hc
    rcases List.mem_append.mp hc with hcolon | hrest
    · obtain rfl : c = ':' := by simpa using List.mem_takeWhile_imp hcolon
      rfl
    · have hlower := hblank c.toLower (List.mem_map_of_mem hrest)
      cases hc : isBlank c with
      | false => rfl
      | true => exact absurd (isBlank_toLower hc) (by simp [hlower])

end Schema

namespace Migration

/-- A type argument that is a token stands for the kind of the token. -/
theorem kindOf_of_ofToken? {token : String} {kind : Kind} (h : Kind.ofToken? token = some kind) :
    kindOf token = kind := by
  simp [kindOf, words_of_ofToken? h, h]

namespace Meaning

/-- The meanings have the same effect on the schema, and one is a fault if the other is. -/
structure Agrees (first second : Meaning) : Prop where
  found : first.found = second.found
  fault : first.fault?.isSome = second.fault?.isSome

theorem Agrees.refl (meaning : Meaning) : meaning.Agrees meaning :=
  ⟨rfl, rfl⟩

end Meaning

theorem found_someOf (found : List Operation) (fault : String) :
    (someOf found fault).found = found := by
  cases found <;> rfl

/-- The text of a fault does not matter. -/
theorem agrees_someOf (found : List Operation) (fault other : String) :
    (someOf found fault).Agrees (someOf found other) := by
  cases found <;> exact ⟨rfl, rfl⟩

theorem reference_congr (table : String) {call other : Call}
    (h : ∀ key, call.option? key = other.option? key) :
    reference table call = reference table other := by
  funext name
  unfold reference declaration referenceKind isPolymorphic
  rw [h "index", h "type", h "polymorphic"]

theorem referenceRemoval_congr (table : String) {call other : Call}
    (h : ∀ key, call.option? key = other.option? key) :
    referenceRemoval table call = referenceRemoval table other := by
  funext name
  unfold referenceRemoval isPolymorphic
  rw [h "polymorphic"]

/-- The statement that stands alone and takes the arguments of a statement of a table block as they
are. -/
def BlockCommand.twin? : BlockCommand → Option Command
  | .declare => some .addColumn
  | .change => some .changeColumn
  | .rename => some .renameColumn
  | .remove => some .removeColumns
  | .removeReferences => some .removeReference
  | .references | .typed _ => none

theorem agrees_twin {command : BlockCommand} {twin : Command} (h : command.twin? = some twin)
    (call : Call) (method : String) {table : Value} {name : String}
    (htable : table.asName? = some name) :
    (command.meaning name call).Agrees (twin.meaning (call.standingAlone method table)) := by
  cases command with
  | declare | change | rename =>
    cases h
    simp only [BlockCommand.meaning, Command.meaning, declaration, Call.name?_standingAlone_zero,
      Call.name?_standingAlone_succ, Call.option?_standingAlone, htable]
    cases call.name? 0 <;> cases call.name? 1 <;> exact ⟨rfl, rfl⟩
  | remove =>
    cases h
    simp only [BlockCommand.meaning, Command.meaning, Call.name?_standingAlone_zero,
      Call.namesFrom_standingAlone_succ, htable]
    exact agrees_someOf _ _ _
  | removeReferences =>
    cases h
    have hoptions := referenceRemoval_congr name (call.option?_standingAlone method table)
    simp only [BlockCommand.meaning, Command.meaning, Call.name?_standingAlone_zero,
      Call.namesFrom_standingAlone_succ, htable, hoptions]
    exact agrees_someOf _ _ _
  | references | typed => cases h

section Meanings

variable {block : TableBlock} {call : Call}

theorem columnMeaning_inside (h : call.receiver = some block.parameter) {command : BlockCommand}
    (hcommand : BlockCommand.ofMethod? block.mode call.method = some command) :
    columnMeaning (some block) call = command.meaning block.name call := by
  simp [columnMeaning, Option.filter, h, hcommand]

theorem columnMeaning_alone (outer : Option TableBlock) (h : call.receiver = none)
    {command : Command} (hcommand : Command.ofMethod? call.method = some command) :
    columnMeaning outer call = command.meaning call := by
  cases outer <;> simp [columnMeaning, Option.filter, h, hcommand]

theorem indexMeaning_inside (h : call.receiver = some block.parameter)
    (hmethod : call.method = "index") :
    indexMeaning (some block) call = indexOn block.name call.positionals[0]? := by
  simp [indexMeaning, Option.filter, h, hmethod]

theorem indexMeaning_alone (outer : Option TableBlock) {table : String}
    (h : call.receiver = none) (hmethod : call.method = "add_index")
    (htable : call.name? 0 = some table) :
    indexMeaning outer call = indexOn table call.positionals[1]? := by
  cases outer <;> simp [indexMeaning, Option.filter, h, hmethod, htable]

end Meanings

namespace Reading

/-- Everything that reading the call tells. -/
def findings (reading : Reading) : List Finding :=
  (columnMeaning reading.block reading.call).findings reading.location ++
    (indexMeaning reading.block reading.call).findings reading.location

/-- Reading the call tells a diagnostic. -/
def IsDiagnosed (reading : Reading) : Prop :=
  ∃ diagnostic, .diagnostic diagnostic ∈ reading.findings

/-- The readings stand for the same events, and one is diagnosed if the other is. -/
structure Agrees (first second : Reading) : Prop where
  events : first.events = second.events
  diagnosed : first.IsDiagnosed ↔ second.IsDiagnosed

end Reading

theorem exists_diagnostic_iff (meaning : Meaning) (location : Location) :
    (∃ diagnostic, .diagnostic diagnostic ∈ meaning.findings location) ↔
      meaning.fault?.isSome = true := by
  cases hfault : meaning.fault? <;> simp [Meaning.findings, hfault]

theorem Reading.isDiagnosed_iff (reading : Reading) :
    reading.IsDiagnosed ↔ (columnMeaning reading.block reading.call).fault?.isSome = true ∨
      (indexMeaning reading.block reading.call).fault?.isSome = true := by
  simp only [IsDiagnosed, findings, List.mem_append, exists_or, exists_diagnostic_iff]

/-- Readings at one place agree if their calls mean the same to columns and to indexes. -/
theorem Reading.agrees_of_meanings {first second : Reading}
    (hlocation : first.location = second.location)
    (hcolumns : (columnMeaning first.block first.call).Agrees
      (columnMeaning second.block second.call))
    (hindexes : (indexMeaning first.block first.call).Agrees
      (indexMeaning second.block second.call)) : first.Agrees second := by
  constructor
  · rw [events, events, hcolumns.found, hindexes.found, hlocation]
  · rw [isDiagnosed_iff, isDiagnosed_iff, hcolumns.fault, hindexes.fault]

/-- The events of a call that is about no index. -/
theorem Reading.events_of_method_ne {reading : Reading} (hindex : reading.call.method ≠ "index")
    (hadd : reading.call.method ≠ "add_index") :
    reading.events = (columnMeaning reading.block reading.call).found.map
      fun operation => { operation, location := reading.location } := by
  rw [events, Source.indexMeaning_of_method_ne _ hindex hadd]
  simp [Meaning.found]

/-- The methods of a table block that take the arguments of a method that stands alone. -/
def twins : List (String × String) := [
  ("column", "add_column"), ("change", "change_column"), ("rename", "rename_column"),
  ("remove", "remove_columns"), ("remove_references", "remove_reference"),
  ("remove_belongs_to", "remove_belongs_to"), ("index", "add_index")]

/-- The last of these is about indexes, and the others are about columns. -/
theorem twin?_of_mem_twins {methods : String × String} (h : methods ∈ twins) :
    methods = ("index", "add_index") ∨
      ∃ command twin, BlockCommand.ofMethod? .change methods.1 = some command ∧
        command.twin? = some twin ∧ Command.ofMethod? methods.2 = some twin ∧
        methods.1 ∉ ["index", "add_index"] ∧ methods.2 ∉ ["index", "add_index"] := by
  simp only [twins, List.mem_cons, List.not_mem_nil, or_false] at h
  rcases h with rfl | rfl | rfl | rfl | rfl | rfl | rfl
  · exact .inr ⟨.declare, .addColumn, rfl, rfl, rfl, by decide, by decide⟩
  · exact .inr ⟨.change, .changeColumn, rfl, rfl, rfl, by decide, by decide⟩
  · exact .inr ⟨.rename, .renameColumn, rfl, rfl, rfl, by decide, by decide⟩
  · exact .inr ⟨.remove, .removeColumns, rfl, rfl, rfl, by decide, by decide⟩
  · exact .inr ⟨.removeReferences, .removeReference, rfl, rfl, rfl, by decide, by decide⟩
  · exact .inr ⟨.removeReferences, .removeReference, rfl, rfl, rfl, by decide, by decide⟩
  · exact .inl rfl

/-- A type token is no other word. -/
theorem ne_of_ofToken? {method other : String} {kind : Kind}
    (hkind : Kind.ofToken? method = some kind) (hother : Kind.ofToken? other = none) :
    method ≠ other := by
  rintro rfl
  rw [hother] at hkind
  cases hkind

theorem ofMethod?_of_ofToken? (mode : TableMode) {method : String} {kind : Kind}
    (hkind : Kind.ofToken? method = some kind) (h : method ∉ ["references", "belongs_to"]) :
    BlockCommand.ofMethod? mode method = some (.typed kind) := by
  have hnone : ∀ other ∈ ["column", "change", "rename", "remove", "remove_references",
      "remove_belongs_to"], Kind.ofToken? other = none := by decide
  have hother : ∀ other ∈ ["column", "change", "rename", "remove", "remove_references",
      "remove_belongs_to"], method ≠ other :=
    fun other hmem => ne_of_ofToken? hkind (hnone other hmem)
  unfold BlockCommand.ofMethod?
  split <;> simp_all

/-- The events of a statement about columns that stands alone. -/
theorem events_standingAlone (outer : Option TableBlock) (location : Location) (call : Call)
    (table : Value) {method : String} {command : Command}
    (hcommand : Command.ofMethod? method = some command) (hindex : method ≠ "index")
    (hadd : method ≠ "add_index") :
    Reading.events { block := outer, call := call.standingAlone method table, location } =
      (command.meaning (call.standingAlone method table)).found.map
        fun operation => { operation, location } := by
  rw [Reading.events_of_method_ne hindex hadd, columnMeaning_alone outer rfl hcommand]

section Forms

variable {block : TableBlock} (outer : Option TableBlock) (location : Location)
  {write : String → Value} (hwrite : ∀ name, (write name).asName? = some name)
  {call : Call} (hreceiver : call.receiver = some block.parameter)

include hwrite hreceiver

/-- A statement of a block agrees with its twin on every list of arguments. -/
theorem agrees_standingAlone (hmode : block.mode = .change) {standalone : String}
    (h : (call.method, standalone) ∈ twins) :
    Reading.Agrees { block := some block, call, location }
      { block := outer, call := call.standingAlone standalone (write block.name), location } := by
  have htable := hwrite block.name
  rcases twin?_of_mem_twins h with
    hindex | ⟨command, twin, hcommand, htwin, halone, hinner, houter⟩
  · obtain ⟨hmethod, rfl⟩ := Prod.mk.inj hindex
    refine Reading.agrees_of_meanings rfl ?_ ?_
    · have hnone : BlockCommand.ofMethod? .change "index" = none := by decide
      have halone : Command.ofMethod? "add_index" = none := by decide
      have hinside : columnMeaning (some block) call = .unrelated := by
        simp [columnMeaning, Option.filter, hreceiver, hmethod, hmode, hnone]
      have houtside : columnMeaning outer (call.standingAlone "add_index" (write block.name)) =
          .unrelated := by
        cases outer <;> simp [columnMeaning, Option.filter, halone]
      rw [hinside, houtside]
      exact .refl _
    · have houtside : indexMeaning outer (call.standingAlone "add_index" (write block.name)) =
          indexOn block.name call.positionals[0]? :=
        indexMeaning_alone outer rfl rfl htable
      rw [indexMeaning_inside hreceiver hmethod, houtside]
      exact .refl _
  · rw [← hmode] at hcommand
    simp only [List.mem_cons, List.not_mem_nil, or_false, not_or] at hinner houter
    refine Reading.agrees_of_meanings rfl ?_ ?_
    · rw [columnMeaning_inside hreceiver hcommand, columnMeaning_alone outer rfl halone]
      exact agrees_twin htwin call standalone htable
    · rw [Source.indexMeaning_of_method_ne _ hinner.1 hinner.2,
        Source.indexMeaning_of_method_ne _ houter.1 houter.2]
      exact .refl _

/-- A reference with several names stands for one reference of each name. -/
theorem events_references (h : call.method ∈ ["references", "belongs_to"]) :
    Reading.events { block := some block, call, location } =
      (call.namesFrom 0).flatMap fun name => Reading.events {
        block := outer, location
        call := (call.only [write name]).standingAlone "add_reference" (write block.name) } := by
  have hcommand : BlockCommand.ofMethod? block.mode call.method = some .references := by
    simp only [List.mem_cons, List.not_mem_nil, or_false] at h
    rcases h with h | h <;> rw [h] <;> cases block.mode <;> rfl
  have hmethods : call.method ≠ "index" ∧ call.method ≠ "add_index" := by
    simp only [List.mem_cons, List.not_mem_nil, or_false] at h
    rcases h with h | h <;> rw [h] <;> decide
  have hone (name : String) : (Command.addReference.meaning
      ((call.only [write name]).standingAlone "add_reference" (write block.name))).found =
        reference block.name call name := by
    have hoptions : reference block.name
        ((call.only [write name]).standingAlone "add_reference" (write block.name)) =
          reference block.name call :=
      reference_congr block.name (call.option?_only [write name])
    simp [Command.meaning, hwrite, Meaning.operations, Meaning.found, hoptions]
  rw [Reading.events_of_method_ne hmethods.1 hmethods.2, columnMeaning_inside hreceiver hcommand,
    BlockCommand.meaning, found_someOf, List.map_flatMap]
  congr 1
  funext name
  rw [events_standingAlone outer location _ _ rfl (by decide) (by decide), hone]

/-- A typed declaration of several columns stands for one declaration of each column. -/
theorem events_typed {kind : Kind} (hkind : Kind.ofToken? call.method = some kind)
    (h : call.method ∉ ["references", "belongs_to"]) :
    Reading.events { block := some block, call, location } =
      (call.namesFrom 0).flatMap fun name => Reading.events {
        block := outer, location
        call := (call.only [write name, write call.method]).standingAlone "add_column"
          (write block.name) } := by
  have hindex : call.method ≠ "index" := ne_of_ofToken? hkind (by decide)
  have hadd : call.method ≠ "add_index" := ne_of_ofToken? hkind (by decide)
  have hone (name : String) : (Command.addColumn.meaning
      ((call.only [write name, write call.method]).standingAlone "add_column"
        (write block.name))).found = [declaration block.name name kind call] := by
    simp [Command.meaning, hwrite, Meaning.operations, Meaning.found, declaration,
      kindOf_of_ofToken? hkind]
  rw [Reading.events_of_method_ne hindex hadd,
    columnMeaning_inside hreceiver (ofMethod?_of_ofToken? block.mode hkind h),
    BlockCommand.meaning, found_someOf, List.map_map, List.map_eq_flatMap]
  congr 1
  funext name
  rw [events_standingAlone outer location _ _ rfl (by decide) (by decide), hone]
  rfl

/-- A statement of a block that changes a table means what the statements mean that stand alone and
name the table first. -/
theorem block_form_eq_standing_form (hmode : block.mode = .change) :
    let inside : Reading := { block := some block, call, location }
    let alone (method : String) (call : Call) : Reading :=
      { block := outer, call := call.standingAlone method (write block.name), location }
    (∀ method, (call.method, method) ∈ twins → inside.Agrees (alone method call)) ∧
      (call.method ∈ ["references", "belongs_to"] →
        inside.events = (call.namesFrom 0).flatMap fun name =>
          (alone "add_reference" (call.only [write name])).events) ∧
      (∀ kind, Kind.ofToken? call.method = some kind →
        call.method ∉ ["references", "belongs_to"] →
        inside.events = (call.namesFrom 0).flatMap fun name =>
          (alone "add_column" (call.only [write name, write call.method])).events) := by
  intro inside alone
  exact ⟨fun method => agrees_standingAlone outer location hwrite hreceiver hmode,
    events_references outer location hwrite hreceiver,
    fun kind => events_typed outer location hwrite hreceiver⟩

end Forms

/-- A block that changes the albums. -/
def albumBlock : TableBlock where
  name := "albums"
  parameter := "t"
  mode := .change
  openedAt := 1

/-- The call of `t.method`, with two names, an expression and an option for arguments. -/
def albumCall (method : String) : Call where
  receiver := some "t"
  method
  arguments := [.positional (.symbol "artist"), .keyword "index" (.bool true),
    .positional (.str "label"), .positional (.raw "name")]
  block := none

/-- The names before the expression are removed, referred to or declared, in both forms. -/
theorem albumCall_forms :
    let location : Location := { file := ⟨"m.rb"⟩, line := 2 }
    let inside (method : String) : Reading :=
      { block := some albumBlock, call := albumCall method, location }
    let alone (method : String) (call : Call) : Reading :=
      { block := none, call := call.standingAlone method (.symbol "albums"), location }
    (inside "remove").Agrees (alone "remove_columns" (albumCall "remove")) ∧
      (inside "references").events = ["artist", "label"].flatMap (fun name =>
        (alone "add_reference" ((albumCall "references").only [.symbol name])).events) ∧
      (inside "bigint").events = ["artist", "label"].flatMap (fun name =>
        (alone "add_column"
          ((albumCall "bigint").only [.symbol name, .symbol "bigint"])).events) ∧
      (inside "references").events.map (·.operation) = [
        .declareColumn "albums" "artist_id" .reference .requested,
        .declareColumn "albums" "label_id" .reference .requested] := by
  intro location inside alone
  have hwrite : ∀ name, (Value.symbol name).asName? = some name := fun _ => rfl
  have hreceiver (method : String) :
      (albumCall method).receiver = some albumBlock.parameter := rfl
  have hmode : albumBlock.mode = .change := rfl
  have hremove := block_form_eq_standing_form none location hwrite (hreceiver "remove") hmode
  have hreferences :=
    block_form_eq_standing_form none location hwrite (hreceiver "references") hmode
  have hbigint := block_form_eq_standing_form none location hwrite (hreceiver "bigint") hmode
  exact ⟨hremove.1 _ (by decide), hreferences.2.1 (by decide), hbigint.2.2 _ rfl (by decide),
    by decide⟩

end Migration

end ForeignKeyLint
