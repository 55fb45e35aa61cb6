import ForeignKeyLint.Proofs.Migration.Printed
import ForeignKeyLint.Proofs.Ruby.Opening
import ForeignKeyLint.Report

/-!
Suggested statements, read like any other text. Main statement: the statement suggested for a
violation is read as the index that is missing, with nothing to remark, exactly if the table is an
identifier and the column a plain name. A table that is named by a string may have another name, and
the statement suggested for it is refused.
-/

namespace ForeignKeyLint.Lint

open Migration Ruby Schema Text

/-- Reading the suggestion gives the missing index and nothing else. -/
def Violation.Accepted (violation : Violation) (source : Source) : Prop :=
  let file := File.read source violation.suggestion.toList
  file.events.map (·.operation) = [.addIndex violation.table [violation.column]] ∧
    file.diagnostics = []

section Refused

theorem indexOn_cases (table : String) (argument : Option Value) :
    (∃ kind message, indexOn table argument = .fault kind message) ∨
      ∃ value columns, argument = some value ∧ value.asNames? = some columns ∧
        columns.all isColumnName = true ∧
        indexOn table argument = .operations [.addIndex table columns] := by
  unfold indexOn
  split
  · exact .inl ⟨_, _, rfl⟩
  · next value =>
    split
    · exact .inl ⟨_, _, rfl⟩
    · split
      · next columns hcolumns =>
        obtain ⟨hnames, hall⟩ := Option.filter_eq_some_iff.mp hcolumns
        exact .inr ⟨value, columns, rfl, hnames, hall, rfl⟩
      · exact .inl ⟨_, _, rfl⟩

/-- A call that adds an index adds one or is at fault. -/
theorem indexMeaning_cases {call : Call} (hreceiver : call.receiver = none)
    (hmethod : call.method = "add_index") :
    (∃ kind message, indexMeaning none call = .fault kind message) ∨
      ∃ table value columns, call.name? 0 = some table ∧ call.positionals[1]? = some value ∧
        value.asNames? = some columns ∧ columns.all isColumnName = true ∧
        indexMeaning none call = .operations [.addIndex table columns] := by
  cases hname : call.name? 0 with
  | none =>
    refine .inl ⟨.malformedDeclaration, "add_index without a table name", ?_⟩
    simp [indexMeaning, hreceiver, hmethod, hname, Meaning.malformed]
  | some table =>
    have hmeaning : indexMeaning none call = indexOn table call.positionals[1]? := by
      simp [indexMeaning, hreceiver, hmethod, hname]
    rw [hmeaning]
    rcases indexOn_cases table call.positionals[1]? with hfault | ⟨value, columns, hvalue⟩
    · exact .inl hfault
    · exact .inr ⟨table, value, columns, rfl, hvalue⟩

/-- A statement that begins like a suggestion means an index, or is at fault. -/
theorem stepBody_addIndex (source : Source) {statement : Statement}
    (h : openingOf "add_index".toList <+: statement.text) :
    ∃ call, Call.parse? statement.text = some call ∧ call.receiver = none ∧
      call.method = "add_index" ∧ source.stepBody [] statement =
        ((indexMeaning none call).findings (source.location statement.line),
          if call.block.isSome then [Frame.ofCall call none statement.line] else []) := by
  have hword : isName "add_index".toList = true := by decide +kernel
  have hlower : ("add_index".toList.head?.all (!·.isUpper)) = true := by decide +kernel
  obtain ⟨call, hcall, hreceiver, hmethod⟩ := exists_parse?_opening hword hlower h
  rw [String.ofList_toList] at hmethod
  obtain ⟨rest, hrest⟩ := prefix_trim h (trimmed_opening hword)
  have htrim : trim statement.text = "add_index".toList ++ ' ' :: (':' :: rest) := by
    rw [← hrest, openingOf, List.append_assoc]
    rfl
  have hend := isBlockEnd_eq_false (isWordChar_of_mem_name hword) (by decide) htrim
  have hkeyword := keywordBlock?_eq_none (isWordChar_of_mem_name hword) (by decide +kernel) htrim
  have hcolumns : columnMeaning none call = .unrelated := by
    simp [columnMeaning, hreceiver, hmethod, Command.ofMethod?]
  have hrelated : (indexMeaning none call).isRelated = true := by
    rcases indexMeaning_cases hreceiver hmethod with
      ⟨kind, message, hfault⟩ | ⟨table, value, columns, -, -, -, -, heffect⟩
    · rw [hfault]
      rfl
    · rw [heffect]
      rfl
  have hstep : source.stepCall [] statement call =
      ((indexMeaning none call).findings (source.location statement.line),
        if call.block.isSome then [Frame.ofCall call none statement.line] else []) := by
    unfold Source.stepCall
    simp only [Nesting.table?, Nesting.inRollback, List.findSome?_nil, List.contains_nil, hcolumns,
      findings_unrelated, List.nil_append, hrelated, Bool.or_true, Bool.false_eq_true, if_false,
      if_true]
    split <;> rfl
  refine ⟨call, hcall, hreceiver, hmethod, ?_⟩
  simp only [Source.stepBody, hend, hkeyword, hcall, Bool.false_eq_true, if_false]
  exact hstep

theorem mem_scan_of_first (source : Source) {text : List Char} {first : Statement}
    {others : List Statement} (h : statements text = first :: others) {finding : Finding}
    (hfinding : finding ∈ (source.stepBody [] first).1) : finding ∈ source.scan text := by
  rw [Source.scan, h]
  simp only [Source.steps, Source.step, List.mem_append]
  exact .inl (.inl (.inr hfinding))

variable {violation : Violation} {source : Source}

theorem opening_suggestion (violation : Violation) :
    openingOf "add_index".toList <+: violation.suggestion.toList := by
  refine ⟨violation.table.toList ++ ", :".toList ++ violation.column.toList, ?_⟩
  simp [openingOf, Violation.suggestion]

/-- What an accepted suggestion must have been read from. -/
theorem exists_call_of_accepted (h : violation.Accepted source) :
    ∃ first others call value, statements violation.suggestion.toList = first :: others ∧
      markCount first.text ≤ markCount violation.suggestion.toList ∧
      Call.parse? first.text = some call ∧ call.name? 0 = some violation.table ∧
      call.positionals[1]? = some value ∧ value.asNames? = some [violation.column] ∧
      isColumnName violation.column = true := by
  obtain ⟨hevents, hdiagnostics⟩ := h
  have hword : isName "add_index".toList = true := by decide +kernel
  obtain ⟨first, others, hstatements, hfirst, hmarks⟩ :=
    exists_first_statement hword (opening_suggestion violation)
  obtain ⟨call, hcall, hreceiver, hmethod, hbody⟩ := stepBody_addIndex source hfirst
  rcases indexMeaning_cases hreceiver hmethod with
    ⟨kind, message, hfault⟩ | ⟨table, value, columns, hname, hvalue, hnames, hall, heffect⟩
  · -- A fault would be among the diagnostics.
    let fault : Diagnostic := { kind, location := source.location first.line, message }
    have hmem : .diagnostic fault ∈ source.scan violation.suggestion.toList := by
      apply mem_scan_of_first source hstatements
      rw [hbody, hfault]
      exact List.mem_cons_self
    have hdiagnostic : fault ∈ (File.read source violation.suggestion.toList).diagnostics :=
      List.mem_filterMap.mpr ⟨_, hmem, rfl⟩
    rw [hdiagnostics] at hdiagnostic
    contradiction
  · let event : Event :=
      { operation := .addIndex table columns, location := source.location first.line }
    have hmem : .event event ∈ source.scan violation.suggestion.toList := by
      apply mem_scan_of_first source hstatements
      rw [hbody, heffect]
      exact List.mem_cons_self
    have hevent : event ∈ (File.read source violation.suggestion.toList).events :=
      List.mem_filterMap.mpr ⟨_, hmem, rfl⟩
    have hoperation := List.mem_map_of_mem (f := (·.operation)) hevent
    rw [hevents, List.mem_singleton] at hoperation
    obtain ⟨rfl, rfl⟩ : table = violation.table ∧ columns = [violation.column] := by
      simpa [event] using hoperation
    exact ⟨first, others, call, value, hstatements, hmarks, hcall, hname, hvalue, hnames,
      by simpa using hall⟩

theorem isWordChar_of_isColumnName {name : String} (h : isColumnName name = true) :
    name.toList ≠ [] ∧ ∀ c ∈ name.toList, isWordChar c = true := by
  simpa [isColumnName] using h

theorem markCount_suggestion (hcolumn : isColumnName violation.column = true) :
    markCount violation.suggestion.toList = markCount violation.table.toList := by
  obtain ⟨-, hword⟩ := isWordChar_of_isColumnName hcolumn
  have hmarkless : ∀ c ∈ violation.column.toList, c ∉ ['"', '\'', '<'] := by
    intro c hc hmem
    have hc := hword c hc
    simp only [List.mem_cons, List.not_mem_nil, or_false] at hmem
    rcases hmem with rfl | rfl | rfl <;> exact absurd hc (by decide)
  have htext : violation.suggestion.toList =
      "add_index :".toList ++ violation.table.toList ++ ", :".toList ++ violation.column.toList := by
    simp [Violation.suggestion]
  have hlead : markCount "add_index :".toList = 0 := by decide +kernel
  have hcomma : markCount ", :".toList = 0 := by decide +kernel
  rw [htext, markCount_append, markCount_append, markCount_append, markCount_eq_zero hmarkless,
    hlead, hcomma]
  omega

/-- A suggestion has no quotes for the table, so the table is an identifier if it is read. -/
theorem isIdentifier_of_accepted (h : violation.Accepted source) :
    isIdentifier violation.table.toList = true := by
  obtain ⟨first, others, call, value, -, hmarks, hcall, hname, -, -, hcolumn⟩ :=
    exists_call_of_accepted h
  obtain ⟨table, htable, hasName⟩ := Option.bind_eq_some_iff.mp hname
  obtain ⟨part, hpart, rfl⟩ := exists_part_of_mem_positionals hcall (List.mem_of_getElem? htable)
  rcases isIdentifier_or_quoted hasName with hidentifier | hquoted
  · exact hidentifier
  · have hle := markCount_le hpart
    rw [markCount_suggestion hcolumn] at hmarks
    omega

end Refused

section Tame

variable {violation : Violation} {source : Source}

/-- Between an identifier and a column there is nothing to be misread. -/
theorem phrase_suggestion (htable : isIdentifier violation.table.toList = true)
    (hcolumn : isColumnName violation.column = true) :
    Phrase (ofText violation.suggestion.toList) := by
  obtain ⟨hne, hword⟩ := isWordChar_of_isColumnName hcolumn
  have hmethod : Phrase (ofText "add_index".toList) :=
    .ofText (List.all_eq_true.mp (by decide +kernel)) ⟨'x', by decide +kernel, rfl⟩
  have htablePhrase := (Value.Printable.symbol htable).element.toPhrase
  have hcolumnPhrase : Phrase (ofText (':' :: violation.column.toList)) := by
    apply Phrase.ofText
    · intro c hc
      rcases List.mem_cons.mp hc with rfl | hc
      · rfl
      · exact isTokenChar_of_isWordChar (hword c hc)
    · have hlast := hword _ (List.getLast_mem hne)
      refine ⟨violation.column.toList.getLast hne, ?_, by simp [isClosing, hlast]⟩
      rw [← List.singleton_append, List.getLast?_append_of_ne_nil _ hne]
      exact List.getLast?_eq_some_getLast hne
  have hstarts (text more : List Char) : StartsOperand (':' :: text ++ more) :=
    .of_head (by decide) _
  have harguments := htablePhrase.spaced [.char ','] (by simp) hcolumnPhrase fun more => by
    rw [textOf_ofText]
    exact hstarts _ more
  have hwhole := hmethod.spaced [] (by simp) harguments fun more => by
    rw [Value.pieces, textOf_append, textOf_ofText, List.append_assoc]
    exact hstarts _ _
  have htext : ofText violation.suggestion.toList = ofText "add_index".toList ++
      ([] ++ .char ' ' :: ((Value.symbol violation.table).pieces ++
        ([.char ','] ++ .char ' ' :: ofText (':' :: violation.column.toList)))) := by
    simp [Violation.suggestion, Value.pieces, ofText]
  rw [htext]
  exact hwhole

theorem statements_suggestion (htable : isIdentifier violation.table.toList = true)
    (hcolumn : isColumnName violation.column = true) :
    statements violation.suggestion.toList =
      [{ line := 1, text := violation.suggestion.toList, cutShort := false }] := by
  apply statements_phrase (phrase_suggestion htable hcolumn)
  intro heq
  have hcolon : ':' ∈ "__END__".toList := by
    rw [← heq]
    exact (opening_suggestion violation).mem (by decide +kernel)
  simp at hcolon

theorem not_mem_suggestion (htable : isIdentifier violation.table.toList = true)
    (hcolumn : isColumnName violation.column = true) {c : Char} (hc : isNameChar c = false)
    (hlead : c ∉ "add_index :".toList ++ ", :".toList) : c ∉ violation.suggestion.toList := by
  obtain ⟨-, hword⟩ := isWordChar_of_isColumnName hcolumn
  intro hmem
  simp only [Violation.suggestion, String.toList_append, List.mem_append] at hmem
  rcases hmem with ((hmem | hmem) | hmem) | hmem
  · exact hlead (List.mem_append_left _ hmem)
  · rw [isNameChar_of_mem_identifier htable c hmem] at hc
    contradiction
  · exact hlead (List.mem_append_right _ hmem)
  · have hname : isNameChar c = true := by simp [isNameChar, hword c hmem]
    rw [hname] at hc
    contradiction

theorem isName_of_accepted (h : violation.Accepted source) :
    isName violation.column.toList = true := by
  have htable := isIdentifier_of_accepted h
  obtain ⟨first, others, call, value, hstatements, hmarks, hcall, -, hvalue, hnames, hcolumn⟩ :=
    exists_call_of_accepted h
  obtain ⟨-, hword⟩ := isWordChar_of_isColumnName hcolumn
  rw [statements_suggestion htable hcolumn] at hstatements
  obtain ⟨rfl, -⟩ := List.cons.inj hstatements
  obtain ⟨part, hpart, rfl⟩ := exists_part_of_mem_positionals hcall (List.mem_of_getElem? hvalue)
  have hname (hasName : (Value.parse part).asName? = some violation.column) :
      isName violation.column.toList = true := by
    rcases isIdentifier_or_quoted hasName with hidentifier | hquoted
    · exact isName_of_isIdentifier hidentifier hword
    · have hzero : markCount violation.suggestion.toList = 0 := by
        apply markCount_eq_zero
        intro c hc hmem
        simp only [List.mem_cons, List.not_mem_nil, or_false] at hmem
        rcases hmem with rfl | rfl | rfl <;>
          exact not_mem_suggestion htable hcolumn rfl (by decide +kernel) hc
      have hle := markCount_le hpart
      dsimp only at hle
      omega
  cases hparse : Value.parse part with
  | symbol name => exact hname (by simpa [hparse, Value.asNames?, Value.asName?] using hnames)
  | str text => exact hname (by simpa [hparse, Value.asNames?, Value.asName?] using hnames)
  | list items =>
    rcases mem_of_parse_list hparse with hmem | hmem
    · exact absurd (hpart.subset hmem) (not_mem_suggestion htable hcolumn rfl (by decide +kernel))
    · exact absurd (hpart.subset hmem) (not_mem_suggestion htable hcolumn rfl (by decide +kernel))
  | _ => simp [hparse, Value.asNames?] at hnames

/-- The call that the suggestion stands for. -/
theorem parse?_suggestion (htable : isIdentifier violation.table.toList = true)
    (hcolumn : isName violation.column.toList = true) :
    Call.parse? violation.suggestion.toList =
      some (command "add_index" [violation.table, violation.column] []) := by
  have hprintable : (command "add_index" [violation.table, violation.column] []).Printable := by
    apply printable_command (by decide)
    · simp only [List.forall_mem_cons]
      exact ⟨htable, isIdentifier_of_isName hcolumn, by simp⟩
    · simp
  have htext : textOf (command "add_index" [violation.table, violation.column] []).pieces =
      violation.suggestion.toList := by
    rw [pieces_command _ _ _ _ [] rfl, textOf_ofText]
    simp [commandText, symbolText, Violation.suggestion, String.intercalate_cons_cons]
  have hparse := hprintable.parse?_spaced (by simp [command]) fun _ => by simp [command]
  rw [htext, block_command, blockText, List.append_nil] at hparse
  exact hparse

theorem accepted_of_isName (source : Source) (htable : isIdentifier violation.table.toList = true)
    (hcolumn : isName violation.column.toList = true) : violation.Accepted source := by
  have hstatements := statements_suggestion htable (isColumnName_of_isName hcolumn)
  let statement : Statement :=
    { line := 1, text := violation.suggestion.toList, cutShort := false }
  let event : Event :=
    { operation := .addIndex violation.table [violation.column], location := source.location 1 }
  have hbody : source.stepBody [] statement = ([.event event], []) := by
    have hopening : openingOf "add_index".toList <+: statement.text := opening_suggestion violation
    obtain ⟨call, hcall, -, -, hbody⟩ := stepBody_addIndex source hopening
    have hcommand : command "add_index" [violation.table, violation.column] [] = call :=
      Option.some.inj ((parse?_suggestion htable hcolumn).symm.trans hcall)
    subst hcommand
    have hmeaning : indexMeaning none (command "add_index" [violation.table, violation.column] []) =
        .operations [.addIndex violation.table [violation.column]] := by
      have hall : [violation.column].all isColumnName = true := by
        simpa using isColumnName_of_isName hcolumn
      have hindex : indexOn violation.table (some (.symbol violation.column)) =
          .operations [.addIndex violation.table [violation.column]] := by
        simp only [indexOn, Value.asNames?, Option.filter_some, hall, if_true]
      exact hindex
    rw [hbody, hmeaning]
    rfl
  have hscan : source.scan violation.suggestion.toList = [.event event] := by
    rw [Source.scan, hstatements]
    simp only [Source.steps, Source.step]
    rw [hbody]
    rfl
  rw [Violation.Accepted, File.read, hscan]
  exact ⟨rfl, rfl⟩

/-- A suggestion is accepted exactly if it names what it is about by plain symbols. -/
theorem suggestion_accepted_iff (violation : Violation) (source : Source) :
    violation.Accepted source ↔
      isIdentifier violation.table.toList = true ∧ isName violation.column.toList = true := by
  constructor
  · intro h
    exact ⟨isIdentifier_of_accepted h, isName_of_accepted h⟩
  · rintro ⟨htable, hcolumn⟩
    exact accepted_of_isName source htable hcolumn

end Tame

/-- A migration that names its table by a string. -/
def dottedTable : TextFile where
  path := ⟨"1.rb"⟩
  text := "create_table \"billing.invoices\" do |t|\n  t.bigint :account_id\nend\n".toList

/-- The suggestion of a report is refused. -/
theorem dottedTable_suggestion_refused :
    let report := Report.ofTexts {} false { path := ⟨"schema.rb"⟩, text := [] }
      [dottedTable]
    let source : Source := { path := ⟨"m.rb"⟩ }
    ∃ violation ∈ report.verdict.violations, violation.table = "billing.invoices" ∧
      violation.column = "account_id" ∧ ¬violation.Accepted source ∧
      (File.read source violation.suggestion.toList).events = [] := by
  let place : Location := { file := ⟨"1.rb"⟩, line := 2 }
  let violation : Violation :=
    { table := "billing.invoices", column := "account_id", kind := .bigint, location := place
      firstSeen := place }
  refine ⟨violation, ?_, rfl, rfl, ?_, ?_⟩
  · decide +kernel
  · intro h
    have hidentifier := isIdentifier_of_accepted h
    revert hidentifier
    decide +kernel
  · decide +kernel

end ForeignKeyLint.Lint
