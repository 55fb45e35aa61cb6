import ForeignKeyLint.Migration.Scan
import ForeignKeyLint.Proofs.Ruby.CallText
import ForeignKeyLint.Proofs.Ruby.SingleLine

/-!
Operations printed as statements that stand alone, one a line. Main statement: a scan of the printed
file finds the operations again, in order and each at its line, and has nothing to remark, whatever
names of letters, digits and underscores the tables and columns have. A name may be spelled like a
keyword, because a colon always precedes it.
-/

namespace ForeignKeyLint.Schema

open Ruby

/-- A method and its arguments. -/
def commandText (method : String) (arguments : List String) : String :=
  method ++ " " ++ ", ".intercalate arguments

def symbolText (name : String) : String :=
  ":" ++ name

/-- The options of a declaration that say this about its index. -/
def InlineIndex.options : InlineIndex → List String
  | .requested => ["index: true"]
  | .declined => ["index: false"]
  | .unspecified => []

namespace Operation

/-- The statement that stands for an operation, given the type tokens to use. -/
def statement (token : Kind → String) : Operation → String
  | .defineTable table => commandText "create_table" [symbolText table]
  | .dropTable table => commandText "drop_table" [symbolText table]
  | .renameTable source target =>
    commandText "rename_table" [symbolText source, symbolText target]
  | .declareColumn table column kind inlineIndex =>
    commandText "add_column"
      ([symbolText table, symbolText column, symbolText (token kind)] ++ inlineIndex.options)
  | .retypeColumn table column kind =>
    commandText "change_column" [symbolText table, symbolText column, symbolText (token kind)]
  | .renameColumn table source target =>
    commandText "rename_column" [symbolText table, symbolText source, symbolText target]
  | .removeColumn table column =>
    commandText "remove_column" [symbolText table, symbolText column]
  | .addIndex table columns =>
    commandText "add_index"
      [symbolText table, "[" ++ ", ".intercalate (columns.map symbolText) ++ "]"]

/-- The names of tables and columns in an operation. -/
def names : Operation → List String
  | .defineTable table => [table]
  | .dropTable table => [table]
  | .renameTable source target => [source, target]
  | .declareColumn table column _ _ => [table, column]
  | .retypeColumn table column _ => [table, column]
  | .renameColumn table source target => [table, source, target]
  | .removeColumn table column => [table, column]
  | .addIndex table columns => table :: columns

/-- The columns of the index an operation adds. -/
def indexed? : Operation → Option (List String)
  | .addIndex _ columns => some columns
  | _ => none

/-- The names consist of letters, digits and underscores and start with no digit, and an index has
a column. -/
structure Writable (operation : Operation) : Prop where
  names : ∀ name ∈ operation.names, isName name.toList = true
  covers : operation.indexed? ≠ some []

instance (operation : Operation) : Decidable operation.Writable :=
  decidable_of_iff
    ((∀ name ∈ operation.names, isName name.toList = true) ∧ operation.indexed? ≠ some [])
    ⟨fun h => ⟨h.1, h.2⟩, fun h => ⟨h.names, h.covers⟩⟩

end Operation

end ForeignKeyLint.Schema

namespace ForeignKeyLint.Migration

open Ruby Schema Text

/-- A call that stands alone and has names as its arguments. -/
def command (method : String) (names : List String) (others : List Argument) : Call where
  receiver := none
  method
  arguments := names.map (fun name => .positional (.symbol name)) ++ others
  block := none

/-- The `index:` option as an argument. -/
def indexArgument : InlineIndex → List Argument
  | .requested => [.keyword "index" (.bool true)]
  | .declined => [.keyword "index" (.bool false)]
  | .unspecified => []

/-- The call an operation is printed as. -/
def callOf (token : Kind → String) : Operation → Call
  | .defineTable table => command "create_table" [table] []
  | .dropTable table => command "drop_table" [table] []
  | .renameTable source target => command "rename_table" [source, target] []
  | .declareColumn table column kind inlineIndex =>
    command "add_column" [table, column, token kind] (indexArgument inlineIndex)
  | .retypeColumn table column kind => command "change_column" [table, column, token kind] []
  | .renameColumn table source target => command "rename_column" [table, source, target] []
  | .removeColumn table column => command "remove_column" [table, column] []
  | .addIndex table columns =>
    command "add_index" [table] [.positional (.list (columns.map .symbol))]

theorem mem_all (kind : Kind) : kind ∈ Kind.all := by
  cases kind <;> decide

theorem kindOf_token {kind : Kind} {token : String} (h : token ∈ kind.tokens) :
    kindOf token = kind := by
  have htokens : ∀ kind ∈ Kind.all, ∀ token ∈ kind.tokens, kindOf token = kind := by decide +kernel
  exact htokens kind (mem_all kind) token h

theorem isName_token {kind : Kind} {token : String} (h : token ∈ kind.tokens) :
    isName token.toList = true := by
  have htokens : ∀ kind ∈ Kind.all, ∀ token ∈ kind.tokens, isName token.toList = true := by
    decide +kernel
  exact htokens kind (mem_all kind) token h

theorem pieces_symbol (name : String) :
    (Value.symbol name).pieces = ofText (symbolText name).toList := by
  rw [Value.pieces, symbolText, String.toList_append]
  rfl

theorem pieces_command (method first : String) (names : List String) (others : List Argument)
    (texts : List String)
    (hothers : others.map Argument.pieces = texts.map fun text => ofText text.toList) :
    (command method (first :: names) others).pieces =
      ofText (commandText method ((first :: names).map symbolText ++ texts)).toList := by
  have harguments : (command method (first :: names) others).arguments.map Argument.pieces =
      ((first :: names).map symbolText ++ texts).map fun text => ofText text.toList := by
    rw [command, List.map_append, hothers, List.map_map, List.map_append, List.map_map]
    congr 1
    exact List.map_congr_left fun name _ => pieces_symbol name
  have htail : (command method (first :: names) others).tailPieces =
      .char ' ' :: commaJoin ((command method (first :: names) others).arguments.map
        Argument.pieces) := rfl
  rw [Call.pieces, htail, harguments, commaJoin_ofText, commandText]
  simp [ofText, Call.headText, command]

/-- The printed call reads letter by letter like the statement. -/
theorem pieces_callOf (token : Kind → String) (operation : Operation) :
    (callOf token operation).pieces = ofText (operation.statement token).toList := by
  cases operation with
  | declareColumn table column kind inlineIndex =>
    apply pieces_command
    cases inlineIndex with
    | requested => rfl
    | declined => rfl
    | unspecified => rfl
  | addIndex table columns =>
    have hitems : itemPieces (columns.map .symbol) =
        (columns.map symbolText).map fun text => ofText text.toList := by
      rw [itemPieces_eq_map, List.map_map, List.map_map]
      exact List.map_congr_left fun column _ => pieces_symbol column
    have hlist : (Value.list (columns.map .symbol)).pieces =
        ofText ("[" ++ ", ".intercalate (columns.map symbolText) ++ "]").toList := by
      rw [Value.pieces, hitems, commaJoin_ofText]
      simp [ofText]
    exact pieces_command _ _ [] _ [_] (congrArg (fun pieces => [pieces]) hlist)
  | _ => exact pieces_command _ _ _ [] [] rfl

/-- The methods of printed calls. -/
def printedMethods : List String :=
  ["create_table", "drop_table", "rename_table", "add_column", "change_column", "rename_column",
    "remove_column", "add_index"]

theorem facts_of_mem_printedMethods {method : String} (h : method ∈ printedMethods) :
    isName method.toList = true ∧ method.toList.head?.all (!·.isUpper) = true ∧
      method.toList ≠ "end".toList ∧ openingKeywords.contains method = false ∧ method ≠ "do" := by
  revert h method
  decide +kernel

theorem method_callOf (token : Kind → String) (operation : Operation) :
    (callOf token operation).method ∈ printedMethods := by
  cases operation <;> simp [callOf, command, printedMethods]

theorem exists_statement_eq (token : Kind → String) (operation : Operation) :
    ∃ rest, (operation.statement token).toList =
      (callOf token operation).method.toList ++ ' ' :: rest := by
  have htext (method : String) (arguments : List String) :
      (commandText method arguments).toList =
        method.toList ++ ' ' :: (", ".intercalate arguments).toList := by
    simp [commandText]
  cases operation <;> exact ⟨_, htext _ _⟩

theorem statement_ne_end (token : Kind → String) (operation : Operation) :
    (operation.statement token).toList ≠ "__END__".toList := by
  obtain ⟨rest, hrest⟩ := exists_statement_eq token operation
  rw [hrest]
  intro heq
  have hspace : ' ' ∈ "__END__".toList := by
    rw [← heq]
    simp
  simp at hspace

section Printed

variable {token : Kind → String} {operation : Operation}

theorem printable_command {method : String} {names : List String} {others : List Argument}
    (hmethod : method ∈ printedMethods) (hnames : ∀ name ∈ names, isIdentifier name.toList = true)
    (hothers : ∀ argument ∈ others, argument.Printable) :
    (command method names others).Printable := by
  obtain ⟨hname, hlower, -⟩ := facts_of_mem_printedMethods hmethod
  refine ⟨by simp [command], ?_, ?_⟩
  · exact ⟨method.toList, [], (List.append_nil _).symm, hname, hlower, List.mem_cons_self⟩
  · intro argument hargument
    rcases List.mem_append.mp hargument with hargument | hargument
    · obtain ⟨name, hmem, rfl⟩ := List.mem_map.mp hargument
      exact .symbol (hnames name hmem)
    · exact hothers argument hargument

theorem printable_indexArgument (inlineIndex : InlineIndex) :
    ∀ argument ∈ indexArgument inlineIndex, argument.Printable := by
  have hkey : isIdentifier "index".toList = true := by decide +kernel
  intro argument hargument
  cases inlineIndex with
  | requested =>
    rw [List.mem_singleton.mp hargument]
    exact ⟨hkey, .bool true⟩
  | declined =>
    rw [List.mem_singleton.mp hargument]
    exact ⟨hkey, .bool false⟩
  | unspecified => simp [indexArgument] at hargument

theorem isIdentifier_typed (htoken : ∀ kind, token kind ∈ kind.tokens) {table column : String}
    (hnames : ∀ name ∈ [table, column], isIdentifier name.toList = true) (kind : Kind) :
    ∀ name ∈ [table, column, token kind], isIdentifier name.toList = true := by
  simp only [List.forall_mem_cons] at hnames ⊢
  exact ⟨hnames.1, hnames.2.1, isIdentifier_of_isName (isName_token (htoken kind)), by simp⟩

theorem printable_callOf (h : operation.Writable) (htoken : ∀ kind, token kind ∈ kind.tokens) :
    (callOf token operation).Printable := by
  have hmethod := method_callOf token operation
  have hnames : ∀ name ∈ operation.names, isIdentifier name.toList = true := fun name hname =>
    isIdentifier_of_isName (h.names name hname)
  cases operation with
  | declareColumn table column kind inlineIndex =>
    exact printable_command hmethod (isIdentifier_typed htoken hnames kind)
      (printable_indexArgument inlineIndex)
  | retypeColumn table column kind =>
    exact printable_command hmethod (isIdentifier_typed htoken hnames kind) (by simp)
  | addIndex table columns =>
    obtain ⟨htable, hcolumns⟩ := List.forall_mem_cons.mp hnames
    have hlist : (Value.list (columns.map .symbol)).Printable := by
      apply Value.Printable.list
      intro item hitem
      obtain ⟨column, hcolumn, rfl⟩ := List.mem_map.mp hitem
      exact .symbol (hcolumns column hcolumn)
    exact printable_command hmethod (List.forall_mem_singleton.mpr htable)
      (List.forall_mem_singleton.mpr hlist)
  | _ => exact printable_command hmethod hnames (by simp)

theorem phrase_statement (h : operation.Writable) (htoken : ∀ kind, token kind ∈ kind.tokens) :
    Phrase (ofText (operation.statement token).toList) := by
  have hphrase := (printable_callOf h htoken).phrase
  rw [pieces_callOf] at hphrase
  exact hphrase

theorem block_callOf (token : Kind → String) (operation : Operation) :
    (callOf token operation).block = none := by
  cases operation <;> rfl

theorem parse?_statement (h : operation.Writable) (htoken : ∀ kind, token kind ∈ kind.tokens) :
    Call.parse? (operation.statement token).toList = some (callOf token operation) := by
  have htext : textOf (callOf token operation).pieces = (operation.statement token).toList := by
    rw [pieces_callOf, textOf_ofText]
  have hblock := block_callOf token operation
  have hmethod : (callOf token operation).method ≠ "do" :=
    (facts_of_mem_printedMethods (method_callOf token operation)).2.2.2.2
  have hparse := (printable_callOf h htoken).parse?_spaced (by simp [hblock])
    fun _ heq => absurd heq hmethod
  rw [htext, hblock, blockText, List.append_nil] at hparse
  exact hparse

end Printed

section Meaning

variable {method : String} {names : List String} {others : List Argument}

theorem positionals_command :
    (command method names others).positionals =
      names.map .symbol ++ others.filterMap Argument.positional? := by
  have hnames : (names.map fun name => Argument.positional (.symbol name)).filterMap
      Argument.positional? = names.map .symbol := by
    rw [List.filterMap_map]
    exact congrFun List.filterMap_eq_map names
  rw [Call.positionals, command, List.filterMap_append, hnames]

theorem name?_command {index : Nat} (h : index < names.length) :
    (command method names others).name? index = names[index]? := by
  have hleft : index < (names.map Value.symbol).length := by simpa using h
  rw [Call.name?, positionals_command, List.getElem?_append_left hleft, List.getElem?_map]
  cases names[index]? <;> rfl

theorem option?_command (key : String) :
    (command method names others).option? key = (command method [] others).option? key := by
  induction names with
  | nil => rfl
  | cons name names ih => exact ih

theorem inlineIndexOf_indexArgument (inlineIndex : InlineIndex) :
    inlineIndexOf ((command method names (indexArgument inlineIndex)).option? "index") =
      inlineIndex := by
  rw [option?_command]
  cases inlineIndex with
  | requested => rfl
  | declined => rfl
  | unspecified => rfl

theorem block_command : (command method names others).block = none := rfl

theorem columnMeaning_command {kind : Command} (h : Command.ofMethod? method = some kind) :
    columnMeaning none (command method names others) =
      kind.meaning (command method names others) := by
  simp [columnMeaning, command, h]

variable {token : Kind → String} {operation : Operation}

/-- A printed call says about tables and columns what the operation does. -/
theorem columnMeaning_callOf (htoken : ∀ kind, token kind ∈ kind.tokens)
    (h : operation.isIndex = false) :
    columnMeaning none (callOf token operation) = .operations [operation] := by
  cases operation with
  | defineTable table =>
    rw [callOf, columnMeaning_command rfl]
    simp [Command.meaning, name?_command, opening, block_command, Meaning.operations]
  | dropTable table =>
    rw [callOf, columnMeaning_command rfl]
    simp [Command.meaning, name?_command]
  | renameTable source target =>
    rw [callOf, columnMeaning_command rfl]
    simp [Command.meaning, name?_command]
  | declareColumn table column kind inlineIndex =>
    rw [callOf, columnMeaning_command rfl]
    simp [Command.meaning, name?_command, declaration, kindOf_token (htoken kind),
      inlineIndexOf_indexArgument]
  | retypeColumn table column kind =>
    rw [callOf, columnMeaning_command rfl]
    simp [Command.meaning, name?_command, kindOf_token (htoken kind)]
  | renameColumn table source target =>
    rw [callOf, columnMeaning_command rfl]
    simp [Command.meaning, name?_command]
  | removeColumn table column =>
    rw [callOf, columnMeaning_command rfl]
    simp [Command.meaning, name?_command, someOf]
  | addIndex table columns => contradiction

theorem asNames?_symbols (columns : List String) :
    (Value.list (columns.map .symbol)).asNames? = some columns := by
  rw [Value.asNames?]
  induction columns with
  | nil => rfl
  | cons column columns ih => simp [Value.asName?, ih]

theorem isColumnName_of_isName {name : String} (h : isName name.toList = true) :
    isColumnName name = true := by
  have hword := isWordChar_of_mem_name h
  have hne : name ≠ "" := by
    rintro rfl
    simp [isName] at h
  simpa [isColumnName, hne] using hword

/-- An index over names, of which there is one at least. -/
theorem indexOn_symbols {table : String} {columns : List String} (hne : columns ≠ [])
    (hnames : ∀ column ∈ columns, isName column.toList = true) :
    indexOn table (some (.list (columns.map .symbol))) = .operations [.addIndex table columns] := by
  have hall : columns.all isColumnName = true :=
    List.all_eq_true.mpr fun column hcolumn => isColumnName_of_isName (hnames column hcolumn)
  cases columns with
  | nil => contradiction
  | cons column columns =>
    simp only [indexOn, asNames?_symbols, Option.filter_some, hall, if_true]

theorem indexMeaning_callOf (token : Kind → String) (h : operation.Writable)
    (hindex : operation.isIndex = true) :
    indexMeaning none (callOf token operation) = .operations [operation] := by
  cases operation with
  | addIndex table columns =>
    have hne : columns ≠ [] := by
      rintro rfl
      exact h.covers rfl
    have hnames := (List.forall_mem_cons.mp h.names).2
    exact indexOn_symbols hne hnames
  | _ => contradiction

theorem columnMeaning_eq_unrelated (token : Kind → String) (h : operation.isIndex = true) :
    columnMeaning none (callOf token operation) = .unrelated := by
  cases operation with
  | addIndex table columns => rfl
  | _ => contradiction

theorem indexMeaning_eq_unrelated (token : Kind → String) (h : operation.isIndex = false) :
    indexMeaning none (callOf token operation) = .unrelated := by
  cases operation with
  | addIndex table columns => contradiction
  | _ => rfl

end Meaning

section Scan

/-- The lines of a file that holds the operations, the first of them on the line `first`. Each line
has its own choice of type tokens. -/
def printedLines (token : Nat → Kind → String) (first : Nat) (operations : List Operation) :
    List (List Char) :=
  (operations.zipIdx first).map fun (operation, line) => (operation.statement (token line)).toList

/-- The operations as events of a source, the first of them on the line `first`. -/
def Source.eventsFrom (source : Source) (first : Nat) (operations : List Operation) : List Event :=
  (operations.zipIdx first).map fun (operation, line) =>
    { operation, location := source.location line }

variable {token : Kind → String} {operation : Operation}

theorem findings_operations (found : List Operation) (location : Location) :
    (Meaning.operations found).findings location =
      found.map fun operation => .event { operation, location } :=
  List.append_nil _

theorem findings_unrelated (location : Location) : Meaning.unrelated.findings location = [] := rfl

theorem Source.stepCall_callOf (source : Source) (h : operation.Writable)
    (htoken : ∀ kind, token kind ∈ kind.tokens) (statement : Statement) :
    source.stepCall [] statement (callOf token operation) =
      ([.event { operation, location := source.location statement.line }], []) := by
  have hblock := block_callOf token operation
  have hrelated : (Meaning.operations [operation]).isRelated = true := rfl
  cases hindex : operation.isIndex with
  | false =>
    have hcolumns := columnMeaning_callOf htoken hindex
    have hindexes := indexMeaning_eq_unrelated token hindex
    simp [Source.stepCall, Nesting.table?, Nesting.inRollback, hcolumns, hindexes, hblock,
      findings_operations, findings_unrelated, hrelated]
  | true =>
    have hcolumns := columnMeaning_eq_unrelated token hindex
    have hindexes := indexMeaning_callOf token h hindex
    simp [Source.stepCall, Nesting.table?, Nesting.inRollback, hcolumns, hindexes, hblock,
      findings_operations, findings_unrelated, hrelated]

/-- A printed statement outside of all blocks yields its operation and opens none. -/
theorem Source.step_statement (source : Source) (h : operation.Writable)
    (htoken : ∀ kind, token kind ∈ kind.tokens) (line : Nat) :
    source.step [] { line, text := (operation.statement token).toList, cutShort := false } =
      ([.event { operation, location := source.location line }], []) := by
  obtain ⟨hname, -, hend, hkeyword, -⟩ :=
    facts_of_mem_printedMethods (method_callOf token operation)
  obtain ⟨rest, hrest⟩ := exists_statement_eq token operation
  have hword := isWordChar_of_mem_name hname
  have htrim := (trimmed_of_phrase (phrase_statement h htoken)).trim_eq.trans hrest
  have hblockEnd := isBlockEnd_eq_false hword hend htrim
  have hkeywordBlock := keywordBlock?_eq_none hword (by simpa using hkeyword) htrim
  have hbody : source.stepBody []
      { line, text := (operation.statement token).toList, cutShort := false } =
        ([.event { operation, location := source.location line }], []) := by
    simp only [Source.stepBody, hblockEnd, hkeywordBlock, parse?_statement h htoken,
      source.stepCall_callOf h htoken]
    rfl
  rw [Source.step, hbody]
  rfl

theorem statements_printedLines (token : Nat → Kind → String) (first : Nat)
    (operations : List Operation) :
    (numberLines first (printedLines token first operations)).map Line.statement =
      (operations.zipIdx first).map fun (operation, line) =>
        { line, text := (operation.statement (token line)).toList, cutShort := false } := by
  induction operations generalizing first with
  | nil => rfl
  | cons operation operations ih =>
    rw [printedLines, List.zipIdx_cons, List.map_cons, numberLines, List.map_cons, List.map_cons]
    exact congrArg _ (ih (first + 1))

theorem Source.steps_printedLines (source : Source) {token : Nat → Kind → String}
    (htoken : ∀ line kind, token line kind ∈ kind.tokens) {operations : List Operation}
    (h : ∀ operation ∈ operations, operation.Writable) (first : Nat) :
    source.steps [] ((numberLines first (printedLines token first operations)).map
      Line.statement) = ((source.eventsFrom first operations).map .event, []) := by
  rw [statements_printedLines]
  induction operations generalizing first with
  | nil => rfl
  | cons operation operations ih =>
    have hfirst := source.step_statement (h operation List.mem_cons_self) (htoken first) first
    have hrest := ih (fun other hother => h other (List.mem_cons_of_mem _ hother)) (first + 1)
    rw [List.zipIdx_cons, List.map_cons, Source.steps, hfirst]
    dsimp only
    rw [hrest]
    rfl

/-- A scan of printed operations finds them again, each at its own line, and nothing else. -/
theorem Source.scan_printedLines (source : Source) (token : Nat → Kind → String)
    (htoken : ∀ line kind, token line kind ∈ kind.tokens) (operations : List Operation)
    (h : ∀ operation ∈ operations, operation.Writable) :
    source.scan (endLines (printedLines token 1 operations)) =
      (source.eventsFrom 1 operations).map .event := by
  have hphrases : ∀ text ∈ printedLines token 1 operations,
      Phrase (ofText text) ∧ text ≠ "__END__".toList := by
    intro text htext
    obtain ⟨⟨operation, line⟩, hmem, rfl⟩ := List.mem_map.mp htext
    have hwritable := h operation (List.fst_mem_of_mem_zipIdx hmem)
    exact ⟨phrase_statement hwritable (htoken line), statement_ne_end (token line) operation⟩
  rw [Source.scan, statements_endLines hphrases, source.steps_printedLines htoken h]
  exact List.append_nil _

/-- Names that are keywords where no colon precedes them. -/
def keywordNames : List Operation :=
  [.defineTable "end", .declareColumn "end" "do" .reference .declined,
    .retypeColumn "end" "do" .bigint, .renameColumn "end" "do" "if", .removeColumn "end" "unless",
    .renameTable "end" "__END__", .addIndex "__END__" ["if", "do"], .dropTable "__END__"]

def keywordNameLines : List String :=
  ["create_table :end", "add_column :end, :do, :references, index: false",
    "change_column :end, :do, :bigint", "rename_column :end, :do, :if",
    "remove_column :end, :unless", "rename_table :end, :__END__", "add_index :__END__, [:if, :do]",
    "drop_table :__END__"]

theorem Source.scan_keywordNames :
    let source : Source := { path := ⟨"1.rb"⟩, verbose := true }
    (∀ operation ∈ keywordNames, operation.Writable) ∧
      source.scan (endLines (keywordNameLines.map String.toList)) =
        (source.eventsFrom 1 keywordNames).map .event := by
  intro source
  have hwritable : ∀ operation ∈ keywordNames, operation.Writable := by decide +kernel
  have htoken : ∀ (_ : Nat) (kind : Kind), kind.tokens.headD "" ∈ kind.tokens := by
    intro _ kind
    cases kind <;> decide
  have hscan := source.scan_printedLines (fun _ kind => kind.tokens.headD "") htoken keywordNames
    hwritable
  have hlines : printedLines (fun _ kind => kind.tokens.headD "") 1 keywordNames =
      keywordNameLines.map String.toList := by
    decide +kernel
  rw [hlines] at hscan
  exact ⟨hwritable, hscan⟩

end Scan

end ForeignKeyLint.Migration
