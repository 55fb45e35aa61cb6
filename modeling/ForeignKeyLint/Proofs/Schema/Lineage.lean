import ForeignKeyLint.Proofs.Schema.Life

/-!
The lineage of a column, read off a history that may rename. It holds the declarations, changes of
type and renames that the column went through under all its names; a rename hands the lineage on to
the new name, over that of a column that may stand there. Main statement: after any history the
record of every column traces to its lineage, so each of its fields is owed to one event of the
history, and a column without a record has no lineage. Without renames a lineage is the life of the
column.
-/

namespace ForeignKeyLint.Schema

namespace Operation

/-- The kind that a declaration or a change of type gives to its column. -/
def givenKind? : Operation → Option Kind
  | .declareColumn _ _ kind _ | .retypeColumn _ _ kind => some kind
  | _ => none

/-- The operation declares, retypes or renames a column. -/
def touchesColumn : Operation → Bool
  | .declareColumn .. | .retypeColumn .. | .renameColumn .. => true
  | _ => false

end Operation

/-- The lineages after one more event, given those before it. A column that has no lineage does not
exist, so a rename has nothing to hand on. -/
def passOn (before : ColumnKey → List Occurrence) (last : Occurrence) (key : ColumnKey) :
    List Occurrence :=
  match last.operation with
  | .renameTable source target =>
    let moved := before { table := source, column := key.column }
    if key.table = target ∧ moved ≠ [] then moved
    else if key.table = source then []
    else before key
  | .renameColumn table source target =>
    let moved := before { table, column := source }
    if key = { table, column := target } ∧ moved ≠ [] then moved ++ [last]
    else if key = { table, column := source } then []
    else before key
  | operation =>
    if operation.ends key then []
    else if operation.shapes? = some key then before key ++ [last]
    else before key

/-- The events that the column of a key went through under all its names, in order. -/
def lineage (history : List Occurrence) : ColumnKey → List Occurrence :=
  history.foldl passOn fun _ => []

theorem lineage_concat (history : List Occurrence) (last : Occurrence) :
    lineage (history ++ [last]) = passOn (lineage history) last := by
  simp [lineage]

theorem passOn_of_isRename_eq_false (before : ColumnKey → List Occurrence) {last : Occurrence}
    (h : last.operation.isRename = false) (key : ColumnKey) :
    passOn before last key =
      if last.operation.ends key then []
      else if last.operation.shapes? = some key then before key ++ [last]
      else before key := by
  unfold passOn
  cases hop : last.operation with
  | renameTable source target => simp [hop, Operation.isRename] at h
  | renameColumn table source target => simp [hop, Operation.isRename] at h
  | _ => rfl

/-- Without renames a lineage is a life. -/
theorem lineage_eq_life (history : List Occurrence)
    (h : ∀ occurrence ∈ history, occurrence.operation.isRename = false) (key : ColumnKey) :
    lineage history key = life key history := by
  induction history using List.reverseRecOn with
  | nil => rfl
  | append_singleton history last ih =>
    rw [lineage_concat, passOn_of_isRename_eq_false _ (h last (by simp)), life_concat,
      ih fun o ho => h o (by simp [ho])]

theorem touchesColumn_of_shapes? {operation : Operation} {key : ColumnKey}
    (h : operation.shapes? = some key) : operation.touchesColumn = true := by
  cases operation <;> simp_all [Operation.shapes?, Operation.touchesColumn]

/-- A lineage keeps events of the history that touch a column, in their order. -/
theorem lineage_sublist (history : List Occurrence) (key : ColumnKey) :
    (lineage history key).Sublist
      (history.filter fun occurrence => occurrence.operation.touchesColumn) := by
  induction history using List.reverseRecOn generalizing key with
  | nil => exact List.Sublist.refl _
  | append_singleton history last ih =>
    rw [lineage_concat, List.filter_append]
    have hkept (other : ColumnKey) := (ih other).trans (List.sublist_append_left _
      ([last].filter fun occurrence => occurrence.operation.touchesColumn))
    have hextended (other : ColumnKey) (htouches : last.operation.touchesColumn = true) :
        (lineage history other ++ [last]).Sublist
          (history.filter (fun occurrence => occurrence.operation.touchesColumn) ++
            [last].filter fun occurrence => occurrence.operation.touchesColumn) := by
      rw [List.filter_singleton, htouches]
      exact (ih other).append_right [last]
    cases hrename : last.operation.isRename with
    | false =>
      rw [passOn_of_isRename_eq_false _ hrename]
      split
      · exact List.nil_sublist _
      · split
        · next hshapes => exact hextended key (touchesColumn_of_shapes? hshapes)
        · exact hkept key
    | true =>
      unfold passOn
      cases hop : last.operation with
      | renameTable source target =>
        simp only
        split_ifs
        · exact hkept _
        · exact List.nil_sublist _
        · exact hkept key
      | renameColumn table source target =>
        simp only
        split_ifs
        · exact hextended _ (by simp [hop, Operation.touchesColumn])
        · exact List.nil_sublist _
        · exact hkept key
      | _ => simp [hop, Operation.isRename] at hrename

/-- What the record of a column owes to the events of its lineage. -/
structure Column.TracesTo (column : Column) (lineage : List Occurrence) : Prop where
  sumsUp : column.SumsUp lineage
  firstSeen : ∃ first, lineage.head? = some first ∧ first.operation.givenKind?.isSome = true ∧
    first.event.location = column.firstSeen
  kind : ∃ giver ∈ lineage, giver.operation.givenKind? = some column.kind ∧
    giver.event.location = column.kindLocation
  declared : column.declared = lineage.any (·.operation.declaration?.isSome)

/-- The record of a column, if it has one, traces to its lineage, and a column without a record has
no lineage. -/
def Descended (known : Option Column) (lineage : List Occurrence) : Prop :=
  match known with
  | some column => column.TracesTo lineage
  | none => lineage = []

section Descended

variable {known : Option Column} {lineage : List Occurrence}

theorem Descended.recorded (h : Descended known lineage) : Recorded known lineage := by
  cases known with
  | some known => exact h.sumsUp
  | none => exact h

theorem Descended.ne_nil_iff (h : Descended known lineage) :
    lineage ≠ [] ↔ known.isSome = true := by
  cases known with
  | some known => simpa using h.sumsUp.alive
  | none => simpa [Descended] using h

/-- A declaration adds itself to the lineage. It gives the kind unless a change of type has. -/
theorem Descended.declaring (h : Descended known lineage) (last : Occurrence)
    {table column : String} {kind : Kind} {inlineIndex : InlineIndex}
    (hlast : last.operation = .declareColumn table column kind inlineIndex) :
    (Column.declaring known last.origin kind inlineIndex last.event.location).TracesTo
      (lineage ++ [last]) := by
  have hsumsUp := h.recorded.declaring last hlast
  cases known with
  | some known =>
    obtain ⟨first, hhead, hfirst⟩ := h.firstSeen
    refine ⟨hsumsUp, ⟨first, by simp [hhead], hfirst⟩, ?_, ?_⟩
    · cases hretyped : known.retyped with
      | some change =>
        obtain ⟨giver, hgiver, hkind⟩ := h.kind
        refine ⟨giver, by simp [hgiver], ?_⟩
        simpa [Column.declaring, Column.kind, Column.kindLocation, hretyped] using hkind
      | none =>
        refine ⟨last, by simp, ?_⟩
        simp [Column.declaring, Column.kind, Column.kindLocation, hretyped, hlast,
          Operation.givenKind?]
    · simp [Column.declaring, hlast, Operation.declaration?]
  | none =>
    obtain rfl : lineage = [] := h
    refine ⟨hsumsUp, ⟨last, rfl, ?_, rfl⟩, ⟨last, by simp, ?_, rfl⟩, ?_⟩
    · simp [hlast, Operation.givenKind?]
    · simp [hlast, Operation.givenKind?, Column.declaring, Column.kind]
    · simp [Column.declaring, hlast, Operation.declaration?]

/-- A change of type adds itself to the lineage and gives the kind. -/
theorem Descended.retyping (h : Descended known lineage) (last : Occurrence)
    {table column : String} {kind : Kind} (hlast : last.operation = .retypeColumn table column kind) :
    (Column.retyping known last.origin kind last.event.location).TracesTo (lineage ++ [last]) := by
  have hsumsUp := h.recorded.retyping last hlast
  have hgiven : last.operation.givenKind? = some kind := by simp [hlast, Operation.givenKind?]
  have hdeclares : last.operation.declaration? = none := by simp [hlast, Operation.declaration?]
  cases known with
  | some known =>
    obtain ⟨first, hhead, hfirst⟩ := h.firstSeen
    refine ⟨hsumsUp, ⟨first, by simp [hhead], hfirst⟩, ⟨last, by simp, hgiven, rfl⟩, ?_⟩
    simp [Column.retyping, hdeclares, h.declared]
  | none =>
    obtain rfl : lineage = [] := h
    refine ⟨hsumsUp, ⟨last, rfl, by simp [hgiven], rfl⟩, ⟨last, by simp, hgiven, rfl⟩, ?_⟩
    simp [Column.retyping, hdeclares]

/-- A rename adds itself to the lineage of the column that it moves and changes nothing else. -/
theorem Column.TracesTo.touching {column : Column} (h : column.TracesTo lineage) (last : Occurrence)
    {table source target : String} (hlast : last.operation = .renameColumn table source target) :
    (column.touching last.origin).TracesTo (lineage ++ [last]) := by
  have hdeclarations : declarations (lineage ++ [last]) = declarations lineage := by
    simp [declarations, hlast, Operation.declaration?]
  have hkinds : newKinds (lineage ++ [last]) = newKinds lineage := by
    simp [newKinds, hlast, Operation.newKind?]
  obtain ⟨first, hhead, hfirst⟩ := h.firstSeen
  obtain ⟨giver, hgiver, hkind⟩ := h.kind
  refine ⟨⟨by simp, ?_, ?_, ?_⟩, ⟨first, by simp [hhead], hfirst⟩,
    ⟨giver, by simp [hgiver], hkind⟩, ?_⟩
  · rw [hkinds]
    exact h.sumsUp.retyped
  · rw [lastDeclaration?, hdeclarations, hkinds]
    exact h.sumsUp.declared
  · simp [Column.touching, h.sumsUp.touched]
  · simp [Column.touching, h.declared, hlast, Operation.declaration?]

end Descended

section Steps

variable {state : State} {before : ColumnKey → List Occurrence}

/-- An event that renames nothing keeps every record traced to its lineage. -/
theorem descended_apply_of_isRename_eq_false
    (h : ∀ key, Descended (state.columns.find? key) (before key)) (last : Occurrence)
    (hrename : last.operation.isRename = false) (key : ColumnKey) :
    Descended ((state.apply last.origin last.event).columns.find? key) (passOn before last key) := by
  rw [passOn_of_isRename_eq_false before hrename]
  by_cases hends : last.operation.ends key = true
  · rw [state.find?_apply_of_ends last.origin last.event key hends, if_pos hends]
    rfl
  rw [if_neg hends]
  by_cases hshapes : last.operation.shapes? = some key
  · rw [if_pos hshapes]
    cases hop : last.operation with
    | declareColumn table column kind inlineIndex =>
      obtain rfl : { table, column } = key := by simpa [hop, Operation.shapes?] using hshapes
      rw [state.find?_apply_of_declare last.origin hop]
      exact (h _).declaring last hop
    | retypeColumn table column kind =>
      obtain rfl : { table, column } = key := by simpa [hop, Operation.shapes?] using hshapes
      rw [state.find?_apply_of_retype last.origin hop]
      exact (h _).retyping last hop
    | _ => simp [hop, Operation.shapes?] at hshapes
  · rw [if_neg hshapes, state.find?_apply_of_unrelated last.origin last.event key hrename
      (Bool.eq_false_iff.mpr hends) hshapes]
    exact h key

/-- Renaming a column hands its lineage on with its record. -/
theorem descended_renameColumn (h : ∀ key, Descended (state.columns.find? key) (before key))
    (last : Occurrence) {table source target : String}
    (hlast : last.operation = .renameColumn table source target) (key : ColumnKey) :
    Descended ((state.renameColumn last.origin table source target).columns.find? key)
      (passOn before last key) := by
  simp only [passOn, hlast, (h { table, column := source }).ne_nil_iff, State.columns_renameColumn]
  cases hknown : state.columns.find? { table, column := source } with
  | some known =>
    have htraces : known.TracesTo (before { table, column := source }) := by
      have hsource := h { table, column := source }
      rwa [hknown] at hsource
    simp only [ColumnTable.find?_move, Option.isSome_some, and_true]
    split_ifs
    · exact htraces.touching last hlast
    · rfl
    · exact h key
  | none =>
    simp only [Option.isSome_none, Bool.false_eq_true, and_false, if_false]
    split_ifs with hsource
    · rw [hsource, hknown]
      rfl
    · exact h key

/-- Renaming a table hands the lineages of its columns on with their records. -/
theorem descended_renameTable (hsorted : state.columns.Sorted)
    (h : ∀ key, Descended (state.columns.find? key) (before key)) (last : Occurrence)
    {source target : String} (hlast : last.operation = .renameTable source target) (key : ColumnKey) :
    Descended ((state.renameTable source target).columns.find? key) (passOn before last key) := by
  simp only [passOn, hlast, (h { table := source, column := key.column }).ne_nil_iff]
  rw [State.renameTable, ColumnTable.find?_renameTable hsorted]
  have hmoved := h { table := source, column := key.column }
  cases hknown : state.columns.find? { table := source, column := key.column } with
  | some known =>
    rw [hknown] at hmoved
    simp only [Option.isSome_some, and_true, Option.some_or]
    split_ifs
    · exact hmoved
    · rfl
    · exact h key
  | none =>
    simp only [Option.isSome_none, Bool.false_eq_true, and_false, if_false, Option.none_or]
    split_ifs with htarget hsource
    · have hkey : key = { table := source, column := key.column } := by rw [← hsource]
      rw [hkey, hknown]
      rfl
    · exact h key
    · rfl
    · exact h key

/-- One event keeps every record traced to its lineage. -/
theorem descended_apply (hsorted : state.columns.Sorted)
    (h : ∀ key, Descended (state.columns.find? key) (before key)) (last : Occurrence)
    (key : ColumnKey) :
    Descended ((state.apply last.origin last.event).columns.find? key) (passOn before last key) := by
  cases hrename : last.operation.isRename with
  | false => exact descended_apply_of_isRename_eq_false h last hrename key
  | true =>
    cases hop : last.operation with
    | renameTable source target =>
      have happly : state.apply last.origin last.event = state.renameTable source target := by
        rw [State.apply, ← Occurrence.operation, hop]
      rw [happly]
      exact descended_renameTable hsorted h last hop key
    | renameColumn table source target =>
      have happly : state.apply last.origin last.event =
          state.renameColumn last.origin table source target := by
        rw [State.apply, ← Occurrence.operation, hop]
      rw [happly]
      exact descended_renameColumn h last hop key
    | _ => simp [hop, Operation.isRename] at hrename

end Steps

/-- After any history the record of every column traces to its lineage. -/
theorem descended_replay (history : List Occurrence) (key : ColumnKey) :
    Descended ((State.replay {} history).columns.find? key) (lineage history key) := by
  induction history using List.reverseRecOn generalizing key with
  | nil => rfl
  | append_singleton history last ih =>
    rw [State.replay_concat, lineage_concat]
    exact descended_apply (State.sorted_replay_empty history) ih last key

theorem tracesTo_lineage {history : List Occurrence} {key : ColumnKey} {column : Column}
    (h : (State.replay {} history).columns.find? key = some column) :
    column.TracesTo (lineage history key) := by
  have hdescended := descended_replay history key
  rwa [h] at hdescended

end ForeignKeyLint.Schema
