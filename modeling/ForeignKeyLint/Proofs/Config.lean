import ForeignKeyLint.Config
import ForeignKeyLint.Proofs.Text.Search

/-!
Entries of ignored columns. A configuration that is accepted holds only entries with a table, one dot and a
column, neither part empty. Main statement: with such a configuration a column is ignored exactly if some entry
is its name after the name of its table and a dot, or after a star and a dot. Validation and matching divide an
entry at its first dot each, and in an accepted entry there is no other. So a name that has a dot itself is
never read as another table and column.
-/

namespace ForeignKeyLint

open Lint Schema Text

theorem entry_parts_iff (entry : String) (table column : List Char) :
    splitEntry? entry = some (table, column) ↔
      entry.toList = table ++ '.' :: column ∧ '.' ∉ table := by
  constructor
  · intro h
    have hentry := eq_append_of_splitAtFirst? h
    rw [List.append_assoc, List.singleton_append] at hentry
    exact ⟨hentry, not_mem_of_splitAtFirst? h⟩
  · rintro ⟨hentry, htable⟩
    unfold splitEntry?
    rw [hentry]
    exact splitAtFirst?_char htable column

namespace Config

theorem bind_eq_ok_iff {ε : Type} (first second : Except ε Unit) :
    (do first; second) = .ok () ↔ first = .ok () ∧ second = .ok () := by
  cases first with
  | error fault => simp [bind, Except.bind]
  | ok => simp [bind, Except.bind]

theorem checkAll_eq_ok_iff (field : String) (isValid : String → Bool) (values : List String) :
    checkAll field isValid values = .ok () ↔ ∀ value ∈ values, isValid value = true := by
  unfold checkAll
  split
  · next value hfault =>
    have hinvalid := List.find?_some hfault
    have hmem := List.mem_of_find?_eq_some hfault
    simp only [reduceCtorEq, false_iff]
    intro h
    simp [h value hmem] at hinvalid
  · next hnone => simpa using hnone

theorem checkPresent_eq_ok_iff (field : String) (path : Path) :
    checkPresent field path = .ok () ↔ path.raw.isEmpty = false := by
  unfold checkPresent
  split
  · next hempty => simpa using hempty
  · next hpresent => simpa using hpresent

/-- What a configuration is accepted for. -/
theorem validateBy_eq_ok_iff (isPattern : String → Bool) (config : Config) :
    config.validateBy isPattern = .ok () ↔
      isAllBlank config.foreignKeySuffix.toList = false ∧ config.schemaPath.raw.isEmpty = false ∧
      config.migrationsDir.raw.isEmpty = false ∧
      (∀ pattern ∈ config.excludedFiles, isPattern pattern = true) ∧
      ∀ entry ∈ config.ignoredColumns, isColumnEntry entry = true := by
  rw [validateBy, bind_eq_ok_iff, bind_eq_ok_iff, bind_eq_ok_iff, bind_eq_ok_iff]
  simp only [checkAll_eq_ok_iff, checkPresent_eq_ok_iff, List.forall_mem_singleton, Bool.not_eq_true']

/-- An entry is a table and a column with a dot between them, and no other dot. -/
theorem isColumnEntry_iff (entry : String) :
    isColumnEntry entry = true ↔
      ∃ table column : List Char, entry.toList = table ++ '.' :: column ∧ table ≠ [] ∧ column ≠ [] ∧
        '.' ∉ table ∧ '.' ∉ column := by
  constructor
  · intro h
    unfold isColumnEntry at h
    split at h
    · next table column hsplit =>
      obtain ⟨hentry, hdot⟩ := (entry_parts_iff entry table column).mp hsplit
      simp only [Bool.and_eq_true, Bool.not_eq_true', List.isEmpty_eq_false_iff, List.contains_eq_mem,
        decide_eq_false_iff_not] at h
      exact ⟨table, column, hentry, h.1.1, h.1.2, hdot, h.2⟩
    · contradiction
  · rintro ⟨table, column, hentry, htable, hcolumn, hdot, hother⟩
    rw [isColumnEntry, (entry_parts_iff entry table column).mpr ⟨hentry, hdot⟩]
    simp [htable, hcolumn, hother]

end Config

/-- An entry without a second dot names a column exactly if its parts do. -/
theorem names_column_iff {entry : String} {table column : List Char}
    (hentry : entry.toList = table ++ '.' :: column) (htable : '.' ∉ table) (hcolumn : '.' ∉ column)
    (key : ColumnKey) :
    entry = key.table ++ "." ++ key.column ∨ entry = "*." ++ key.column ↔
      (table = ['*'] ∨ table = key.table.toList) ∧ column = key.column.toList := by
  have hparts (other : List Char) :
      entry.toList = other ++ '.' :: key.column.toList ↔ table = other ∧ column = key.column.toList := by
    rw [hentry, List.append_cons_inj_of_notMem htable hcolumn]
    simp
  have hnamed : entry = key.table ++ "." ++ key.column ↔
      table = key.table.toList ∧ column = key.column.toList := by
    rw [← hparts, ← String.toList_inj]
    simp
  have hstarred : entry = "*." ++ key.column ↔ table = ['*'] ∧ column = key.column.toList := by
    rw [← hparts, ← String.toList_inj]
    simp
  rw [hnamed, hstarred, or_comm, or_and_right]

/-- With an accepted configuration a column is ignored exactly if some entry names it, with its table or with
a star, whatever is accepted as a pattern. -/
theorem ignored_iff_named {isPattern : String → Bool} {config : Config}
    (h : config.validateBy isPattern = .ok ()) (key : ColumnKey) :
    config.policy.isIgnored key = true ↔
      ∃ entry ∈ config.ignoredColumns,
        entry = key.table ++ "." ++ key.column ∨ entry = "*." ++ key.column := by
  obtain ⟨-, -, -, -, hentries⟩ := (config.validateBy_eq_ok_iff isPattern).mp h
  rw [Policy.isIgnored, List.any_eq_true]
  refine exists_congr fun entry => and_congr_right fun hmem => ?_
  obtain ⟨table, column, hentry, -, -, htable, hcolumn⟩ :=
    (Config.isColumnEntry_iff entry).mp (hentries entry hmem)
  rw [(entry_parts_iff entry table column).mpr ⟨hentry, htable⟩,
    names_column_iff hentry htable hcolumn key]
  simp

/-- A star for a table stands for every table, also for one that has a dot in its name. -/
theorem tenant_ignored :
    let config : Config :=
      { excludedFiles := ["*_data.rb"], ignoredColumns := ["*.tenant_id", "albums.label_id"] }
    let key : ColumnKey := { table := "billing.invoices", column := "tenant_id" }
    config.validate = .ok () ∧
      (config.policy.isIgnored key = true ↔
        ∃ entry ∈ config.ignoredColumns,
          entry = key.table ++ "." ++ key.column ∨ entry = "*." ++ key.column) ∧
      config.policy.isIgnored key = true := by
  intro config key
  have hvalid : config.validate = .ok () := by decide +kernel
  exact ⟨hvalid, ignored_iff_named hvalid key, by decide +kernel⟩

/-- An entry with a second dot is not accepted. It would be read as a column of the table before its first
dot, although it is also the name of a column of another table. -/
example :
    let config : Config := { ignoredColumns := ["billing.invoices.tenant_id"] }
    config.validate = .error (.invalidValue "ignored_columns" "billing.invoices.tenant_id") ∧
      config.policy.isIgnored { table := "billing.invoices", column := "tenant_id" } = false ∧
      config.policy.isIgnored { table := "billing", column := "invoices.tenant_id" } = true := by
  decide +kernel

end ForeignKeyLint
