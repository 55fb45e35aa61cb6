import ForeignKeyLint.Schema.State
import Mathlib.Data.List.Basic

/-!
The column table as a finite map. A look-up after an insertion, a removal, a move or the renaming of
a whole table is given by the look-ups before it, with no premise on the order of the entries. The
order matters for what a report sees: every operation keeps the entries strictly increasing, so a
key occurs once, membership and look-up agree, and two tables with the same look-ups are equal.
-/

namespace ForeignKeyLint.Schema

namespace ColumnKey

instance : Std.TransCmp ColumnKey.compare :=
  inferInstanceAs
    (Std.TransCmp (compareLex (compareOn ColumnKey.table) (compareOn ColumnKey.column)))

theorem compare_eq_iff (a b : ColumnKey) : a.compare b = .eq ↔ a = b := by
  constructor
  · intro h
    obtain ⟨htable, hcolumn⟩ := Ordering.then_eq_eq.mp h
    obtain ⟨table, column⟩ := a
    obtain ⟨otherTable, otherColumn⟩ := b
    simp only at htable hcolumn
    rw [Std.LawfulEqOrd.eq_of_compare htable, Std.LawfulEqOrd.eq_of_compare hcolumn]
  · rintro rfl
    exact Std.ReflCmp.compare_self

theorem ne_of_compare_lt {a b : ColumnKey} (h : a.compare b = .lt) : a ≠ b := by
  intro heq
  rw [(compare_eq_iff a b).mpr heq] at h
  cases h

end ColumnKey

namespace ColumnTable

@[simp]
theorem find?_nil (key : ColumnKey) : find? [] key = none := rfl

theorem find?_cons (first key : ColumnKey) (column : Column) (rest : ColumnTable) :
    find? ((first, column) :: rest) key = if key = first then some column else rest.find? key := by
  by_cases h : key = first
  · simp [find?, h]
  · simp [find?, List.lookup_cons, h, beq_false_of_ne h]

/-- An insertion is seen at its key and nowhere else. -/
theorem find?_insert (columns : ColumnTable) (key other : ColumnKey) (column : Column) :
    (insert key column columns).find? other =
      if other = key then some column else columns.find? other := by
  induction columns with
  | nil => simp [insert, find?_cons]
  | cons entry rest ih =>
    obtain ⟨first, known⟩ := entry
    unfold insert
    split
    · rw [find?_cons]
    · next heq =>
      obtain rfl := (ColumnKey.compare_eq_iff key first).mp heq
      simp only [find?_cons]
      split <;> rfl
    · next hgt =>
      have hne : first ≠ key := by
        rintro rfl
        rw [(ColumnKey.compare_eq_iff first first).mpr rfl] at hgt
        cases hgt
      rw [find?_cons, find?_cons, ih]
      by_cases h : other = first
      · subst h
        simp [hne]
      · simp [h]

/-- Keeping the entries whose key passes a test leaves the look-ups of those keys alone. -/
theorem find?_filter (columns : ColumnTable) (keep : ColumnKey → Bool) (key : ColumnKey) :
    find? (columns.filter fun entry => keep entry.1) key =
      if keep key then columns.find? key else none := by
  induction columns with
  | nil => simp
  | cons entry rest ih =>
    obtain ⟨first, known⟩ := entry
    simp only [List.filter_cons, find?_cons]
    by_cases h : key = first
    · subst h
      by_cases hkeep : keep key
      · simp [hkeep, find?_cons]
      · simp [hkeep, ih]
    · by_cases hkeep : keep first <;> simp [hkeep, find?_cons, h, ih]

theorem find?_erase (columns : ColumnTable) (key other : ColumnKey) :
    (columns.erase key).find? other = if other = key then none else columns.find? other := by
  rw [erase, find?_filter columns (fun k => k ≠ key)]
  by_cases h : other = key <;> simp [h]

theorem find?_eraseTable (columns : ColumnTable) (table : String) (key : ColumnKey) :
    (columns.eraseTable table).find? key =
      if key.table = table then none else columns.find? key := by
  rw [eraseTable, find?_filter columns (fun k => k.table ≠ table)]
  by_cases h : key.table = table <;> simp [h]

/-- After a move the target holds the column, and the source holds none unless it is the target. -/
theorem find?_move (columns : ColumnTable) (source target key : ColumnKey) (column : Column) :
    (columns.move source target column).find? key =
      if key = target then some column
      else if key = source then none
      else columns.find? key := by
  rw [move, find?_insert, find?_erase]

/-- The entries are strictly increasing in their keys. -/
def Sorted (columns : ColumnTable) : Prop :=
  columns.Pairwise fun a b => a.1.compare b.1 = .lt

theorem mem_insert {columns : ColumnTable} {key : ColumnKey} {column : Column}
    {entry : ColumnKey × Column} (h : entry ∈ insert key column columns) :
    entry = (key, column) ∨ entry ∈ columns := by
  induction columns with
  | nil => simpa [insert] using h
  | cons first rest ih =>
    unfold insert at h
    split at h
    · simpa using h
    · rcases List.mem_cons.mp h with h | h
      · exact .inl h
      · exact .inr (List.mem_cons_of_mem _ h)
    · rcases List.mem_cons.mp h with h | h
      · exact .inr (by simp [h])
      · exact (ih h).imp_right (List.mem_cons_of_mem _)

theorem Sorted.insert {columns : ColumnTable} (h : columns.Sorted) (key : ColumnKey)
    (column : Column) : (ColumnTable.insert key column columns).Sorted := by
  induction columns with
  | nil => simp [ColumnTable.insert, Sorted]
  | cons first rest ih =>
    obtain ⟨hfirst, hrest⟩ := List.pairwise_cons.mp h
    unfold ColumnTable.insert
    split
    · next hlt =>
      refine List.pairwise_cons.mpr ⟨?_, h⟩
      intro entry hentry
      rcases List.mem_cons.mp hentry with rfl | hentry
      · exact hlt
      · exact Std.TransCmp.lt_trans hlt (hfirst entry hentry)
    · next heq =>
      obtain rfl := (ColumnKey.compare_eq_iff _ _).mp heq
      exact List.pairwise_cons.mpr ⟨hfirst, hrest⟩
    · next hgt =>
      refine List.pairwise_cons.mpr ⟨?_, ih hrest⟩
      intro entry hentry
      rcases mem_insert hentry with rfl | hentry
      · exact Std.OrientedCmp.gt_iff_lt.mp hgt
      · exact hfirst entry hentry

theorem Sorted.filter {columns : ColumnTable} (h : columns.Sorted)
    (keep : ColumnKey × Column → Bool) : Sorted (columns.filter keep) :=
  List.Pairwise.filter keep h

theorem Sorted.move {columns : ColumnTable} (h : columns.Sorted) (source target : ColumnKey)
    (column : Column) : (columns.move source target column).Sorted :=
  (h.filter _).insert target column

/-- A key below all keys of a table is not found in it. -/
theorem find?_eq_none_of_lt {columns : ColumnTable} {key : ColumnKey}
    (h : ∀ entry ∈ columns, key.compare entry.1 = .lt) : columns.find? key = none := by
  refine List.lookup_eq_none_iff.mpr ?_
  intro entry hentry
  simpa using ColumnKey.ne_of_compare_lt (h entry hentry)

/-- In an ordered table an entry is found under its key. -/
theorem Sorted.mem_iff {columns : ColumnTable} (h : columns.Sorted) (key : ColumnKey)
    (column : Column) : (key, column) ∈ columns ↔ columns.find? key = some column := by
  induction columns with
  | nil => simp
  | cons first rest ih =>
    obtain ⟨firstKey, known⟩ := first
    obtain ⟨hfirst, hrest⟩ := List.pairwise_cons.mp h
    rw [find?_cons, List.mem_cons, ih hrest]
    by_cases hkey : key = firstKey
    · subst hkey
      -- The first key does not come again, because it is below all later ones.
      simp [find?_eq_none_of_lt hfirst, eq_comm]
    · simp [hkey]

/-- Ordered tables are determined by their look-ups. -/
theorem Sorted.ext {a b : ColumnTable} (ha : a.Sorted) (hb : b.Sorted)
    (h : ∀ key, a.find? key = b.find? key) : a = b := by
  have hmem (entry : ColumnKey × Column) : entry ∈ a ↔ entry ∈ b := by
    obtain ⟨key, column⟩ := entry
    rw [ha.mem_iff, hb.mem_iff, h]
  have hnodup {columns : ColumnTable} (hsorted : columns.Sorted) : columns.Nodup :=
    hsorted.imp fun hlt heq => ColumnKey.ne_of_compare_lt hlt (congrArg Prod.fst heq)
  refine List.Perm.eq_of_pairwise ?_ ha hb
    ((List.perm_ext_iff_of_nodup (hnodup ha) (hnodup hb)).mpr hmem)
  intro x y _ _ hxy hyx
  exact absurd hyx (Std.OrientedCmp.not_lt_of_lt hxy)

/-- The moves of `renameTable`, one for each entry of `moved`, whose keys are distinct and belong to
the source. What is moved lands on the target, over a column that may stand there. -/
private theorem find?_foldl_move (moved columns : ColumnTable) (source target : String)
    (hsorted : moved.Sorted) (hsource : ∀ entry ∈ moved, entry.1.table = source)
    (key : ColumnKey) :
    find? (moved.foldl
        (fun columns (key, column) =>
          columns.move key { table := target, column := key.column } column) columns) key =
      if key.table = target then
        (find? moved { table := source, column := key.column }).or (columns.find? key)
      else if key.table = source ∧ (moved.find? key).isSome then none
      else columns.find? key := by
  induction moved generalizing columns with
  | nil => simp
  | cons entry rest ih =>
    obtain ⟨⟨table, name⟩, column⟩ := entry
    obtain ⟨hfirst, hrest⟩ := List.pairwise_cons.mp hsorted
    obtain rfl : table = source := hsource _ List.mem_cons_self
    have hfresh : find? rest { table, column := name } = none := find?_eq_none_of_lt hfirst
    rw [List.foldl_cons, ih _ hrest fun entry hentry => hsource entry (List.mem_cons_of_mem _ hentry)]
    obtain ⟨keyTable, keyName⟩ := key
    simp only [find?_move, find?_cons, ColumnKey.mk.injEq]
    by_cases hname : keyName = name
    · subst hname
      by_cases htable : keyTable = target <;> by_cases hkey : keyTable = table <;>
        simp [htable, hkey, hfresh]
    · simp [hname]

/-- Renaming a table moves its columns, and a column that moves takes the place of one that stands
under its new key. -/
theorem find?_renameTable {columns : ColumnTable} (h : columns.Sorted) (source target : String)
    (key : ColumnKey) :
    (columns.renameTable source target).find? key =
      if key.table = target then
        (columns.find? { table := source, column := key.column }).or (columns.find? key)
      else if key.table = source then none
      else columns.find? key := by
  have hmoved (other : ColumnKey) :
      find? (columns.filter fun entry => entry.1.table = source) other =
        if other.table = source then columns.find? other else none := by
    simpa using find?_filter columns (fun k => k.table = source) other
  have hsource : ∀ entry ∈ columns.filter fun entry => entry.1.table = source,
      entry.1.table = source := by simp
  rw [renameTable, find?_foldl_move _ _ source target (h.filter _) hsource]
  simp only [hmoved, if_true]
  by_cases hkey : key.table = source
  · cases columns.find? key <;> simp [hkey]
  · simp [hkey]

theorem Sorted.renameTable {columns : ColumnTable} (h : columns.Sorted) (source target : String) :
    (columns.renameTable source target).Sorted := by
  unfold ColumnTable.renameTable
  generalize columns.filter (fun entry => entry.1.table = source) = moved
  induction moved generalizing columns with
  | nil => exact h
  | cons entry rest ih => exact ih (h.move _ _ _)

end ColumnTable

end ForeignKeyLint.Schema
