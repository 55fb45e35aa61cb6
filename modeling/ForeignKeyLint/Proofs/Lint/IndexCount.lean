import ForeignKeyLint.Proofs.Lint.Independence
import ForeignKeyLint.Proofs.Text.ByteOrder
import Mathlib.Data.List.Destutter
import Mathlib.Data.List.Sort

/-!
Which indexes count as one. The identity of an index holds its columns in increasing order, each once, and a
list of this kind is determined by its members. So two indexes have the same identity exactly if they are on
the same table and have the same set of columns. Main statement: a verdict counts the pairs of a table and a
set of columns among the indexes of the folded schema, whatever history led there. A rename may have made an
index repeat a column, or made two indexes alike that were added as different ones.

The identity is also what sorting by bytes gives when each column that repeats the one before it is dropped.
That drops every repeat, since equal columns stand side by side once they are sorted.
-/

namespace ForeignKeyLint.Schema

open Text

theorem mem_insertName (name other : String) (names : List String) :
    other ∈ insertName name names ↔ other = name ∨ other ∈ names := by
  induction names with
  | nil => simp [insertName]
  | cons first rest ih =>
    rw [insertName]
    split_ifs with hless hsame
    · exact List.mem_cons
    · simp [hsame]
    · rw [List.mem_cons, ih, List.mem_cons, or_left_comm]

/-- An increasing list stays increasing. -/
theorem pairwise_insertName {names : List String} (h : names.Pairwise (· < ·)) (name : String) :
    (insertName name names).Pairwise (· < ·) := by
  induction names with
  | nil => exact List.pairwise_singleton _ _
  | cons first rest ih =>
    obtain ⟨hfirst, hrest⟩ := List.pairwise_cons.mp h
    rw [insertName]
    split_ifs with hless hsame
    · refine List.pairwise_cons.mpr ⟨?_, h⟩
      intro other hother
      rcases List.mem_cons.mp hother with rfl | hother
      · exact hless
      · exact lt_trans hless (hfirst other hother)
    · exact h
    · have hgreater : first < name := lt_of_le_of_ne (not_lt.mp hless) (Ne.symm hsame)
      refine List.pairwise_cons.mpr ⟨?_, ih hrest⟩
      intro other hother
      rcases (mem_insertName name other rest).mp hother with rfl | hother
      · exact hgreater
      · exact hfirst other hother

namespace Index

theorem mem_identity (index : Index) (column : String) :
    column ∈ index.identity.2 ↔ column ∈ index.columns := by
  change column ∈ index.columns.foldr insertName [] ↔ column ∈ index.columns
  induction index.columns with
  | nil => exact Iff.rfl
  | cons first rest ih => rw [List.foldr_cons, mem_insertName, ih, List.mem_cons]

theorem pairwise_identity (index : Index) : index.identity.2.Pairwise (· < ·) := by
  change (index.columns.foldr insertName []).Pairwise (· < ·)
  induction index.columns with
  | nil => exact List.Pairwise.nil
  | cons first rest ih => exact pairwise_insertName ih first

/-- An identity holds the one increasing list that has the columns of the index. -/
theorem identity_eq_of_pairwise (index : Index) {names : List String} (hsorted : names.Pairwise (· < ·))
    (hmem : ∀ column, column ∈ names ↔ column ∈ index.columns) : index.identity = (index.table, names) := by
  have hcolumns : index.identity.2 = names :=
    index.pairwise_identity.eq_of_mem_iff hsorted fun column =>
      (index.mem_identity column).trans (hmem column).symm
  exact congrArg (Prod.mk index.table) hcolumns

/-- Two indexes have the same identity exactly if they are on the same table and have the same columns, in
whatever order and however often. -/
theorem identity_eq_iff (first second : Index) :
    first.identity = second.identity ↔
      first.table = second.table ∧ ∀ column, column ∈ first.columns ↔ column ∈ second.columns := by
  constructor
  · intro h
    refine ⟨congrArg Prod.fst h, fun column => ?_⟩
    rw [← first.mem_identity, h, second.mem_identity]
  · rintro ⟨htable, hcolumns⟩
    rw [first.identity_eq_of_pairwise second.pairwise_identity fun column =>
      (second.mem_identity column).trans (hcolumns column).symm, htable]
    rfl

/-- The columns in the order of their bytes, without those that repeat the one before. -/
def sortedColumns (index : Index) : List String :=
  (index.columns.mergeSort fun a b => bytes a ≤ bytes b).destutter (· ≠ ·)

theorem identity_eq_sortedColumns (index : Index) :
    index.identity = (index.table, index.sortedColumns) := by
  have horder : (fun a b : String => decide (bytes a ≤ bytes b)) = fun a b => decide (a ≤ b) := by
    funext a b
    exact decide_eq_decide.mpr le_iff_bytes_le.symm
  have hsorted : (index.columns.mergeSort fun a b => a ≤ b).Pairwise (· ≤ ·) :=
    List.sortedLE_mergeSort.pairwise
  -- In a sorted list the repeats of a column stand side by side.
  have hdedup : index.sortedColumns = (index.columns.mergeSort fun a b => a ≤ b).dedup := by
    rw [sortedColumns, horder]
    exact hsorted.destutter_eq_dedup
  rw [hdedup]
  apply identity_eq_of_pairwise
  · have hdistinct := List.nodup_dedup (index.columns.mergeSort fun a b => decide (a ≤ b))
    exact ((hsorted.sublist (List.dedup_sublist _)).and hdistinct).imp fun h => lt_of_le_of_ne h.1 h.2
  · intro column
    rw [List.mem_dedup, List.mem_mergeSort]

/-- The table and the set of columns. -/
def columnSet (index : Index) : String × Finset String :=
  (index.table, index.columns.toFinset)

/-- Two indexes have the same table and set of columns exactly if they have the same identity. -/
theorem columnSet_eq_iff (first second : Index) :
    first.columnSet = second.columnSet ↔ first.identity = second.identity := by
  rw [identity_eq_iff, columnSet, columnSet, Prod.mk.injEq, Finset.ext_iff]
  simp only [List.mem_toFinset]

theorem map_identity_eq_columnSet (index : Index) :
    Prod.map id List.toFinset index.identity = index.columnSet := by
  refine Prod.ext rfl (Finset.ext fun column => ?_)
  change column ∈ index.identity.2.toFinset ↔ column ∈ index.columns.toFinset
  rw [List.mem_toFinset, mem_identity, List.mem_toFinset]

end Index

end ForeignKeyLint.Schema

namespace ForeignKeyLint.Lint

open Migration Schema

/-- Indexes are counted by their tables and sets of columns. -/
theorem countDistinct_eq_card_columnSet (indexes : List Index) :
    countDistinct indexes = (indexes.map Index.columnSet).toFinset.card := by
  have himage : (indexes.map Index.columnSet).toFinset =
      (indexes.map Index.identity).toFinset.image (Prod.map id List.toFinset) := by
    ext pair
    simp only [List.mem_toFinset, List.mem_map, Finset.mem_image, exists_exists_and_eq_and,
      Index.map_identity_eq_columnSet]
  rw [countDistinct_eq_card, himage, Finset.card_image_of_injOn]
  intro first hfirst second hsecond heq
  obtain ⟨i, -, rfl⟩ := List.mem_map.mp (List.mem_toFinset.mp hfirst)
  obtain ⟨j, -, rfl⟩ := List.mem_map.mp (List.mem_toFinset.mp hsecond)
  rw [← Index.columnSet_eq_iff, ← Index.map_identity_eq_columnSet, ← Index.map_identity_eq_columnSet]
  exact heq

/-- An index is known by its table and its set of columns, which its identity holds in the order of their bytes.
A verdict counts the indexes of the folded schema by these. -/
theorem indexes_counted_by_columnSet :
    (∀ index : Index, index.identity = (index.table, index.sortedColumns)) ∧
    (∀ first second : Index, first.identity = second.identity ↔
      first.table = second.table ∧ ∀ column, column ∈ first.columns ↔ column ∈ second.columns) ∧
    ∀ (policy : Policy) (snapshot : Snapshot) (files : List File),
      (policy.check snapshot files).stats.indexes =
        ((finalState snapshot files).indexes.map fun index =>
          (index.table, index.columns.toFinset)).toFinset.card := by
  refine ⟨Index.identity_eq_sortedColumns, Index.identity_eq_iff, ?_⟩
  intro policy snapshot files
  exact countDistinct_eq_card_columnSet (finalState snapshot files).indexes

/-- Two orders of two columns, and an index on one of them, are three indexes. After the other column is
renamed to that one, all three are on the same column and count as one. -/
example :
    let location : Location := { file := ⟨"1.rb"⟩, line := 1 }
    let added (columns : List String) : Event := { operation := .addIndex "albums" columns, location }
    let events := [added ["a_id", "b_id"], added ["b_id", "a_id"], added ["a_id"],
      { operation := .renameColumn "albums" "b_id" "a_id", location }]
    let indexes := (State.applyAll {} .changeSet events).indexes
    indexes.map Index.columns = [["a_id", "a_id"], ["a_id", "a_id"], ["a_id"]] ∧
      countDistinct indexes = 1 := by
  decide +kernel

end ForeignKeyLint.Lint
