import ForeignKeyLint.Proofs.Schema.Replay
import Mathlib.Data.List.Perm.Subperm

/-!
Schemas that differ in their indexes alone, where one has at least the indexes of the other. Every
event keeps the two in this relation: a rename acts on each index by itself, a removal looks at each
index by itself, and an addition that one of them already knows is there in both afterwards. So the
relation lasts through any history. The lists of indexes are compared as sets, because an index that
came early may stand in another place of the list, and stands for a later one that was not added.
-/

namespace ForeignKeyLint.Schema

namespace State

/-- The schemas are the same but for the indexes, and no index is missing in the first. -/
structure Covers (more less : State) : Prop where
  same : more = { less with indexes := more.indexes }
  indexes : less.indexes ⊆ more.indexes

theorem Covers.refl (state : State) : Covers state state :=
  ⟨rfl, List.Subset.refl _⟩

theorem Covers.trans {most more less : State} (hmost : Covers most more) (hmore : Covers more less) :
    Covers most less := by
  refine ⟨?_, List.Subset.trans hmore.indexes hmost.indexes⟩
  rw [hmost.same, hmore.same]

theorem Covers.columns {more less : State} (h : Covers more less) :
    more.columns = less.columns := by
  rw [h.same]

theorem Covers.ambiguousRetypes {more less : State} (h : Covers more less) :
    more.ambiguousRetypes = less.ambiguousRetypes := by
  rw [h.same]
  rfl

theorem addIndex_eq (state : State) (index : Index) :
    state.addIndex index = { state with indexes := (state.addIndex index).indexes } := by
  unfold addIndex
  split <;> rfl

theorem covers_addIndex (state : State) (index : Index) : Covers (state.addIndex index) state := by
  refine ⟨addIndex_eq state index, ?_⟩
  intro known hknown
  exact (mem_addIndex state index known).mpr (.inl hknown)

theorem covers_addIndex_addIndex {more less : State} (h : Covers more less) (index : Index) :
    Covers (more.addIndex index) (less.addIndex index) := by
  constructor
  · rw [addIndex_eq more, addIndex_eq less, h.same]
  · intro known hknown
    rw [mem_addIndex] at hknown ⊢
    exact hknown.imp_left fun hless => h.indexes hless

/-- One event, whatever it is, keeps the relation. -/
theorem Covers.apply {more less : State} (h : Covers more less) (origin : Origin) (event : Event) :
    Covers (more.apply origin event) (less.apply origin event) := by
  have hsub := h.indexes
  obtain ⟨operation, location⟩ := event
  cases operation with
  | defineTable table => exact h
  | dropTable table =>
    rw [h.same]
    exact ⟨rfl, List.filter_subset _ hsub⟩
  | renameTable source target =>
    rw [h.same]
    exact ⟨rfl, List.map_subset _ hsub⟩
  | declareColumn table column kind inlineIndex =>
    rw [h.same]
    exact ⟨rfl, hsub⟩
  | retypeColumn table column kind =>
    rw [h.same]
    simp only [State.apply, retype]
    cases less.columns.find? { table, column } with
    | none => exact ⟨rfl, hsub⟩
    | some known => exact ⟨rfl, hsub⟩
  | renameColumn table source target =>
    rw [h.same]
    exact ⟨rfl, List.map_subset _ hsub⟩
  | removeColumn table column =>
    rw [h.same]
    exact ⟨rfl, List.filter_subset _ hsub⟩
  | addIndex table columns => exact covers_addIndex_addIndex h { table, columns }

/-- A whole history keeps the relation. -/
theorem Covers.replay {more less : State} (h : Covers more less) (history : List Occurrence) :
    Covers (more.replay history) (less.replay history) := by
  induction history generalizing more less with
  | nil => exact h
  | cons occurrence rest ih => exact ih (h.apply occurrence.origin occurrence.event)

end State

theorem nodup_eraseDups {α : Type} [BEq α] [LawfulBEq α] (list : List α) :
    list.eraseDups.Nodup := by
  cases list with
  | nil => simp
  | cons first others =>
    rw [List.eraseDups_cons, List.nodup_cons]
    have hrest := nodup_eraseDups (others.filter fun other => !other == first)
    exact ⟨by simp, hrest⟩
termination_by list.length
decreasing_by
  have hshorter := List.length_filter_le (fun other => !other == first) others
  simp only [List.length_cons]
  omega

/-- More indexes are no fewer when those with the same columns count once. -/
theorem countDistinct_le_of_subset {less more : List Index} (h : less ⊆ more) :
    countDistinct less ≤ countDistinct more := by
  have hsub : (less.map Index.identity).eraseDups ⊆ (more.map Index.identity).eraseDups := by
    intro identity hidentity
    rw [List.mem_eraseDups] at hidentity ⊢
    exact List.map_subset _ h hidentity
  exact ((nodup_eraseDups _).subperm hsub).length_le

end ForeignKeyLint.Schema
