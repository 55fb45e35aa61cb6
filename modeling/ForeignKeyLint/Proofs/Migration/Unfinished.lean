import ForeignKeyLint.Migration.Scan
import ForeignKeyLint.Proofs.Ruby.LastStatement

/-!
The complaint about a statement that never closes. Main statement: of the statements that joined lines are
divided into, the last one is left open where joining stops, but the mark and with it the complaint are for
the first. Thus they are right exactly if there is no other statement.
-/

namespace ForeignKeyLint.Migration

open Ruby Text

namespace Source

/-- The complaint that a statement never closes. -/
def complaint (source : Source) (statement : Statement) : Finding :=
  .diagnostic {
    kind := .malformedDeclaration
    location := source.location statement.line
    message := "statement never closes, read up to here: " ++ excerpt statement.text }

variable {source : Source} {statement : Statement}

theorem unclosed_eq (source : Source) (statement : Statement) :
    source.unclosed statement = if statement.cutShort then [source.complaint statement] else [] := rfl

theorem unclosed_subset_steps {statements : List Statement} (h : statement ∈ statements)
    (nesting : Nesting) : source.unclosed statement ⊆ (source.steps nesting statements).1 := by
  induction statements generalizing nesting with
  | nil => cases h
  | cons first rest ih =>
    rcases List.mem_cons.mp h with rfl | h
    · have hstep : source.unclosed statement ⊆ (source.step nesting statement).1 :=
        List.subset_append_left _ _
      exact List.subset_append_of_subset_left _ hstep
    · exact List.subset_append_of_subset_right _ (ih h _)

/-- Where lines are cut short their last statement is left open, and the first one is marked and complained
about. -/
theorem unfinished_marked_iff (source : Source) {text : List Char} {joined : Joined}
    (hjoined : joined ∈ joinedLines text) (hcut : joined.cutShort = true) {earlier : List Statement}
    {last : Statement} (hsplit : joined.statements = earlier ++ [last]) :
    joined.LeavesOpen (numberLines 1 (lines text)) earlier last ∧
      (last.cutShort = true ∧ (∀ statement ∈ earlier, statement.cutShort = false) ↔ earlier = []) ∧
      ∃ first others, joined.statements = first :: others ∧
        joined.statements.flatMap source.unclosed = [source.complaint first] ∧
        source.complaint first ∈ source.scan text := by
  obtain ⟨first, others, hstatements⟩ : ∃ first others, joined.statements = first :: others :=
    List.exists_cons_of_ne_nil (by simp [hsplit])
  obtain ⟨hfirst, hothers⟩ := Joined.cutShort_of_statements hstatements
  have hmarked : first.cutShort = true := hfirst.trans hcut
  refine ⟨leavesOpen_of_mem_joinedLines hjoined hcut hsplit, ?_, first, others, hstatements, ?_, ?_⟩
  · rw [hsplit] at hstatements
    cases earlier with
    | nil =>
      obtain ⟨rfl, -⟩ := List.cons.inj hstatements
      simpa using hmarked
    | cons other earlier =>
      obtain ⟨rfl, -⟩ := List.cons.inj hstatements
      simp [hmarked]
  · have hnone : others.flatMap source.unclosed = [] :=
      List.flatMap_eq_nil_iff.mpr fun other hother => by simp [unclosed_eq, hothers other hother]
    rw [hstatements, List.flatMap_cons, hnone, unclosed_eq, if_pos hmarked, List.append_nil]
  · have hmem : first ∈ Ruby.statements text := by
      rw [statements_eq_flatMap]
      exact List.mem_flatMap.mpr ⟨joined, hjoined, by simp [hstatements]⟩
    have hcomplaint : source.complaint first ∈ source.unclosed first := by
      simp [unclosed_eq, hmarked]
    exact List.mem_append_left _ (unclosed_subset_steps hmem [] hcomplaint)

end Source

/-- A call whose parenthesis is never closed, behind a statement that is complete. -/
def openExecute : List Char :=
  ("drop_table :tags; execute(\"SELECT 1\"\n" ++ "add_column :albums, :comment_id, :bigint\n").toList

theorem openExecute_unfinished :
    let source : Source := { path := ⟨"m.rb"⟩ }
    let complete : Statement := { line := 1, text := "drop_table :tags".toList, cutShort := true }
    let unfinished : Statement := { line := 1, text := "execute(\"SELECT 1\"".toList, cutShort := false }
    let joined : Joined := {
      draft := { text := "drop_table :tags; execute(\"SELECT 1\"".toList, line := 1, joined := 1 }
      cutShort := true
      reader := { lines := [{ number := 2, text := "add_column :albums, :comment_id, :bigint".toList }] } }
    (joined ∈ joinedLines openExecute ∧ joined.cutShort = true ∧
      joined.statements = [complete] ++ [unfinished]) ∧
    joined.LeavesOpen (numberLines 1 (lines openExecute)) [complete] unfinished ∧
    (unfinished.cutShort = true ∧ (∀ statement ∈ [complete], statement.cutShort = false) ↔
      [complete] = []) ∧
    ∃ first others, joined.statements = first :: others ∧
      joined.statements.flatMap source.unclosed = [source.complaint first] ∧
      source.complaint first ∈ source.scan openExecute := by
  intro source complete unfinished joined
  have hjoined : joined ∈ joinedLines openExecute := by decide +kernel
  have hsplit : joined.statements = [complete] ++ [unfinished] := by decide +kernel
  exact ⟨⟨hjoined, rfl, hsplit⟩, source.unfinished_marked_iff hjoined rfl hsplit⟩

/-- The lines of the call are cut short, and the statement before it is marked and complained about. -/
theorem openExecute_marks_complete :
    let source : Source := { path := ⟨"m.rb"⟩ }
    let complete : Statement := { line := 1, text := "drop_table :tags".toList, cutShort := true }
    let unfinished : Statement := { line := 1, text := "execute(\"SELECT 1\"".toList, cutShort := false }
    (∃ joined ∈ joinedLines openExecute, joined.cutShort = true ∧
      joined.statements = [complete, unfinished]) ∧
    bracketDepth complete.text = 0 ∧ bracketDepth unfinished.text = 1 ∧
    source.complaint complete ∈ source.scan openExecute ∧
    source.complaint unfinished ∉ source.scan openExecute := by
  decide +kernel

end ForeignKeyLint.Migration
