import ForeignKeyLint.Proofs.Migration.Rollback
import ForeignKeyLint.Proofs.Ruby.Definition

/-!
Definitions of methods among the statements of a migration. The end of a method closes the block that its
definition opens. Main statement: a scan puts one frame on the open blocks for a definition with parameters in
parentheses, and takes it off at the end of the method, exactly if there is no equals sign between spaces among
the parameters. A default value is written with one. The definition is then taken for one that needs no end, so
the end of the method closes the block around it.
-/

namespace ForeignKeyLint.Migration

open Ruby Text

/-- The frame of a block that a keyword opens. -/
def frameOf : KeywordBlock → Frame
  | .rollback => .rollback
  | .other => .other

/-- No definition ends a block. -/
theorem isBlockEnd_definition (definition : Definition) : isBlockEnd definition.text = false :=
  isBlockEnd_eq_false (List.all_eq_true.mp rfl) (by decide) definition.trim_text

namespace Source

variable (source : Source) (nesting : Nesting) (definition : Definition)

/-- A definition puts its frame on the open blocks, unless an equals sign stands between spaces among its
parameters. -/
theorem nesting_step_definition {opener : Statement} (h : opener.text = definition.text) :
    (source.step nesting opener).2 =
      if includes " = ".toList definition.parameters then nesting
      else frameOf definition.block :: nesting := by
  have hend : isBlockEnd opener.text = false := by rw [h, isBlockEnd_definition]
  have hkeyword := definition.keywordBlock?_text
  rw [← h] at hkeyword
  split
  · next hequals =>
    rw [if_pos hequals] at hkeyword
    obtain ⟨frames, hframes, hlength⟩ := source.nesting_step_of_not_isBlockEnd nesting hend
    have hdelta : blockDelta opener = 0 := by
      have hopens : opensBlock opener.text = false := by rw [h, definition.opensBlock_text]
      simp [blockDelta, hend, hkeyword, hopens]
    have hempty : frames = [] := by
      rw [hdelta] at hlength
      exact List.length_eq_zero_iff.mp (by simpa using hlength)
    rw [hframes, hempty, List.nil_append]
  · next hequals =>
    rw [if_neg hequals] at hkeyword
    have hstep : (source.step nesting opener).2 = (source.stepBody nesting opener).2 := rfl
    rw [hstep, stepBody, hend, hkeyword]
    cases definition.block with
    | rollback => rfl
    | other => rfl

/-- A method with a balanced body closes the block around it at its end, if an equals sign stands between
spaces among its parameters, and leaves the open blocks as they were otherwise. -/
theorem nesting_steps_method {opener closer : Statement} {body : List Statement}
    (hopener : opener.text = definition.text) (hbody : Balanced body)
    (hcloser : isBlockEnd closer.text = true) :
    (source.steps nesting (opener :: body ++ [closer])).2 =
      if includes " = ".toList definition.parameters then nesting.tail else nesting := by
  have hsplit : opener :: body ++ [closer] = [opener] ++ (body ++ [closer]) := rfl
  rw [hsplit, steps_append, steps_append, steps_singleton, steps_singleton]
  simp only [source.nesting_steps_of_balanced _ hbody, source.nesting_step_of_isBlockEnd _ hcloser,
    source.nesting_step_definition nesting definition hopener]
  split
  · rfl
  · rfl

/-- A definition opens its block, and the end of its method closes it, exactly if no equals sign stands between
spaces among its parameters. -/
theorem method_opens_block_iff :
    (keywordBlock? definition.text = some definition.block ↔ ¬" = ".toList <:+: definition.parameters) ∧
    ∀ opener : Statement, opener.text = definition.text →
      ((source.step nesting opener).2 = frameOf definition.block :: nesting ↔
        ¬" = ".toList <:+: definition.parameters) ∧
      ∀ (body : List Statement) (closer : Statement), Balanced body → isBlockEnd closer.text = true →
        nesting ≠ [] →
        ((source.steps nesting (opener :: body ++ [closer])).2 = nesting ↔
          ¬" = ".toList <:+: definition.parameters) := by
  rw [← includes_iff_infix]
  refine ⟨?_, fun opener hopener => ⟨?_, fun body closer hbody hcloser hne => ?_⟩⟩
  · rw [definition.keywordBlock?_text]
    split
    · next hequals => exact iff_of_false (by simp) (not_not.mpr hequals)
    · next hequals => exact iff_of_true rfl hequals
  · rw [source.nesting_step_definition nesting definition hopener]
    split
    · next hequals => exact iff_of_false (by simp) (not_not.mpr hequals)
    · next hequals => exact iff_of_true rfl hequals
  · rw [source.nesting_steps_method nesting definition hopener hbody hcloser]
    split
    · next hequals =>
      obtain ⟨frame, others, rfl⟩ := List.exists_cons_of_ne_nil hne
      exact iff_of_false (by simp) (not_not.mpr hequals)
    · next hequals => exact iff_of_true rfl hequals

end Source

/-- A method with a parameter that has a default value. -/
def labelDefinition : Definition where
  ofSelf := false
  name := "label".toList
  parameters := "album, name = nil".toList
  isName_name := by decide

/-- The method inside the block of a table, with a condition in its body. -/
theorem labelMethod_closes_table :
    let source : Source := { path := ⟨"m.rb"⟩ }
    let table : Frame := .table { name := "albums", parameter := "t", mode := .create, openedAt := 1 }
    let opener : Statement := { line := 2, text := labelDefinition.text, cutShort := false }
    let body : List Statement :=
      [{ line := 3, text := "if name".toList, cutShort := false },
        { line := 4, text := "end".toList, cutShort := false }]
    let closer : Statement := { line := 5, text := "end".toList, cutShort := false }
    ((source.step [table] opener).2 = frameOf labelDefinition.block :: [table] ↔
      ¬" = ".toList <:+: labelDefinition.parameters) ∧
    ((source.steps [table] (opener :: body ++ [closer])).2 = [table] ↔
      ¬" = ".toList <:+: labelDefinition.parameters) ∧
    (source.steps [table] (opener :: body ++ [closer])).2 = [] := by
  intro source table opener body closer
  have hbody : Balanced body := by
    refine ⟨by decide, fun first hfirst => ?_⟩
    rw [← List.mem_inits] at hfirst
    revert first
    decide
  obtain ⟨-, hopens⟩ := source.method_opens_block_iff [table] labelDefinition
  obtain ⟨hstep, hsteps⟩ := hopens opener rfl
  exact ⟨hstep, hsteps body closer hbody (by decide) (by simp), by decide +kernel⟩

/-- A table whose block holds a method with a default value. -/
def defaultedFile : List Char :=
  ("create_table :albums do |t|\n" ++ "  def label(album, name = nil)\n" ++ "  end\n" ++
    "  t.bigint :artist_id\n" ++ "end\n").toList

/-- No block is opened for the method, and its end closes the block of the table. -/
theorem defaultedFile_loses_column :
    let source : Source := { path := ⟨"m.rb"⟩ }
    let read := statements defaultedFile
    let opened := (source.steps [] (read.take 1)).2
    let opener : Statement := { line := 2, text := labelDefinition.text, cutShort := false }
    read[1]? = some opener ∧ labelDefinition.block = .other ∧ keywordBlock? opener.text = none ∧
      opened.length = 1 ∧ (source.step opened opener).2 = opened ∧ (source.steps [] (read.take 3)).2 = [] ∧
      source.scan defaultedFile =
        [.event { operation := .defineTable "albums", location := source.location 1 }] := by
  decide +kernel

end ForeignKeyLint.Migration
