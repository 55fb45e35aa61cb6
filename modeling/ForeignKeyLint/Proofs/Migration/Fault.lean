import ForeignKeyLint.Migration.Scan

/-!
The kinds of diagnostics that reading a text gives. A statement is at fault for what it lacks or for
an index on something other than columns. The scan adds its remarks, and complains about statements
that never close and table blocks that are never closed. So a failure to read a file and a change of
type of an undeclared column are never told by a scan, and a diagnostic of these kinds comes from
the reader of files and from the fold.
-/

namespace ForeignKeyLint

open Schema

namespace DiagnosticKind

/-- A statement can be at fault in this way. -/
def isFault : DiagnosticKind → Bool
  | .malformedDeclaration | .unsupportedIndexExpression => true
  | _ => false

/-- A scan can tell of this. -/
def isOfScan : DiagnosticKind → Bool
  | .parseSkip | .unterminatedBlock => true
  | kind => kind.isFault

theorem isOfScan_of_isFault {kind : DiagnosticKind} (h : kind.isFault = true) :
    kind.isOfScan = true := by
  cases kind <;> first | rfl | cases h

end DiagnosticKind

namespace Migration

open Ruby

namespace Meaning

/-- The meaning is a fault of a kind that statements have, if it is a fault at all. -/
def FaultsProperly (meaning : Meaning) : Prop :=
  ∀ fault ∈ meaning.fault?, fault.1.isFault = true

@[simp]
theorem faultsProperly_unrelated : unrelated.FaultsProperly := by
  simp [FaultsProperly, fault?]

@[simp]
theorem faultsProperly_effect (found : List Operation) (opens : Option (String × TableMode)) :
    (effect found opens).FaultsProperly := by
  simp [FaultsProperly, fault?]

@[simp]
theorem faultsProperly_operations (found : List Operation) : (operations found).FaultsProperly :=
  faultsProperly_effect found none

@[simp]
theorem faultsProperly_fault_iff (kind : DiagnosticKind) (message : String) :
    (fault kind message).FaultsProperly ↔ kind.isFault = true := by
  simp [FaultsProperly, fault?]

@[simp]
theorem faultsProperly_malformed (message : String) : (malformed message).FaultsProperly := by
  simp [malformed, DiagnosticKind.isFault]

@[simp]
theorem faultsProperly_someOf (found : List Operation) (fault : String) :
    (someOf found fault).FaultsProperly := by
  unfold someOf
  split <;> simp

end Meaning

theorem faultsProperly_command (command : Command) (call : Call) :
    (command.meaning call).FaultsProperly := by
  fun_cases Command.meaning command call <;> simp

theorem faultsProperly_blockCommand (command : BlockCommand) (table : String) (call : Call) :
    (command.meaning table call).FaultsProperly := by
  fun_cases BlockCommand.meaning command table call <;> simp

theorem faultsProperly_columnMeaning (block : Option TableBlock) (call : Call) :
    (columnMeaning block call).FaultsProperly := by
  unfold columnMeaning
  split
  · split
    · exact faultsProperly_blockCommand _ _ _
    · exact Meaning.faultsProperly_unrelated
  · split
    · exact faultsProperly_command _ _
    · exact Meaning.faultsProperly_unrelated

theorem faultsProperly_indexOn (table : String) (argument : Option Value) :
    (indexOn table argument).FaultsProperly := by
  fun_cases indexOn table argument <;> simp [DiagnosticKind.isFault]

theorem faultsProperly_indexMeaning (block : Option TableBlock) (call : Call) :
    (indexMeaning block call).FaultsProperly := by
  unfold indexMeaning
  split
  · exact faultsProperly_indexOn _ _
  · split
    · split
      · exact faultsProperly_indexOn _ _
      · exact Meaning.faultsProperly_malformed _
    · exact Meaning.faultsProperly_unrelated

theorem isFault_of_mem_findings {meaning : Meaning} (h : meaning.FaultsProperly)
    {location : Location} {diagnostic : Diagnostic}
    (hmem : .diagnostic diagnostic ∈ meaning.findings location) :
    diagnostic.kind.isFault = true := by
  simp only [Meaning.findings, List.mem_append, List.mem_map, Option.mem_toList] at hmem
  rcases hmem with ⟨operation, -, hfound⟩ | ⟨⟨kind, message⟩, hfault, hfound⟩
  · cases hfound
  · cases hfound
    exact h _ hfault

namespace Source

variable {source : Source} {diagnostic : Diagnostic}

theorem isOfScan_of_mem_skipped {statement : Statement}
    (h : .diagnostic diagnostic ∈ source.skipped statement) :
    diagnostic.kind.isOfScan = true := by
  unfold skipped at h
  split at h
  · cases List.mem_singleton.mp h
    rfl
  · cases h

/-- What is found in a call is told about its meaning, or that it has none. -/
theorem mem_stepCall {finding : Finding} {nesting : Nesting} {statement : Statement} {call : Call}
    (h : finding ∈ (source.stepCall nesting statement call).1) :
    finding ∈ source.skipped statement ∨
      ∃ meaning : Meaning, meaning.FaultsProperly ∧
        finding ∈ meaning.findings (source.location statement.line) := by
  have hmeant (hmem : finding ∈ if nesting.inRollback then [] else
      (columnMeaning nesting.table? call).findings (source.location statement.line) ++
        (indexMeaning nesting.table? call).findings (source.location statement.line)) :
      ∃ meaning : Meaning, meaning.FaultsProperly ∧
        finding ∈ meaning.findings (source.location statement.line) := by
    split at hmem
    · cases hmem
    · rcases List.mem_append.mp hmem with hmem | hmem
      · exact ⟨_, faultsProperly_columnMeaning _ _, hmem⟩
      · exact ⟨_, faultsProperly_indexMeaning _ _, hmem⟩
  simp only [stepCall] at h
  generalize (if nesting.inRollback = true then [] else _ ++ _) = findings at h hmeant
  split at h
  · exact .inr (hmeant h)
  · split at h
    · exact .inr (hmeant h)
    · rcases List.mem_append.mp h with h | h
      · exact .inr (hmeant h)
      · exact .inl h

/-- What is found in a statement is the complaint about it, the remark about it, or told about its
meaning. -/
theorem mem_step {finding : Finding} {nesting : Nesting} {statement : Statement}
    (h : finding ∈ (source.step nesting statement).1) :
    finding ∈ source.unclosed statement ∨ finding ∈ source.skipped statement ∨
      ∃ meaning : Meaning, meaning.FaultsProperly ∧
        finding ∈ meaning.findings (source.location statement.line) := by
  simp only [step, List.mem_append] at h
  refine h.imp_right fun h => ?_
  unfold stepBody at h
  split at h
  · cases h
  · split at h
    · cases h
    · cases h
    · split at h
      · exact mem_stepCall h
      · exact .inl h

theorem isOfScan_of_mem_step {nesting : Nesting} {statement : Statement}
    (h : .diagnostic diagnostic ∈ (source.step nesting statement).1) :
    diagnostic.kind.isOfScan = true := by
  rcases mem_step h with h | h | ⟨meaning, hmeaning, h⟩
  · unfold unclosed at h
    split at h
    · cases List.mem_singleton.mp h
      rfl
    · cases h
  · exact isOfScan_of_mem_skipped h
  · exact DiagnosticKind.isOfScan_of_isFault (isFault_of_mem_findings hmeaning h)

theorem isOfScan_of_mem_steps {nesting : Nesting} {statements : List Statement}
    (h : .diagnostic diagnostic ∈ (source.steps nesting statements).1) :
    diagnostic.kind.isOfScan = true := by
  induction statements generalizing nesting with
  | nil => cases h
  | cons statement others ih =>
    rcases List.mem_append.mp h with h | h
    · exact isOfScan_of_mem_step h
    · exact ih h

theorem isOfScan_of_mem_scan {text : List Char} (h : .diagnostic diagnostic ∈ source.scan text) :
    diagnostic.kind.isOfScan = true := by
  rcases List.mem_append.mp h with h | h
  · exact isOfScan_of_mem_steps h
  · obtain ⟨block, -, hblock⟩ := List.mem_map.mp h
    cases hblock
    rfl

end Source

/-- Whatever is told of a text is of a kind that a scan can tell. -/
theorem isOfScan_of_mem_read {source : Source} {text : List Char} {diagnostic : Diagnostic}
    (h : diagnostic ∈ (File.read source text).diagnostics) : diagnostic.kind.isOfScan = true := by
  obtain ⟨finding, hmem, hfinding⟩ := List.mem_filterMap.mp h
  cases finding with
  | event event => cases hfinding
  | diagnostic found =>
    cases hfinding
    exact Source.isOfScan_of_mem_scan hmem

end Migration

end ForeignKeyLint
