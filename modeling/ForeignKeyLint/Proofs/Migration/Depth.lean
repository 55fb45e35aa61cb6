import ForeignKeyLint.Proofs.Migration.Rollback

/-!
How deep a statement stands. A statement that ends a block takes one off the number of open blocks, and
one that leaves a block open adds one. Main statement: the open blocks of a scan follow this count at
every statement but one that does both, such as the end of a block to which a call with a block of its
own is chained. There the scan misses the block that is opened, so it is one block short from then on
and the next end closes the block around it.
-/

namespace ForeignKeyLint.Migration

open Ruby Schema Text

/-- How many blocks a statement closes. -/
def closes (statement : Statement) : Nat :=
  if isBlockEnd statement.text then 1 else 0

/-- How many blocks a statement leaves open. -/
def opens (statement : Statement) : Nat :=
  if (keywordBlock? statement.text).isSome || opensBlock statement.text then 1 else 0

/-- The number of open blocks after a statement, when it closes and opens what it says. -/
def depthAfter (depth : Nat) (statement : Statement) : Nat :=
  depth - closes statement + opens statement

/-- A statement that ends a block and opens another. -/
def ChainsBlock (statement : Statement) : Prop :=
  isBlockEnd statement.text = true ∧ opensBlock statement.text = true

instance (statement : Statement) : Decidable (ChainsBlock statement) :=
  inferInstanceAs (Decidable (_ ∧ _))

theorem depthAfter_mono (statement : Statement) {first second : Nat} (h : first ≤ second) :
    depthAfter first statement ≤ depthAfter second statement := by
  unfold depthAfter
  omega

theorem foldl_depthAfter_mono (statements : List Statement) {first second : Nat}
    (h : first ≤ second) : statements.foldl depthAfter first ≤ statements.foldl depthAfter second := by
  induction statements generalizing first second with
  | nil => exact h
  | cons statement rest ih => exact ih (depthAfter_mono statement h)

/-- The first word of a statement that ends a block is `end`. -/
theorem takeWhile_of_isBlockEnd {text : List Char} (h : isBlockEnd text = true) :
    (trim text).takeWhile isWordChar = "end".toList := by
  obtain ⟨rest, hrest, hstop⟩ : ∃ rest,
      afterPrefix? "end".toList (trim text) = some rest ∧ rest.takeWhile isWordChar = [] := by
    unfold isBlockEnd at h
    split at h
    · next c rest hrest =>
      exact ⟨c :: rest, hrest, List.takeWhile_cons_of_neg (by simpa using h)⟩
    · next hrest => exact ⟨[], hrest, rfl⟩
    · contradiction
  have hword : ∀ c ∈ "end".toList, isWordChar c = true := List.all_eq_true.mp rfl
  rw [(afterPrefix?_eq_some_iff _ _ _).mp hrest, List.takeWhile_append_of_pos hword, hstop,
    List.append_nil]

/-- No keyword opens a block in a statement that ends one. -/
theorem keywordBlock?_of_isBlockEnd {text : List Char} (h : isBlockEnd text = true) :
    keywordBlock? text = none := by
  have hkeyword : openingKeywords.contains (String.ofList "end".toList) = false := rfl
  simp only [keywordBlock?, takeWhile_of_isBlockEnd h, hkeyword, Bool.not_false, if_true]

namespace Source

/-- The open blocks after a statement, with the one that is missed if the statement chains a block. -/
theorem depth_step (source : Source) (nesting : Nesting) (statement : Statement) :
    (source.step nesting statement).2.length + (if ChainsBlock statement then 1 else 0) =
      depthAfter nesting.length statement := by
  cases hend : isBlockEnd statement.text with
  | true =>
    have hkeyword := keywordBlock?_of_isBlockEnd hend
    simp [nesting_step_of_isBlockEnd source nesting hend, depthAfter, closes, opens, ChainsBlock, hend,
      hkeyword]
  | false =>
    obtain ⟨frames, hnesting, hlength⟩ := nesting_step_of_not_isBlockEnd source nesting hend
    have hopens : blockDelta statement = opens statement := by
      simp only [blockDelta, opens, hend, Bool.false_eq_true, if_false]
      split <;> rfl
    have hcloses : closes statement = 0 := by simp [closes, hend]
    have hchains : ¬ChainsBlock statement := by simp [ChainsBlock, hend]
    rw [hnesting, List.length_append, if_neg hchains, depthAfter, hcloses]
    omega

/-- The open blocks follow the count at a statement exactly if it does not chain a block. -/
theorem depth_step_iff (source : Source) (nesting : Nesting) (statement : Statement) :
    (source.step nesting statement).2.length = depthAfter nesting.length statement ↔
      ¬ChainsBlock statement := by
  have hstep := source.depth_step nesting statement
  by_cases hchains : ChainsBlock statement
  · rw [if_pos hchains] at hstep
    exact iff_of_false (by omega) (not_not.mpr hchains)
  · rw [if_neg hchains] at hstep
    exact iff_of_true hstep hchains

/-- Over a whole run no more blocks are open than the statements leave open. -/
theorem depth_steps_le (source : Source) (nesting : Nesting) (statements : List Statement) :
    (source.steps nesting statements).2.length ≤ statements.foldl depthAfter nesting.length := by
  induction statements generalizing nesting with
  | nil => exact Nat.le_refl _
  | cons statement rest ih =>
    have hstep : (source.step nesting statement).2.length ≤ depthAfter nesting.length statement := by
      rw [← source.depth_step nesting statement]
      exact Nat.le_add_right _ _
    exact (ih (source.step nesting statement).2).trans (foldl_depthAfter_mono rest hstep)

/-- A run in which no statement chains a block has as many blocks open as its statements leave open. -/
theorem depth_steps (source : Source) (nesting : Nesting) (statements : List Statement)
    (h : ∀ statement ∈ statements, ¬ChainsBlock statement) :
    (source.steps nesting statements).2.length = statements.foldl depthAfter nesting.length := by
  induction statements generalizing nesting with
  | nil => rfl
  | cons statement rest ih =>
    obtain ⟨hfirst, hrest⟩ := List.forall_mem_cons.mp h
    have hstep := (source.depth_step_iff nesting statement).mpr hfirst
    rw [List.foldl_cons, ← hstep]
    exact ih _ hrest

end Source

/-- A table whose block holds two others, the second one chained to the end of the first. -/
def chainedFile : List Char :=
  ("create_table :albums do |t|\n" ++ "  [:a].map do |name|\n" ++ "  end.each do |name|\n" ++
    "  end\n" ++ "  t.bigint :artist_id\n" ++ "end\n").toList

/-- The chained block is missed, and the end that follows closes the block of the table. -/
theorem chainedFile_loses_column :
    let source : Source := { path := ⟨"m.rb"⟩ }
    let read := statements chainedFile
    let opened := (source.steps [] (read.take 2)).2
    let chained : Statement := { line := 3, text := "end.each do |name|".toList, cutShort := false }
    read[2]? = some chained ∧ opened.length = 2 ∧ depthAfter opened.length chained = 2 ∧
      (source.step opened chained).2.length = 1 ∧
      (source.steps [] (read.take 4)).2 = [] ∧
      source.scan chainedFile =
        [.event { operation := .defineTable "albums", location := source.location 1 }] := by
  decide +kernel

end ForeignKeyLint.Migration
