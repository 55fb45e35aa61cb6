import ForeignKeyLint.Proofs.Migration.BlockForm
import ForeignKeyLint.Proofs.Text.ByteOrder
import ForeignKeyLint.Proofs.Text.ByteSlice

/-!
The table of two names. A join table is created and dropped by statements that name the two tables it joins,
in whichever order. Main statement: its default name depends on the two names only and not on their order,
and a statement that drops the join table drops the one whose columns the statement that creates it declares.

Walking two names side by side gives the words they share as a byte offset into the first name, and the
second name is cut at that offset. The offset is a boundary of both names, since they agree up to it.
-/

namespace ForeignKeyLint.Migration

open Ruby Schema Text

/-- The longest common beginning of two texts that is empty or ends in an underscore. -/
structure SharedWords (lead first second : List Char) : Prop where
  of_first : lead <+: first
  of_second : lead <+: second
  ended : lead = [] ∨ lead.getLast? = some '_'
  longest : ∀ other, other <+: first → other <+: second → other.getLast? = some '_' → other <+: lead

/-- The byte after the last underscore that two texts share, found by a walk over both. The characters of the
first one come with their bytes, and `found` is the answer so far. -/
def sharedEnd (found : Nat) : List (Nat × Char) → List Char → Nat
  | (offset, a) :: as, b :: bs =>
    if a = b then sharedEnd (if a = '_' then offset + 1 else found) as bs else found
  | _, _ => found

/-- Two texts share no more words where they come apart. -/
theorem SharedWords.of_apart {lead since as bs : List Char}
    (hended : lead = [] ∨ lead.getLast? = some '_') (hsince : '_' ∉ since)
    (hapart : ∀ c, as.head? = some c → bs.head? ≠ some c) :
    SharedWords lead (lead ++ since ++ as) (lead ++ since ++ bs) where
  of_first := ⟨since ++ as, by rw [List.append_assoc]⟩
  of_second := ⟨since ++ bs, by rw [List.append_assoc]⟩
  ended := hended
  longest := by
    intro other hfirst hsecond hlast
    have hcommon : other <+: lead ++ since := by
      rcases List.prefix_or_prefix_of_prefix hfirst (List.prefix_append _ as) with hshort | ⟨more, rfl⟩
      · exact hshort
      · obtain ⟨_, rfl⟩ := (List.prefix_append_right_inj _).mp hfirst
        obtain ⟨_, rfl⟩ := (List.prefix_append_right_inj _).mp hsecond
        cases more with
        | nil => simp
        | cons c more => exact absurd rfl (hapart c rfl)
    rcases List.prefix_or_prefix_of_prefix hcommon (List.prefix_append lead since) with
      hshort | ⟨more, rfl⟩
    · exact hshort
    · have hmore : more <+: since := (List.prefix_append_right_inj _).mp hcommon
      rcases List.eq_nil_or_concat more with rfl | ⟨more, c, rfl⟩
      · simp
      · obtain rfl : c = '_' := by simpa using hlast
        exact absurd (hmore.subset (by simp)) hsince

/-- Two texts begin with `lead`, which ends a word, and with `since`, which belongs to the next one. A walk
that has come this far finds what they share in all. -/
theorem exists_sharedWords_onward (lead since as bs : List Char)
    (hended : lead = [] ∨ lead.getLast? = some '_') (hsince : '_' ∉ since) :
    ∃ shared, SharedWords shared (lead ++ since ++ as) (lead ++ since ++ bs) ∧
      shared ++ dropSharedWords (since ++ bs) as bs = lead ++ since ++ bs ∧
      sharedEnd (byteLength lead) (charIndicesFrom (byteLength (lead ++ since)) as) bs =
        byteLength shared := by
  induction as generalizing lead since bs with
  | nil => exact ⟨lead, .of_apart hended hsince (by simp), (List.append_assoc _ _ _).symm, rfl⟩
  | cons a as ih =>
    cases bs with
    | nil => exact ⟨lead, .of_apart hended hsince (by simp), (List.append_assoc _ _ _).symm, rfl⟩
    | cons b bs =>
      by_cases hsame : a = b
      · subst hsame
        have hbytes : byteLength (lead ++ since) + a.utf8Size = byteLength (lead ++ since ++ [a]) := by
          rw [byteLength_append (lead ++ since)]
          rfl
        by_cases hword : a = '_'
        · have hone : byteLength (lead ++ since) + 1 = byteLength (lead ++ since ++ [a]) := by
            rw [← hbytes, hword]
            rfl
          obtain ⟨shared, hshared, hrest, hend⟩ :=
            ih (lead ++ since ++ [a]) [] bs (.inr (by simp [hword])) List.not_mem_nil
          refine ⟨shared, by simpa using hshared, by simpa [dropSharedWords, hword] using hrest, ?_⟩
          rw [charIndicesFrom, sharedEnd, if_pos rfl, if_pos hword, hbytes, hone]
          simpa using hend
        · obtain ⟨shared, hshared, hrest, hend⟩ :=
            ih lead (since ++ [a]) bs hended (by simpa [hsince] using Ne.symm hword)
          refine ⟨shared, by simpa using hshared, by simpa [dropSharedWords, hword] using hrest, ?_⟩
          rw [charIndicesFrom, sharedEnd, if_pos rfl, if_neg hword, hbytes]
          simpa using hend
      · refine ⟨lead, .of_apart hended hsince (by simpa using Ne.symm hsame), ?_, ?_⟩
        · simp [dropSharedWords, hsame]
        · simp [charIndicesFrom, sharedEnd, hsame]

/-- The walk over two texts finds the words they share, and the second text is left without them. -/
theorem exists_sharedWords (first second : List Char) :
    ∃ shared, SharedWords shared first second ∧
      shared ++ dropSharedWords second first second = second ∧
      sharedEnd 0 (charIndices first) second = byteLength shared :=
  exists_sharedWords_onward [] [] first second (.inl rfl) List.not_mem_nil

theorem joinTableName_of_le {a b : String} (h : a ≤ b) :
    joinTableName a b = a ++ "_" ++ String.ofList (dropSharedWords b.toList a.toList b.toList) := by
  rw [joinTableName, if_pos h]

theorem joinTableName_comm (a b : String) : joinTableName a b = joinTableName b a := by
  rcases lt_trichotomy a b with hlt | rfl | hgt
  · rw [joinTableName, if_pos hlt.le, joinTableName, if_neg (not_le.mpr hlt)]
  · rfl
  · rw [joinTableName, if_neg (not_le.mpr hgt), joinTableName, if_pos hgt.le]

/-- A call that stands alone and whose first two arguments are these names. -/
structure NamesTables (call : Call) (method first second : String) : Prop where
  receiver : call.receiver = none
  method_eq : call.method = method
  first : call.name? 0 = some first
  second : call.name? 1 = some second

section Statements

variable {call : Call} {a b : String}

theorem NamesTables.creation (h : NamesTables call "create_join_table" a b) (outer : Option TableBlock) :
    columnMeaning outer call = .effect
      [.defineTable (joinTableOf call a b), joinColumn (joinTableOf call a b) a call,
        joinColumn (joinTableOf call a b) b call]
      (opening call (joinTableOf call a b)) := by
  have hcommand : Command.ofMethod? call.method = some .createJoinTable := by rw [h.method_eq]; rfl
  rw [columnMeaning_alone outer h.receiver hcommand, Command.meaning, h.first, h.second]

theorem NamesTables.dropping (h : NamesTables call "drop_join_table" a b) (outer : Option TableBlock) :
    columnMeaning outer call = .operations [.dropTable (joinTableOf call a b)] := by
  have hcommand : Command.ofMethod? call.method = some .dropJoinTable := by rw [h.method_eq]; rfl
  rw [columnMeaning_alone outer h.receiver hcommand, Command.meaning, h.first, h.second]

/-- The table that a call joins depends on its option and on the two names, in whichever order. -/
theorem joinTableOf_eq {other : Call} (h : call.option? "table_name" = other.option? "table_name")
    (a b : String) :
    joinTableOf call a b = joinTableOf other a b ∧ joinTableOf call b a = joinTableOf other a b := by
  simp [joinTableOf, h, joinTableName_comm b a]

end Statements

theorem eq_of_mem_opening {call : Call} {table : String} {block : String × TableMode}
    (h : block ∈ opening call table) : block.1 = table := by
  unfold opening at h
  split at h
  · cases h
    rfl
  · cases h

/-- The default name of a join table is both names in the order of their bytes, where the second one stands
without the words it shares with the first. Creating and dropping a join table, with its two names in either
order and with the same option or none, are about one table, and so is the block that the creation opens. -/
theorem join_table_in_either_order (a b : String) :
    joinTableName a b = joinTableName b a ∧
      (∃ first second shared rest, (first = a ∧ second = b ∨ first = b ∧ second = a) ∧
        bytes first ≤ bytes second ∧
        SharedWords shared first.toList second.toList ∧ shared ++ rest = second.toList ∧
        joinTableName a b = first ++ "_" ++ String.ofList rest ∧
        IsBoundary second.toList (sharedEnd 0 (charIndices first.toList) second.toList) ∧
        fromByte? (sharedEnd 0 (charIndices first.toList) second.toList) second.toList = some rest) ∧
      ∀ (create drop : Call) (outer inner : Option TableBlock),
        NamesTables create "create_join_table" a b →
        NamesTables drop "drop_join_table" a b ∨ NamesTables drop "drop_join_table" b a →
        drop.option? "table_name" = create.option? "table_name" →
        ∃ table, columnMeaning inner drop = .operations [.dropTable table] ∧
          (columnMeaning outer create).found =
            [.defineTable table, joinColumn table a create, joinColumn table b create] ∧
          (∀ owner column kind index,
            .declareColumn owner column kind index ∈ (columnMeaning outer create).found →
            owner = table) ∧
          ∀ block ∈ (columnMeaning outer create).opens?, block.1 = table := by
  refine ⟨joinTableName_comm a b, ?_, ?_⟩
  · have hname {first second : String} (hle : first ≤ second) :
        ∃ shared rest, bytes first ≤ bytes second ∧
          SharedWords shared first.toList second.toList ∧ shared ++ rest = second.toList ∧
          joinTableName first second = first ++ "_" ++ String.ofList rest ∧
          IsBoundary second.toList (sharedEnd 0 (charIndices first.toList) second.toList) ∧
          fromByte? (sharedEnd 0 (charIndices first.toList) second.toList) second.toList =
            some rest := by
      obtain ⟨shared, hshared, hrest, hend⟩ := exists_sharedWords first.toList second.toList
      have hslice := fromByte?_eq_some_iff.mpr ⟨shared, hrest.symm, hend.symm⟩
      exact ⟨shared, _, le_iff_bytes_le.mp hle, hshared, hrest, joinTableName_of_le hle,
        isBoundary_of_fromByte? hslice, hslice⟩
    rcases le_total a b with hle | hle
    · obtain ⟨shared, rest, hspec⟩ := hname hle
      exact ⟨a, b, shared, rest, .inl ⟨rfl, rfl⟩, hspec⟩
    · obtain ⟨shared, rest, hspec⟩ := hname hle
      rw [joinTableName_comm a b]
      exact ⟨b, a, shared, rest, .inr ⟨rfl, rfl⟩, hspec⟩
  · intro create drop outer inner hcreate hdrop hoption
    obtain ⟨hsame, hswapped⟩ := joinTableOf_eq hoption a b
    have hdropped : columnMeaning inner drop = .operations [.dropTable (joinTableOf create a b)] := by
      rcases hdrop with hdrop | hdrop
      · rw [hdrop.dropping, hsame]
      · rw [hdrop.dropping, hswapped]
    have hcreated := congrArg Meaning.found (hcreate.creation outer)
    refine ⟨_, hdropped, hcreated, fun owner column kind index hmem => ?_, fun block hblock => ?_⟩
    · rw [hcreated] at hmem
      simp only [Meaning.found, joinColumn, List.mem_cons, reduceCtorEq, Operation.declareColumn.injEq,
        List.not_mem_nil, or_false, false_or] at hmem
      rcases hmem with hmem | hmem <;> exact hmem.1
    · rw [hcreate.creation outer] at hblock
      exact eq_of_mem_opening hblock

def churchTables (method first second : String) : Call :=
  { receiver := none, method, block := none
    arguments := [.positional (.symbol first), .positional (.str second)] }

/-- The names share a word with a letter of two bytes, and they are given in the other order to drop the
table. -/
theorem churchTables_joined :
    let create := churchTables "create_join_table" "église_notes" "église_albums"
    let drop := churchTables "drop_join_table" "église_albums" "église_notes"
    (NamesTables create "create_join_table" "église_notes" "église_albums" ∧
      (NamesTables drop "drop_join_table" "église_notes" "église_albums" ∨
        NamesTables drop "drop_join_table" "église_albums" "église_notes") ∧
      drop.option? "table_name" = create.option? "table_name") ∧
    joinTableName "église_notes" "église_albums" = "église_albums_notes" ∧
      ∃ table, columnMeaning none drop = .operations [.dropTable table] ∧
        (columnMeaning none create).found =
          [.defineTable table, joinColumn table "église_notes" create,
            joinColumn table "église_albums" create] ∧
        (∀ owner column kind index,
          .declareColumn owner column kind index ∈ (columnMeaning none create).found →
          owner = table) ∧
        ∀ block ∈ (columnMeaning none create).opens?, block.1 = table := by
  intro create drop
  have hcreate : NamesTables create "create_join_table" "église_notes" "église_albums" :=
    ⟨rfl, rfl, rfl, rfl⟩
  have hdrop : NamesTables drop "drop_join_table" "église_albums" "église_notes" :=
    ⟨rfl, rfl, rfl, rfl⟩
  refine ⟨⟨hcreate, .inr hdrop, rfl⟩, by decide +kernel, ?_⟩
  exact (join_table_in_either_order _ _).2.2 create drop none none hcreate (.inr hdrop) rfl

end ForeignKeyLint.Migration
