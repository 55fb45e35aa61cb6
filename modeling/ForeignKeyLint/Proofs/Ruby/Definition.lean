import ForeignKeyLint.Proofs.Ruby.BlockOpener
import ForeignKeyLint.Proofs.Ruby.BrokenStatement
import ForeignKeyLint.Proofs.Ruby.CallText
import ForeignKeyLint.Proofs.Text.Search
import ForeignKeyLint.Ruby.Keyword

/-!
Definitions of methods with parameters in parentheses. An equals sign between spaces is taken for that of a
method without an end of its own, wherever it stands. Main statements: such a definition opens a block by its
keyword exactly if there is no equals sign between spaces among its parameters, and it never opens one as a call
with a block does.
-/

namespace ForeignKeyLint.Ruby

open Text

/-- The definition of a method, which may be one of the class itself. -/
structure Definition where
  ofSelf : Bool
  name : List Char
  /-- What stands between the parentheses. -/
  parameters : List Char
  isName_name : isName name = true

theorem dropSelf_eq_self {name rest : List Char} (hname : ∀ c ∈ name, isWordChar c = true) :
    dropSelf (name ++ '(' :: rest) = name ++ '(' :: rest := by
  unfold dropSelf
  split
  · next after heq =>
    have hself : ∀ c ∈ "self".toList, isWordChar c = true := List.all_eq_true.mp rfl
    have hparenthesis := (span_name_cons hname (show isWordChar '(' = false from rfl) rest).2
    have hdot := (span_name_cons hself (show isWordChar '.' = false from rfl) after).2
    rw [heq] at hparenthesis
    have hcons : '(' :: rest = '.' :: after := hparenthesis.symm.trans hdot
    exact absurd (List.cons.inj hcons).1 (by decide)
  · rfl

namespace Definition

def head (definition : Definition) : List Char :=
  if definition.ofSelf then "self.".toList ++ definition.name else definition.name

/-- What follows the keyword. -/
def signature (definition : Definition) : List Char :=
  definition.head ++ '(' :: definition.parameters ++ [')']

/-- The statement that begins the definition. -/
def text (definition : Definition) : List Char :=
  "def".toList ++ ' ' :: definition.signature

/-- The block that the definition is. -/
def block (definition : Definition) : KeywordBlock :=
  if definition.name = "down".toList then .rollback else .other

variable (definition : Definition)

theorem isWordChar_of_mem_head : ∀ c ∈ definition.head, isWordChar c = true ∨ c = '.' := by
  intro c hc
  have hname : ∀ c ∈ definition.name, isWordChar c = true := isWordChar_of_mem_name definition.isName_name
  unfold head at hc
  split at hc
  · rcases List.mem_append.mp hc with hself | hc
    · have hall : ∀ c ∈ "self.".toList, (isWordChar c || c == '.') = true := List.all_eq_true.mp rfl
      simpa using hall c hself
    · exact .inl (hname c hc)
  · exact .inl (hname c hc)

theorem head_ne_nil : definition.head ≠ [] := by
  have hname : definition.name ≠ [] := ne_nil_of_isIdentifier (isIdentifier_of_isName definition.isName_name)
  unfold head
  split
  · exact List.append_ne_nil_of_right_ne_nil _ hname
  · exact hname

theorem getLast?_signature : definition.signature.getLast? = some ')' :=
  List.getLast?_concat

theorem trimmed_signature : Trimmed definition.signature where
  head := by
    obtain ⟨c, rest, hhead⟩ := List.exists_cons_of_ne_nil definition.head_ne_nil
    refine ⟨c, by rw [signature, hhead]; rfl, ?_⟩
    rcases definition.isWordChar_of_mem_head c (by simp [hhead]) with hword | rfl
    · exact isBlank_eq_false_of_isWordChar hword
    · rfl
  last := ⟨')', definition.getLast?_signature, rfl⟩

theorem getLast?_text : definition.text.getLast? = some ')' := by
  have hconcat : definition.text =
      "def".toList ++ ' ' :: (definition.head ++ '(' :: definition.parameters) ++ [')'] := by
    simp [text, signature]
  rw [hconcat, List.getLast?_concat]

theorem trim_text : trim definition.text = definition.text := by
  apply Trimmed.trim_eq
  exact ⟨⟨'d', rfl, rfl⟩, ')', definition.getLast?_text, rfl⟩

/-- Only the parameters may hold an equals sign between spaces. -/
theorem includes_signature :
    includes " = ".toList definition.signature = includes " = ".toList definition.parameters := by
  rw [Bool.eq_iff_iff, includes_iff_infix, includes_iff_infix]
  constructor
  · intro h
    have hparenthesis : ∀ c ∈ ['(', ')'], c ∉ " = ".toList := by simp
    have hclosed : " = ".toList <:+: definition.head ++ '(' :: definition.parameters := by
      rcases infix_of_infix_append (hparenthesis ')' (by simp)) h with hinside | hafter
      · exact hinside
      · exact absurd hafter (by decide)
    rcases infix_of_infix_append (hparenthesis '(' (by simp)) hclosed with hhead | hinside
    · rcases definition.isWordChar_of_mem_head ' ' (hhead.subset (by decide)) with hspace | hspace
      · exact absurd hspace (by decide)
      · exact absurd hspace (by decide)
    · exact hinside
  · rintro ⟨before, after, h⟩
    exact ⟨definition.head ++ '(' :: before, after ++ [')'], by simp [signature, ← h]⟩

/-- The name that is read from the signature. -/
theorem name_signature : (dropSelf definition.signature).takeWhile isWordChar = definition.name := by
  have hname : ∀ c ∈ definition.name, isWordChar c = true := isWordChar_of_mem_name definition.isName_name
  have hdropped : dropSelf definition.signature =
      definition.name ++ '(' :: (definition.parameters ++ [')']) := by
    rw [signature, List.append_assoc, head]
    split
    · exact dropSelf_eq_self hname
    · exact dropSelf_eq_self hname
  rw [hdropped, (span_name_cons hname rfl _).1]

theorem endsWithEnd_text : endsWithEnd definition.text = false := by
  have hends : endsWith "end".toList definition.text = false := by
    rw [endsWith, Bool.eq_false_iff]
    intro h
    obtain ⟨before, hbefore⟩ := List.isSuffixOf_iff_suffix.mp h
    have hlast := definition.getLast?_text
    rw [← hbefore, List.getLast?_append_of_ne_nil _ (by decide)] at hlast
    exact absurd hlast (by decide)
  rw [endsWithEnd, beforeSuffix?, hends]
  rfl

/-- A definition opens the block that it is, unless an equals sign stands between spaces among its
parameters. -/
theorem keywordBlock?_text :
    keywordBlock? definition.text =
      if includes " = ".toList definition.parameters then none else some definition.block := by
  have hdef : ∀ c ∈ "def".toList, isWordChar c = true := List.all_eq_true.mp rfl
  obtain ⟨hword, hrest⟩ := span_name_cons hdef (show isWordChar ' ' = false from rfl) definition.signature
  have hequals : endsWith ['='] definition.signature = false :=
    endsWith_eq_false definition.getLast?_signature (by decide)
  have hkeyword : openingKeywords.contains (String.ofList "def".toList) = true := by decide
  have hblank : startsBlank (' ' :: definition.signature) = true := rfl
  rw [keywordBlock?, trim_text]
  simp only [endsWithEnd_text]
  rw [text, hword, hrest]
  simp only [hkeyword, hblank, definition.trimmed_signature.trim_space_cons, includes_signature, hequals,
    name_signature, Bool.or_false, Bool.or_true, Bool.true_or, Bool.not_true, Bool.false_eq_true, if_false,
    if_true]
  rw [block, apply_ite some]

/-- A definition has no block at its end. -/
theorem opensBlock_text : opensBlock definition.text = false := by
  have hlast := definition.getLast?_text
  have hsemicolon : dropEndWhile (· == ';') definition.text = definition.text :=
    dropEndWhile_eq_self ⟨')', hlast, rfl⟩
  have hbare : bareStatement definition.text = definition.text := by
    rw [bareStatement, trim_text, hsemicolon]
    exact dropEndWhile_eq_self ⟨')', hlast, rfl⟩
  obtain ⟨before, hconcat⟩ := List.getLast?_eq_some_iff.mp hlast
  have hends : EndsBeyondBar [] := fun names after hnil => absurd hnil (by simp)
  have hopener (lead : List Char) : openerAt? (lead ++ [')']) = none :=
    openerAt?_append_cons rfl (by decide) hends lead
  have hlater : openerAfterBlank? (before ++ [')']) = none := by
    rw [openerAfterBlank?_append fun _ _ after _ _ => hopener after]
    rfl
  rw [opensBlock, hbare, hconcat, blockOpener?, hopener, hlater]
  rfl

end Definition

end ForeignKeyLint.Ruby
