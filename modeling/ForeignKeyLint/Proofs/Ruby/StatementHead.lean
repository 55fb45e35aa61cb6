import ForeignKeyLint.Proofs.Ruby.Element
import ForeignKeyLint.Ruby.Statement

/-!
Lines that can only begin a statement of their own. Main statements: whether a line is of that kind depends
neither on a comment after it nor on a blank, except that a blank after the word `def` makes it one.

The words that are looked for consist of word characters. So what stands after a character of another kind
does not matter, and that character matters only where it ends a word.
-/

namespace ForeignKeyLint.Ruby

open Text

section Halts

variable {p : Char → Bool} {lead after pattern : List Char}

/-- The text is empty, or its first character does not satisfy `p`. -/
def Halts (p : Char → Bool) (text : List Char) : Prop :=
  ∀ c ∈ text.head?, p c = false

theorem halts_nil (p : Char → Bool) : Halts p [] := by
  simp [Halts]

theorem halts_cons {c : Char} (h : p c = false) (text : List Char) : Halts p (c :: text) := by
  simpa [Halts] using h

theorem takeWhile_append_of_halts (h : Halts p after) :
    (lead ++ after).takeWhile p = lead.takeWhile p := by
  induction lead with
  | nil => cases after <;> simp_all [Halts]
  | cons c lead ih => by_cases hc : p c = true <;> simp [hc, ih]

theorem dropWhile_append_of_halts (h : Halts p after) :
    (lead ++ after).dropWhile p = lead.dropWhile p ++ after := by
  induction lead with
  | nil => cases after <;> simp_all [Halts]
  | cons c lead ih => by_cases hc : p c = true <;> simp [hc, ih]

theorem Halts.not_mem (h : Halts p after) (hpattern : pattern.all p = true) :
    ∀ c ∈ after.head?, c ∉ pattern := by
  intro c hc hmem
  have hp := List.all_eq_true.mp hpattern c hmem
  rw [h c hc] at hp
  contradiction

/-- What a text begins with does not reach into a character that is no part of the pattern. -/
theorem afterPrefix?_append (h : ∀ c ∈ after.head?, c ∉ pattern) :
    afterPrefix? pattern (lead ++ after) = (afterPrefix? pattern lead).map (· ++ after) := by
  induction pattern generalizing lead with
  | nil => rfl
  | cons d pattern ih =>
    have hrest : ∀ c ∈ after.head?, c ∉ pattern := fun c hc hmem => h c hc (List.mem_cons_of_mem d hmem)
    cases lead with
    | nil =>
      cases after with
      | nil => rfl
      | cons c after =>
        have hne : d ≠ c := by
          rintro rfl
          exact h d rfl List.mem_cons_self
        simp [afterPrefix?, hne]
    | cons c lead =>
      by_cases hc : d = c
      · simpa [afterPrefix?, hc] using ih hrest
      · simp [afterPrefix?, hc]

theorem beginsWith_eq_isSome (pattern text : List Char) :
    beginsWith pattern text = (afterPrefix? pattern text).isSome := by
  rw [beginsWith, Bool.eq_iff_iff, List.isPrefixOf_iff_prefix, Option.isSome_iff_exists]
  apply exists_congr
  intro rest
  rw [afterPrefix?_eq_some_iff, eq_comm]

theorem beginsWith_append {c : Char} (hc : c ∉ pattern) (rest : List Char) :
    beginsWith pattern (lead ++ c :: rest) = beginsWith pattern lead := by
  have hnot : ∀ d ∈ (c :: rest).head?, d ∉ pattern := by simpa using hc
  rw [beginsWith_eq_isSome, beginsWith_eq_isSome, afterPrefix?_append hnot, Option.isSome_map]

end Halts

section Head

variable {after other : List Char}

/-- A character of a word, or the dot between a receiver and a method. -/
def isHeadChar (c : Char) : Bool :=
  isWordChar c || c == '.'

theorem isHeadChar_of_isWordChar {c : Char} (h : isWordChar c = true) : isHeadChar c = true := by
  simp [isHeadChar, h]

theorem isHeadChar_of_isNamePart {c : Char} (h : (isLowerOrUnderscore c || c.isDigit) = true) :
    isHeadChar c = true := by
  apply isHeadChar_of_isWordChar
  rcases Bool.or_eq_true_iff.mp h with hname | hdigit
  · rcases Bool.or_eq_true_iff.mp hname with hlower | hunderscore
    · have halpha : c.isAlpha = true := Bool.or_eq_true_iff.mpr (.inr hlower)
      have halphanum : c.isAlphanum = true := Bool.or_eq_true_iff.mpr (.inl halpha)
      exact Bool.or_eq_true_iff.mpr (.inl halphanum)
    · exact Bool.or_eq_true_iff.mpr (.inr hunderscore)
  · have halphanum : c.isAlphanum = true := Bool.or_eq_true_iff.mpr (.inr hdigit)
    exact Bool.or_eq_true_iff.mpr (.inl halphanum)

theorem Halts.mono {p q : Char → Bool} (h : Halts p after) (hpq : ∀ c, q c = true → p c = true) :
    Halts q after := by
  intro c hc
  by_contra hq
  have hp := hpq c (Bool.of_not_eq_false hq)
  rw [h c hc] at hp
  contradiction

theorem any_congr_of_mem {α : Type} {list : List α} {p q : α → Bool} (h : ∀ a ∈ list, p a = q a) :
    list.any p = list.any q := by
  rw [Bool.eq_iff_iff, List.any_eq_true, List.any_eq_true]
  exact exists_congr fun a => and_congr_right fun ha => by rw [h a ha]

theorem endsWord_append (hword : endsWord after = endsWord other) (lead : List Char) :
    endsWord (lead ++ after) = endsWord (lead ++ other) := by
  cases lead with
  | nil => exact hword
  | cons => rfl

theorem beginsWithBlockMethod_of_halts {text : List Char} (h : Halts isHeadChar text) :
    beginsWithBlockMethod text = false := by
  cases text with
  | nil => rfl
  | cons c text =>
    have hname : isLowerOrUnderscore c = false := by
      by_contra hname
      have hhead : isHeadChar c = true := isHeadChar_of_isNamePart (by simp [Bool.of_not_eq_false hname])
      rw [h c rfl] at hhead
      contradiction
    simp [beginsWithBlockMethod, hname]

variable (hafter : Halts isHeadChar after) (hother : Halts isHeadChar other)
  (hword : endsWord after = endsWord other)
include hafter hother hword

theorem beginsWithVerb_append (lead : List Char) :
    beginsWithVerb (lead ++ after) = beginsWithVerb (lead ++ other) := by
  apply any_congr_of_mem
  intro verb hverb
  have hchars : verb.all isHeadChar = true := by
    revert verb
    decide +kernel
  have hname (c : Char) (hc : isLowerOrUnderscore c = true) : isHeadChar c = true :=
    isHeadChar_of_isNamePart (by simp [hc])
  rw [afterPrefix?_append (hafter.not_mem hchars), afterPrefix?_append (hother.not_mem hchars)]
  cases afterPrefix? verb lead with
  | none => rfl
  | some rest =>
    simp only [Option.map_some, takeWhile_append_of_halts (hafter.mono hname),
      takeWhile_append_of_halts (hother.mono hname), dropWhile_append_of_halts (hafter.mono hname),
      dropWhile_append_of_halts (hother.mono hname), endsWord_append hword]

theorem beginsWithBlockMethod_append (lead : List Char) :
    beginsWithBlockMethod (lead ++ after) = beginsWithBlockMethod (lead ++ other) := by
  cases lead with
  | nil => rw [List.nil_append, List.nil_append, beginsWithBlockMethod_of_halts hafter,
      beginsWithBlockMethod_of_halts hother]
  | cons first lead =>
    have hname (c : Char) : (isLowerOrUnderscore c || c.isDigit) = true → isHeadChar c = true :=
      isHeadChar_of_isNamePart
    simp only [beginsWithBlockMethod, List.cons_append, dropWhile_append_of_halts (hafter.mono hname),
      dropWhile_append_of_halts (hother.mono hname)]
    congr 1
    cases lead.dropWhile fun c => isLowerOrUnderscore c || c.isDigit with
    | nil =>
      have hdot {text : List Char} (h : Halts isHeadChar text) (call : List Char) : text ≠ '.' :: call := by
        rintro rfl
        exact absurd (h '.' rfl) (by decide)
      simp [hdot hafter, hdot hother]
    | cons c call =>
      by_cases hc : c = '.'
      · subst hc
        simp only [List.cons_append]
        apply any_congr_of_mem
        intro method hmethod
        have hchars : method.all isHeadChar = true := by
          revert method
          decide +kernel
        rw [afterPrefix?_append (hafter.not_mem hchars), afterPrefix?_append (hother.not_mem hchars)]
        cases afterPrefix? method call with
        | none => rfl
        | some rest => exact endsWord_append hword rest
      · simp [hc]

end Head

section Statement

theorem startsStatement_eq (raw : List Char) :
    startsStatement raw =
      ((afterPrefix? "end".toList (trimStart raw)).any (fun rest => rest.isEmpty || startsBlank rest) ||
        (afterPrefix? "def".toList (trimStart raw)).any startsBlank || beginsWithVerb (trimStart raw) ||
        beginsWithBlockMethod (trimStart raw)) := by
  rw [startsStatement]
  cases afterPrefix? "end".toList (trimStart raw) <;>
    cases afterPrefix? "def".toList (trimStart raw) <;> rfl

/-- Whether a line begins a statement of its own does not depend on its comment. -/
theorem startsStatement_hash (lead comment other : List Char) :
    startsStatement (lead ++ '#' :: comment) = startsStatement (lead ++ '#' :: other) := by
  have hhalts (text : List Char) : Halts isHeadChar ('#' :: text) := halts_cons rfl text
  have htrim (text : List Char) : trimStart (lead ++ '#' :: text) = trimStart lead ++ '#' :: text :=
    dropWhile_append_of_halts (halts_cons (by decide) text)
  -- A word that ends before the comment has the comment after it, which is no blank.
  have hend (found : Option (List Char)) (text : List Char) :
      (found.map (· ++ '#' :: text)).any (fun rest => rest.isEmpty || startsBlank rest) =
        found.any startsBlank := by
    cases found with
    | none => rfl
    | some rest => cases rest <;> rfl
  have hdef (found : Option (List Char)) (text : List Char) :
      (found.map (· ++ '#' :: text)).any startsBlank = found.any startsBlank := by
    cases found with
    | none => rfl
    | some rest => cases rest <;> rfl
  have hword (word : List Char) (hchars : word.all isHeadChar = true) (text : List Char) :
      afterPrefix? word (trimStart lead ++ '#' :: text) =
        (afterPrefix? word (trimStart lead)).map (· ++ '#' :: text) :=
    afterPrefix?_append ((hhalts text).not_mem hchars)
  simp only [startsStatement_eq, htrim, hword "end".toList rfl, hword "def".toList rfl, hend, hdef,
    beginsWithVerb_append (hhalts comment) (hhalts other) rfl,
    beginsWithBlockMethod_append (hhalts comment) (hhalts other) rfl]

/-- Whether a text begins a statement of its own does not depend on a blank after it, unless the text is
the word `def`. -/
theorem startsStatement_blank {text : List Char} (htext : Trimmed text) {b : Char}
    (hb : isBlank b = true) (after : List Char) :
    startsStatement (text ++ b :: after) = (startsStatement text || text == "def".toList) := by
  have hhead : isHeadChar b = false := by
    by_contra hhead
    rcases Bool.or_eq_true_iff.mp (Bool.of_not_eq_false hhead) with hword | hdot
    · rw [isBlank_eq_false_of_isWordChar hword] at hb
      contradiction
    · rw [eq_of_beq hdot] at hb
      contradiction
  have hhalts : Halts isHeadChar (b :: after) := halts_cons hhead after
  have htrim : trimStart (text ++ b :: after) = text ++ b :: after := by
    obtain ⟨c, hc, hblank⟩ := htext.head
    obtain ⟨rest, rfl⟩ := List.head?_eq_some_iff.mp hc
    simp [trimStart, hblank]
  have hends : endsWord (b :: after) = endsWord [] := by simp [endsWord, hb]
  have hend (found : Option (List Char)) :
      (found.map (· ++ b :: after)).any (fun rest => rest.isEmpty || startsBlank rest) =
        found.any fun rest => rest.isEmpty || startsBlank rest := by
    cases found with
    | none => rfl
    | some rest => cases rest <;> simp [startsBlank, hb]
  have hdef : ((afterPrefix? "def".toList text).map (· ++ b :: after)).any startsBlank =
      ((afterPrefix? "def".toList text).any startsBlank || text == "def".toList) := by
    cases hfound : afterPrefix? "def".toList text with
    | none =>
      have hne : (text == "def".toList) = false := by
        rw [beq_eq_false_iff_ne]
        rintro rfl
        contradiction
      rw [hne]
      rfl
    | some rest =>
      obtain rfl := (afterPrefix?_eq_some_iff _ _ _).mp hfound
      cases rest <;> simp [startsBlank, hb]
  have hword (word : List Char) (hchars : word.all isHeadChar = true) :
      afterPrefix? word (text ++ b :: after) = (afterPrefix? word text).map (· ++ b :: after) :=
    afterPrefix?_append (hhalts.not_mem hchars)
  have hverb := beginsWithVerb_append hhalts (halts_nil isHeadChar) hends text
  have hmethod := beginsWithBlockMethod_append hhalts (halts_nil isHeadChar) hends text
  rw [List.append_nil] at hverb hmethod
  simp only [startsStatement_eq, htrim, htext.trimStart_eq, hword "end".toList rfl,
    hword "def".toList rfl, hend, hdef, hverb, hmethod]
  ac_rfl

end Statement

end ForeignKeyLint.Ruby
