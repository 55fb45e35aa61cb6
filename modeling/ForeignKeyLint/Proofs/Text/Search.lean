import ForeignKeyLint.Text.Search
import Mathlib.Data.List.Basic

/-!
Where a text is divided. The parts between separators hold none of them, there is one part more than
separators, and the parts around the first place of a pattern are found if the pattern stands nowhere before.
A text includes a pattern if the pattern stands in it as one piece.
-/

namespace ForeignKeyLint.Text

section SplitOn

variable {c : Char} {text : List Char}

/-- The parts are those that the library finds. -/
theorem splitOn_eq (c : Char) (text : List Char) : splitOn c text = text.splitOn c := by
  induction text with
  | nil => exact (List.splitOn_nil c).symm
  | cons first text ih =>
    rw [List.splitOn_cons_eq_if_modifyHead, ← ih, splitOn]
    by_cases hfirst : first = c
    · rw [if_pos hfirst, if_pos (beq_iff_eq.mpr hfirst)]
    · rw [if_neg hfirst, if_neg (by simpa using hfirst)]
      cases hparts : splitOn c text with
      | nil => exact absurd (ih.symm.trans hparts) (List.splitOn_ne_nil c text)
      | cons part others => rfl

theorem splitOn_ne_nil (c : Char) (text : List Char) : splitOn c text ≠ [] :=
  splitOn_eq c text ▸ List.splitOn_ne_nil c text

theorem splitOn_eq_self (h : c ∉ text) : splitOn c text = [text] :=
  (splitOn_eq c text).trans (List.splitOn_eq_singleton h)

theorem splitOn_append (h : c ∉ text) (rest : List Char) :
    splitOn c (text ++ c :: rest) = text :: splitOn c rest := by
  rw [splitOn_eq, splitOn_eq, List.splitOn_append_cons_self_of_not_mem h]

/-- The parts joined by the separator are the text. -/
theorem intercalate_splitOn (c : Char) (text : List Char) : [c].intercalate (splitOn c text) = text := by
  rw [splitOn_eq, List.intercalate_splitOn]

theorem splitOn_intercalate {parts : List (List Char)} (hparts : ∀ part ∈ parts, c ∉ part)
    (hne : parts ≠ []) : splitOn c ([c].intercalate parts) = parts := by
  rw [splitOn_eq, List.splitOn_intercalate c hparts hne]

theorem not_mem_of_mem_splitOn : ∀ part ∈ splitOn c text, c ∉ part := by
  induction text with
  | nil => simp [splitOn]
  | cons first text ih =>
    rw [splitOn]
    by_cases hfirst : first = c
    · simpa [hfirst] using ih
    · rw [if_neg hfirst]
      cases hparts : splitOn c text with
      | nil => exact absurd hparts (splitOn_ne_nil c text)
      | cons part others =>
        rw [hparts, List.forall_mem_cons] at ih
        simpa [Ne.symm hfirst] using ih

/-- There is one part more than separators. -/
theorem length_splitOn (c : Char) (text : List Char) : (splitOn c text).length = text.count c + 1 := by
  induction text with
  | nil => rfl
  | cons first text ih =>
    rw [splitOn]
    by_cases hfirst : first = c
    · rw [if_pos hfirst, List.length_cons, ih, hfirst, List.count_cons_self]
    · rw [if_neg hfirst, List.count_cons_of_ne hfirst, ← ih]
      cases hparts : splitOn c text with
      | nil => exact absurd hparts (splitOn_ne_nil c text)
      | cons part others => rfl

end SplitOn

section SplitAtFirst

theorem splitAtFirst?_char {c : Char} {before : List Char} (h : c ∉ before) (after : List Char) :
    splitAtFirst? [c] (before ++ c :: after) = some (before, after) := by
  induction before with
  | nil => simp [splitAtFirst?, afterPrefix?]
  | cons first before ih =>
    simp only [List.mem_cons, not_or] at h
    simp [splitAtFirst?, afterPrefix?, h.1, ih h.2]

theorem splitAtFirst?_eq_none {c : Char} {pattern text : List Char} (h : c ∉ text) :
    splitAtFirst? (c :: pattern) text = none := by
  rw [Option.eq_none_iff_forall_ne_some]
  rintro ⟨before, after⟩ hsplit
  apply h
  rw [eq_append_of_splitAtFirst? hsplit]
  simp

theorem not_mem_of_splitAtFirst? {c : Char} {text before after : List Char}
    (h : splitAtFirst? [c] text = some (before, after)) : c ∉ before := by
  induction text generalizing before with
  | nil => simp [splitAtFirst?, afterPrefix?] at h
  | cons first text ih =>
    by_cases hfirst : c = first
    · simp only [splitAtFirst?, afterPrefix?, if_pos hfirst, Option.some.injEq, Prod.mk.injEq] at h
      simp [← h.1]
    · simp only [splitAtFirst?, afterPrefix?, if_neg hfirst, Option.map_eq_some_iff,
        Prod.mk.injEq] at h
      obtain ⟨⟨start, rest⟩, hsplit, rfl, rfl⟩ := h
      simp [hfirst, ih hsplit]

end SplitAtFirst

/-- A text includes what stands in it as one piece. -/
theorem includes_iff_infix (pattern text : List Char) : includes pattern text = true ↔ pattern <:+: text := by
  rw [includes, Option.isSome_iff_exists]
  constructor
  · rintro ⟨⟨before, after⟩, h⟩
    exact ⟨before, after, (eq_append_of_splitAtFirst? h).symm⟩
  · intro h
    induction text with
    | nil =>
      obtain rfl := List.infix_nil.mp h
      exact ⟨([], []), rfl⟩
    | cons c text ih =>
      rw [splitAtFirst?]
      cases hhere : afterPrefix? pattern (c :: text) with
      | some after => exact ⟨([], after), rfl⟩
      | none =>
        rcases List.infix_cons_iff.mp h with ⟨after, hafter⟩ | hlater
        · rw [(afterPrefix?_eq_some_iff _ _ _).mpr hafter.symm] at hhere
          contradiction
        · obtain ⟨⟨before, after⟩, hsplit⟩ := ih hlater
          exact ⟨(c :: before, after), by rw [hsplit]; rfl⟩

end ForeignKeyLint.Text
