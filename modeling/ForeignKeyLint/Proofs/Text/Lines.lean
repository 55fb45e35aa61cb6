import ForeignKeyLint.Text.Lines
import Mathlib.Data.List.Basic

/-!
Physical lines of texts put together. The lines of a text hold its characters in order, without line
ends, and a text that ends with a line feed shares no line with the text after it.
-/

namespace ForeignKeyLint.Text

/-- The lines of a text hold its characters in order, and nothing else. -/
theorem flatten_lines_sublist (text : List Char) : (lines text).flatten.Sublist text := by
  fun_induction lines text
  case case1 => exact .slnil
  case case2 rest ih => exact .cons _ ih
  case case3 rest ih => exact .cons _ (.cons _ ih)
  case case4 c rest _ _ _ _ => exact .cons_cons c (List.nil_sublist rest)
  case case5 c rest _ _ line others hlines ih =>
    rw [hlines] at ih
    exact .cons_cons c ih

theorem lines_ne_nil {text : List Char} (h : text ≠ []) : lines text ≠ [] := by
  fun_cases lines text <;> simp_all

/-- A text that ends with a line feed does not share a line with the text after it. -/
theorem lines_append_of_ended {first : List Char} (h : first = [] ∨ first.getLast? = some '\n')
    (second : List Char) : lines (first ++ second) = lines first ++ lines second := by
  fun_induction lines first with
  | case1 => rfl
  | case2 rest ih | case3 rest ih =>
    have hrest : rest = [] ∨ rest.getLast? = some '\n' := by
      cases rest with
      | nil => exact .inl rfl
      | cons c rest => exact .inr (by simpa [List.getLast?_cons_cons] using h)
    simp only [List.cons_append, lines, ih hrest]
  | case4 c rest hfeed _ hnone =>
    have hrest : rest = [] := by
      by_contra hne
      exact lines_ne_nil hne hnone
    subst hrest
    exact absurd (by simpa using h) hfeed
  | case5 c rest hfeed hreturn line others hsome ih =>
    have hrest : rest ≠ [] := by
      rintro rfl
      simp [lines] at hsome
    have hended : rest.getLast? = some '\n' := by
      obtain ⟨d, rest, rfl⟩ := List.exists_cons_of_ne_nil hrest
      simpa [List.getLast?_cons_cons] using h
    have hjoined : ∀ after, c = '\r' → rest ++ second ≠ '\n' :: after := by
      rintro after hc heq
      obtain ⟨d, rest, rfl⟩ := List.exists_cons_of_ne_nil hrest
      obtain ⟨rfl, -⟩ := List.cons.inj heq
      exact hreturn rest hc rfl
    rw [List.cons_append, lines, ih (.inr hended), hsome]
    · rfl
    · exact hfeed
    · exact hjoined

end ForeignKeyLint.Text
