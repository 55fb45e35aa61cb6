import ForeignKeyLint.Proofs.Report.Annotation

/-!
The escapes of a message. A message is written with an escape for each percent sign and each line break. Main
statement: this loses nothing. What is written has no raw line break, each percent sign in it begins an escape,
and undoing the escapes from left to right gives the message back, so different messages are written as
different data. Conversely every text of this form is what some message is written as.

Replacing the characters in turn comes to the same, if the percent sign is replaced first. Replaced after
another character it would escape the percent signs of the escapes that are there by then.
-/

namespace ForeignKeyLint.Annotation

open WorkflowCommand (unescape unescape_escape not_mem_escape)

/-- The escapes of a percent sign, a carriage return and a line feed. -/
def escapes : List (List Char) :=
  ["%25".toList, "%0D".toList, "%0A".toList]

/-- Each percent sign of a text begins an escape. -/
def PercentsEscape (data : List Char) : Prop :=
  ∀ rest, '%' :: rest <:+ data → ∃ code ∈ escapes, code <+: '%' :: rest

/-- A text without raw line breaks in which each percent sign begins an escape. -/
structure Escaped (data : List Char) : Prop where
  no_return : '\r' ∉ data
  no_newline : '\n' ∉ data
  percents : PercentsEscape data

/-- A text with a code in place of each occurrence of a character. -/
def replace (c : Char) (code text : List Char) : List Char :=
  text.flatMap fun d => if d = c then code else [d]

variable {c : Char} {code data rest : List Char}

theorem escapeChar_of_ne (hpercent : c ≠ '%') (hreturn : c ≠ '\r') (hnewline : c ≠ '\n') :
    escapeChar c = [c] := by
  unfold escapeChar
  split
  case h_4 => rfl
  all_goals contradiction

/-- Escaping is replacing the three characters in turn, the percent sign first. -/
theorem escape_eq_replace (message : List Char) :
    escape message =
      replace '\n' "%0A".toList (replace '\r' "%0D".toList (replace '%' "%25".toList message)) := by
  simp only [escape, replace, List.flatMap_assoc]
  congr 1
  funext c
  unfold escapeChar
  split
  case h_4 hpercent hreturn hnewline =>
    rw [if_neg hpercent, List.flatMap_singleton, if_neg hreturn, List.flatMap_singleton, if_neg hnewline]
  all_goals rfl

section Percents

theorem PercentsEscape.cons (h : PercentsEscape data) (hc : c ≠ '%') : PercentsEscape (c :: data) := by
  intro rest hrest
  rcases List.suffix_cons_iff.mp hrest with heq | hrest
  · exact absurd (List.cons.inj heq).1.symm hc
  · exact h rest hrest

theorem PercentsEscape.append (h : PercentsEscape data) (hcode : code ∈ escapes) :
    PercentsEscape (code ++ data) := by
  obtain ⟨first, second, rfl, hfirst, hsecond⟩ :
      ∃ first second, code = ['%', first, second] ∧ first ≠ '%' ∧ second ≠ '%' := by
    simp only [escapes, List.mem_cons, List.not_mem_nil, or_false] at hcode
    rcases hcode with rfl | rfl | rfl
    · exact ⟨'2', '5', rfl, by decide, by decide⟩
    · exact ⟨'0', 'D', rfl, by decide, by decide⟩
    · exact ⟨'0', 'A', rfl, by decide, by decide⟩
  intro rest hrest
  rcases List.suffix_cons_iff.mp hrest with heq | hrest
  · exact ⟨_, hcode, heq ▸ List.prefix_append _ _⟩
  · exact (h.cons hsecond).cons hfirst rest hrest

theorem percentsEscape_escape (message : List Char) : PercentsEscape (escape message) := by
  induction message with
  | nil => simp [PercentsEscape, escape]
  | cons c message ih =>
    change PercentsEscape (escapeChar c ++ escape message)
    unfold escapeChar
    split
    case h_4 hpercent _ _ => exact ih.cons hpercent
    all_goals exact ih.append (by decide)

end Percents

theorem escaped_escape (message : List Char) : Escaped (escape message) where
  no_return := not_mem_escape (.inl rfl) message
  no_newline := not_mem_escape (.inr rfl) message
  percents := percentsEscape_escape message

theorem Escaped.of_suffix (h : Escaped data) (hrest : rest <:+ data) : Escaped rest where
  no_return := fun hmem => h.no_return (hrest.subset hmem)
  no_newline := fun hmem => h.no_newline (hrest.subset hmem)
  percents := fun after hafter => h.percents after (hafter.trans hrest)

/-- Text in which only escapes have percent signs is written again as it was read. -/
theorem escape_unescape (h : Escaped data) : escape (unescape data) = data := by
  fun_induction unescape data with
  | case1 rest ih | case2 rest ih | case3 rest ih =>
    have hrest : escape (unescape rest) = rest := ih (h.of_suffix ⟨[_, _, _], rfl⟩)
    exact congrArg (_ :: _ :: _ :: ·) hrest
  | case4 c rest hpercent hreturn hnewline ih =>
    have hrest := ih (h.of_suffix (List.suffix_cons c rest))
    have hc : escapeChar c = [c] := by
      apply escapeChar_of_ne
      · rintro rfl
        obtain ⟨code, hcode, more, hmore⟩ := h.percents rest List.suffix_rfl
        simp only [escapes, List.mem_cons, List.not_mem_nil, or_false] at hcode
        rcases hcode with rfl | rfl | rfl
        · exact hpercent more rfl (List.cons.inj hmore).2.symm
        · exact hreturn more rfl (List.cons.inj hmore).2.symm
        · exact hnewline more rfl (List.cons.inj hmore).2.symm
      · rintro rfl
        exact h.no_return List.mem_cons_self
      · rintro rfl
        exact h.no_newline List.mem_cons_self
    change escapeChar c ++ escape (unescape rest) = c :: rest
    rw [hc, hrest]
    rfl
  | case5 => rfl

/-- Escaping loses nothing: what is written has no raw line break and no percent sign but those of escapes,
and reading it gives the message back, so different messages are written differently. -/
theorem escape_lossless :
    (∀ message, escape message =
      replace '\n' "%0A".toList (replace '\r' "%0D".toList (replace '%' "%25".toList message))) ∧
    (∀ data, Escaped data ↔ ∃ message, escape message = data) ∧
    (∀ message, unescape (escape message) = message) ∧
    Function.Injective escape := by
  have hinverse : Function.LeftInverse unescape escape := unescape_escape
  refine ⟨escape_eq_replace, fun data => ⟨?_, ?_⟩, hinverse, hinverse.injective⟩
  · intro h
    exact ⟨unescape data, escape_unescape h⟩
  · rintro ⟨message, rfl⟩
    exact escaped_escape message

/-- With the percent sign replaced last, a line feed would be written like the text of its escape. -/
example :
    let percentLast (message : List Char) := replace '%' "%25".toList (replace '\n' "%0A".toList message)
    percentLast ['\n'] = percentLast "%0A".toList ∧ escape ['\n'] ≠ escape "%0A".toList := by
  decide

end ForeignKeyLint.Annotation
