import ForeignKeyLint.Ruby.Code
import Mathlib.Data.List.TakeWhile

/-!
Where a literal begins and where it ends. A literal that is closed ends at the same place whatever
stands after it, but for the flags of a regular expression, to which the next character may belong. No
literal is closed by a blank, so blanks at the end of a text belong to the literal that runs to the
end, or to none. And whether a character opens a literal is settled by the next one, or by the next two
if it is a percent sign.
-/

namespace ForeignKeyLint.Ruby

open Text

/-- How the split of a text after its first literal changes when blanks are put at its end. They open
no literal, and they stand after a literal that is closed and belong to one that is not. -/
inductive SplitsAlike (text blanks : List Char) :
    Option (List Char × List Char) → Option (List Char × List Char) → Prop where
  | none : SplitsAlike text blanks none none
  | closed {literal after : List Char} :
    SplitsAlike text blanks (some (literal, after)) (some (literal, after ++ blanks))
  | unclosed {literal : List Char} :
    SplitsAlike text blanks (some (literal, [])) (some (text ++ blanks, []))

theorem SplitsAlike.of_pair {text blanks : List Char} {split longer : List Char × List Char}
    (h : longer = (split.1, split.2 ++ blanks) ∨ split.2 = [] ∧ longer = (text ++ blanks, [])) :
    SplitsAlike text blanks (some split) (some longer) := by
  obtain ⟨literal, after⟩ := split
  rcases h with rfl | ⟨hnil, rfl⟩
  · exact .closed
  · obtain rfl : after = [] := hnil
    exact .unclosed

section Delimited

variable {literal after other : List Char}

theorem splitDelimited_cons {c : Char} (hc : c ≠ '\\') (opening closing : Char) (depth : Nat)
    (rest : List Char) :
    splitDelimited opening closing depth (c :: rest) =
      if c = closing then
        match depth with
        | 0 => ([c], rest)
        | depth + 1 =>
          let (body, after) := splitDelimited opening closing depth rest
          (c :: body, after)
      else
        let (body, after) :=
          splitDelimited opening closing (if c = opening then depth + 1 else depth) rest
        (c :: body, after) := by
  rw [splitDelimited.eq_def]
  cases depth <;> simp [hc]

/-- A text between quotes, without either a quote or a backslash in it, ends at its closing quote. -/
theorem splitDelimited_quoted {quote : Char} (hquote : quote ≠ '\\') (content after : List Char)
    (hclosing : quote ∉ content) (hescape : '\\' ∉ content) :
    splitDelimited quote quote 0 (content ++ quote :: after) = (content ++ [quote], after) := by
  induction content with
  | nil => simp [splitDelimited_cons hquote]
  | cons c content ih =>
    simp only [List.mem_cons, not_or] at hclosing hescape
    have htail := ih hclosing.2 hescape.2
    rw [List.cons_append, splitDelimited_cons (Ne.symm hescape.1)]
    simp [Ne.symm hclosing.1, htail]

/-- A literal that is closed ends at the same place whatever follows. -/
theorem splitDelimited_of_closed {opening closing : Char} {depth : Nat} {text : List Char}
    (h : splitDelimited opening closing depth text = (literal, after)) (hafter : after ≠ []) :
    splitDelimited opening closing depth (literal ++ other) = (literal, other) := by
  fun_induction splitDelimited opening closing depth text generalizing literal
  case case1 =>
    obtain ⟨-, rfl⟩ := Prod.mk.inj h
    contradiction
  case case2 depth c rest body rest' hrest ih =>
    obtain ⟨rfl, rfl⟩ := Prod.mk.inj h
    simp [splitDelimited, ih hrest]
  case case3 c rest _ hclosing =>
    obtain ⟨rfl, rfl⟩ := Prod.mk.inj h
    rw [List.cons_append, splitDelimited_cons hclosing.2, if_pos hclosing.1]
    rfl
  case case4 c rest _ hclosing depth body rest' hrest ih =>
    obtain ⟨rfl, rfl⟩ := Prod.mk.inj h
    rw [List.cons_append, splitDelimited_cons hclosing.2, if_pos hclosing.1]
    simp only [ih hrest]
  case case5 depth c rest hescape hopen deeper body rest' hrest ih =>
    obtain ⟨rfl, rfl⟩ := Prod.mk.inj h
    -- A backslash here is the last character, and the literal is not closed then.
    have hc : c ≠ '\\' := by
      rintro rfl
      cases rest with
      | nil => simp_all [splitDelimited]
      | cons d rest => exact hescape d rest rfl rfl
    have hdeeper : deeper = if c = opening then depth + 1 else depth := by
      simp [deeper, hc]
    rw [List.cons_append, splitDelimited_cons hc, if_neg fun hclosing => hopen ⟨hclosing, hc⟩,
      ← hdeeper]
    simp only [ih hrest]

/-- Where nothing can close the literal, it runs to the end. -/
theorem splitDelimited_unclosed {opening closing : Char} (depth : Nat) {text : List Char}
    (h : ∀ c ∈ text, c = closing → c = '\\') :
    splitDelimited opening closing depth text = (text, []) := by
  fun_induction splitDelimited opening closing depth text
  case case1 => rfl
  case case2 hrest ih =>
    have hbody := ih fun c hc => h c (List.mem_cons_of_mem _ (List.mem_cons_of_mem _ hc))
    rw [hrest] at hbody
    simp [Prod.mk.inj hbody]
  case case3 c rest _ hclosing | case4 c rest _ hclosing _ _ _ _ _ =>
    exact absurd (h c List.mem_cons_self hclosing.1) hclosing.2
  case case5 hrest ih =>
    have hbody := ih fun c hc => h c (List.mem_cons_of_mem _ hc)
    rw [hrest] at hbody
    simp [Prod.mk.inj hbody]

/-- Blanks after the text of a literal stand after it if it is closed, and belong to it if not. -/
theorem splitDelimited_append_blanks {opening closing : Char} (hclosing : isBlank closing = false)
    (depth : Nat) (text : List Char) {blanks : List Char} (hblanks : ∀ c ∈ blanks, isBlank c = true) :
    splitDelimited opening closing depth (text ++ blanks) =
        ((splitDelimited opening closing depth text).1,
          (splitDelimited opening closing depth text).2 ++ blanks) ∨
      (splitDelimited opening closing depth text).2 = [] ∧
        splitDelimited opening closing depth (text ++ blanks) = (text ++ blanks, []) := by
  have hunclosed (depth : Nat) : splitDelimited opening closing depth blanks = (blanks, []) := by
    apply splitDelimited_unclosed
    rintro c hc rfl
    rw [hblanks c hc] at hclosing
    contradiction
  fun_induction splitDelimited opening closing depth text
  case case1 => exact .inr ⟨rfl, hunclosed _⟩
  case case2 depth c rest body after hrest ih =>
    rw [hrest] at ih
    rcases ih with ih | ⟨hnil, ih⟩
    · exact .inl (by simp [splitDelimited, ih])
    · exact .inr ⟨hnil, by simp [splitDelimited, ih]⟩
  case case3 c rest _ hclose =>
    rw [List.cons_append, splitDelimited_cons hclose.2, if_pos hclose.1]
    exact .inl rfl
  case case4 c rest _ hclose depth body after hrest ih =>
    rw [hrest] at ih
    rw [List.cons_append, splitDelimited_cons hclose.2, if_pos hclose.1]
    rcases ih with ih | ⟨hnil, ih⟩
    · exact .inl (by simp only [ih])
    · exact .inr ⟨hnil, by simp only [ih]⟩
  case case5 depth c rest hescape hopen deeper body after hrest ih =>
    by_cases hc : c = '\\'
    · -- A backslash here is the last character of the text, and protects a blank at most.
      obtain rfl : rest = [] := by
        cases rest with
        | nil => rfl
        | cons d rest => exact (hescape d rest hc rfl).elim
      obtain ⟨-, rfl⟩ := Prod.mk.inj (hrest : ([], []) = (body, after))
      refine .inr ⟨rfl, splitDelimited_unclosed depth ?_⟩
      intro d hd hclose
      rcases List.mem_cons.mp hd with rfl | hd
      · exact hc
      · rw [← hclose, hblanks d hd] at hclosing
        contradiction
    · have hdeeper : deeper = if c = opening then depth + 1 else depth := by
        simp [deeper, hc]
      rw [hrest] at ih
      rw [List.cons_append, splitDelimited_cons hc, if_neg fun hclose => hopen ⟨hclose, hc⟩,
        ← hdeeper]
      rcases ih with ih | ⟨hnil, ih⟩
      · exact .inl (by simp only [ih])
      · exact .inr ⟨hnil, by simp only [ih]⟩

end Delimited

section Regex

variable {literal after other : List Char}

theorem splitRegex_cons {c : Char} (hc : c ≠ '\\') (inClass : Bool) (rest : List Char) :
    splitRegex inClass (c :: rest) =
      if c = '/' ∧ inClass = false then
        (c :: rest.takeWhile Char.isLower, rest.dropWhile Char.isLower)
      else
        let (body, after) :=
          splitRegex (if c = '[' then true else if c = ']' then false else inClass) rest
        (c :: body, after) := by
  rw [splitRegex.eq_def]
  simp [hc]

/-- The longest run at the start of a text is the same when another character ends it. -/
theorem takeWhile_dropWhile_append {p : Char → Bool} (text : List Char)
    (hstop : ∀ c ∈ other.head?, p c = false) :
    (text.takeWhile p ++ other).takeWhile p = text.takeWhile p ∧
      (text.takeWhile p ++ other).dropWhile p = other := by
  have hrun : ∀ c ∈ text.takeWhile p, p c = true := fun c => List.mem_takeWhile_imp
  rw [List.takeWhile_append_of_pos hrun, List.dropWhile_append_of_pos hrun]
  cases other with
  | nil => simp
  | cons c other =>
    have hc : p c = false := hstop c rfl
    simp [hc]

/-- A regular expression that is closed ends at the same place when the same character follows, or
nothing does. -/
theorem splitRegex_of_closed {inClass : Bool} {text : List Char}
    (h : splitRegex inClass text = (literal, after)) (hafter : after ≠ [])
    (hother : ∀ c ∈ other.head?, c ∈ after.head?) :
    splitRegex inClass (literal ++ other) = (literal, other) := by
  fun_induction splitRegex inClass text generalizing literal
  case case1 =>
    obtain ⟨-, rfl⟩ := Prod.mk.inj h
    contradiction
  case case2 inClass c rest body rest' hrest ih =>
    obtain ⟨rfl, rfl⟩ := Prod.mk.inj h
    simp [splitRegex, ih hrest]
  case case3 c rest hescape hclosing =>
    obtain ⟨rfl, rfl⟩ := Prod.mk.inj h
    have hstop : ∀ c ∈ other.head?, c.isLower = false := by
      have hhead := List.head?_dropWhile_not Char.isLower rest
      intro c hc
      rw [Option.mem_def.mp (hother c hc)] at hhead
      simpa using hhead
    obtain ⟨htake, hdrop⟩ := takeWhile_dropWhile_append rest hstop
    have hc : c ≠ '\\' := by simp [hclosing.1]
    rw [List.cons_append, splitRegex_cons hc, if_pos hclosing, htake, hdrop]
  case case4 inClass c rest hescape hopen stillInClass body rest' hrest ih =>
    obtain ⟨rfl, rfl⟩ := Prod.mk.inj h
    have hc : c ≠ '\\' := by
      rintro rfl
      cases rest with
      | nil => simp_all [splitRegex]
      | cons d rest => exact hescape d rest rfl rfl
    have hnext := ih hrest
    simp only [stillInClass] at hnext
    rw [List.cons_append, splitRegex_cons hc, if_neg hopen]
    simp only [hnext]

theorem splitRegex_unclosed (inClass : Bool) {text : List Char} (h : '/' ∉ text) :
    splitRegex inClass text = (text, []) := by
  fun_induction splitRegex inClass text
  case case1 => rfl
  case case2 ih => simp_all
  case case3 hclosing => simp [hclosing.1] at h
  case case4 ih => simp_all

theorem isLower_eq_false_of_isBlank {c : Char} (h : isBlank c = true) : c.isLower = false := by
  rw [Bool.eq_false_iff]
  intro hlower
  obtain ⟨hlower, hupper⟩ := Bool.and_eq_true_iff.mp hlower
  have hlow : 97 ≤ c.toNat := of_decide_eq_true hlower
  have hhigh : c.toNat ≤ 122 := of_decide_eq_true hupper
  simp only [isBlank, Bool.or_eq_true, Bool.and_eq_true, decide_eq_true_eq, beq_iff_eq] at h
  omega

/-- Blanks after a regular expression stand after it if it is closed, and belong to it if not. -/
theorem splitRegex_append_blanks (inClass : Bool) (text : List Char) {blanks : List Char}
    (hblanks : ∀ c ∈ blanks, isBlank c = true) :
    splitRegex inClass (text ++ blanks) =
        ((splitRegex inClass text).1, (splitRegex inClass text).2 ++ blanks) ∨
      (splitRegex inClass text).2 = [] ∧
        splitRegex inClass (text ++ blanks) = (text ++ blanks, []) := by
  have hslash : '/' ∉ blanks := fun hmem => absurd (hblanks _ hmem) (by decide)
  fun_induction splitRegex inClass text
  case case1 => exact .inr ⟨rfl, splitRegex_unclosed _ hslash⟩
  case case2 inClass c rest body after hrest ih =>
    rw [hrest] at ih
    rcases ih with ih | ⟨hnil, ih⟩
    · exact .inl (by simp [splitRegex, ih])
    · exact .inr ⟨hnil, by simp [splitRegex, ih]⟩
  case case3 inClass c rest hescape hclosing =>
    have hc : c ≠ '\\' := by simp [hclosing.1]
    have hstop : ∀ c ∈ (rest.dropWhile Char.isLower ++ blanks).head?, c.isLower = false := by
      intro c hhead
      cases hdrop : rest.dropWhile Char.isLower with
      | nil =>
        rw [hdrop, List.nil_append] at hhead
        exact isLower_eq_false_of_isBlank (hblanks c (List.mem_of_mem_head? hhead))
      | cons d more =>
        have hnot := List.head?_dropWhile_not Char.isLower rest
        rw [hdrop] at hhead hnot
        obtain rfl : d = c := by simpa using hhead
        simpa using hnot
    obtain ⟨htake, hdrop⟩ := takeWhile_dropWhile_append rest hstop
    rw [← List.append_assoc, List.takeWhile_append_dropWhile] at htake hdrop
    rw [List.cons_append, splitRegex_cons hc, if_pos hclosing, htake, hdrop]
    exact .inl rfl
  case case4 inClass c rest hescape hopen stillInClass body after hrest ih =>
    by_cases hc : c = '\\'
    · obtain rfl : rest = [] := by
        cases rest with
        | nil => rfl
        | cons d rest => exact (hescape d rest hc rfl).elim
      obtain ⟨-, rfl⟩ := Prod.mk.inj (hrest : ([], []) = (body, after))
      refine .inr ⟨rfl, splitRegex_unclosed _ ?_⟩
      simp [hc, hslash]
    · rw [hrest] at ih
      simp only [stillInClass] at ih
      rw [List.cons_append, splitRegex_cons hc, if_neg hopen]
      rcases ih with ih | ⟨hnil, ih⟩
      · exact .inl (by simp only [ih])
      · exact .inr ⟨hnil, by simp only [ih]⟩

end Regex

section Percent

variable {literal after other : List Char}

theorem percentOpening?_eq_none_iff {text : List Char} :
    percentOpening? text = none ↔ ∀ first ∈ text.head?,
      (first ∈ percentFlavors →
        ∀ opening ∈ text.tail.head?, percentOpening?.delimits opening = false) ∧
      (first ∉ percentFlavors → percentOpening?.delimits first = false) := by
  match text with
  | [] => simp [percentOpening?]
  | [first] => by_cases hflavor : first ∈ percentFlavors <;> simp [percentOpening?, hflavor]
  | first :: opening :: rest =>
    by_cases hflavor : first ∈ percentFlavors <;> simp [percentOpening?, hflavor]

theorem percentOpening?_of_some {text head body : List Char} {opening : Char}
    (h : percentOpening? text = some (head, opening, body)) (more : List Char) :
    percentOpening? (head ++ more) = some (head, opening, more) := by
  cases text with
  | nil => contradiction
  | cons first rest =>
    unfold percentOpening? at h ⊢
    grind

theorem delimits_of_percentOpening? {text head body : List Char} {opening : Char}
    (h : percentOpening? text = some (head, opening, body)) :
    percentOpening?.delimits opening = true := by
  cases text with
  | nil => contradiction
  | cons first rest =>
    unfold percentOpening? at h
    grind

/-- A percent sign before this character opens a literal if an operand is due. -/
def isDelimiter (c : Char) : Bool :=
  c ∉ percentFlavors && percentOpening?.delimits c

/-- The text goes on with nothing, or with the delimiter that stood here before. -/
def KeepsHead (text other : List Char) : Prop :=
  ∀ c ∈ other.head?, c ∈ text.head? ∧ isDelimiter c = true

theorem keepsHead_nil (text : List Char) : KeepsHead text [] := by
  simp [KeepsHead]

theorem keepsHead_cons {c : Char} (hc : isDelimiter c = true) (text other : List Char) :
    KeepsHead (c :: text) (c :: other) := by
  simp [KeepsHead, hc]

theorem percentOpening?_eq_none_of_keepsHead {lead text : List Char} (hother : KeepsHead text other)
    (h : percentOpening? (lead ++ text) = none) : percentOpening? (lead ++ other) = none := by
  rw [percentOpening?_eq_none_iff] at h ⊢
  intro first hfirst
  match lead with
  | [] =>
    obtain ⟨hhead, hdelimiter⟩ := hother first hfirst
    simp only [isDelimiter, Bool.and_eq_true, decide_eq_true_eq] at hdelimiter
    have hnone := (h first hhead).2 hdelimiter.1
    rw [hdelimiter.2] at hnone
    contradiction
  | [_] =>
    refine ⟨fun hflavor opening hopening => ?_, (h first hfirst).2⟩
    exact (h first hfirst).1 hflavor opening (hother opening hopening).1
  | _ :: _ :: _ => exact h first hfirst

theorem splitPercent?_of_closed {text : List Char} (h : splitPercent? text = some (literal, after))
    (hafter : after ≠ []) : splitPercent? (literal ++ other) = some (literal, other) := by
  simp only [splitPercent?, Option.map_eq_some_iff, Prod.mk.injEq, Prod.exists] at h
  obtain ⟨head, opening, body, hopen, rfl, rfl⟩ := h
  have hinner : splitDelimited opening (closingDelimiter opening) 0
      ((splitDelimited opening (closingDelimiter opening) 0 body).1 ++ other) =
        ((splitDelimited opening (closingDelimiter opening) 0 body).1, other) :=
    splitDelimited_of_closed (Prod.eta _).symm hafter
  rw [List.append_assoc, splitPercent?, percentOpening?_of_some hopen]
  simp only [Option.map_some, hinner]

theorem isBlank_closingDelimiter {opening : Char} (h : percentOpening?.delimits opening = true) :
    isBlank (closingDelimiter opening) = false := by
  unfold closingDelimiter
  split
  case h_5 =>
    simp only [percentOpening?.delimits, Bool.not_eq_true', Bool.or_eq_false_iff] at h
    exact h.1.2
  all_goals rfl

theorem splitPercent?_append_blanks (text : List Char) {blanks : List Char}
    (hblanks : ∀ c ∈ blanks, isBlank c = true) :
    SplitsAlike text blanks (splitPercent? text) (splitPercent? (text ++ blanks)) := by
  cases hopen : percentOpening? text with
  | none =>
    have hflavors : percentFlavors.any isBlank = false := by decide
    have hblank : ∀ c ∈ blanks.head?, c ∉ percentFlavors ∧ percentOpening?.delimits c = false := by
      intro c hc
      have hc := hblanks c (List.mem_of_mem_head? hc)
      refine ⟨fun hflavor => ?_, by simp [percentOpening?.delimits, hc]⟩
      exact List.any_eq_false.mp hflavors c hflavor hc
    have hnone : percentOpening? (text ++ blanks) = none := by
      rw [percentOpening?_eq_none_iff] at hopen ⊢
      intro first hfirst
      match text with
      | [] =>
        obtain ⟨hflavor, hdelimits⟩ := hblank first hfirst
        exact ⟨fun hmem => absurd hmem hflavor, fun _ => hdelimits⟩
      | [_] =>
        exact ⟨fun _ opening hopening => (hblank opening hopening).2, (hopen first hfirst).2⟩
      | _ :: _ :: _ => exact hopen first hfirst
    rw [splitPercent?, splitPercent?, hopen, hnone]
    exact .none
  | some found =>
    obtain ⟨head, opening, body⟩ := found
    obtain rfl := percentOpening?_append hopen
    have hclosing := isBlank_closingDelimiter (delimits_of_percentOpening? hopen)
    have hafter : percentOpening? (head ++ (body ++ blanks)) = some (head, opening, body ++ blanks) :=
      percentOpening?_of_some hopen _
    have hbody := @splitDelimited_append_blanks opening _ hclosing 0 body _ hblanks
    simp only [splitPercent?, hopen, List.append_assoc, hafter, Option.map_some]
    rcases hbody with hbody | ⟨hnil, hbody⟩
    · rw [hbody]
      exact .closed
    · rw [hnil, hbody, ← List.append_assoc head body blanks]
      exact .unclosed

end Percent

section Literal

variable {context : Context} {c : Char} {rest literal after other : List Char}

theorem splitDelimited_fst_ne_nil (opening closing : Char) (depth : Nat) (hrest : rest ≠ []) :
    (splitDelimited opening closing depth rest).1 ≠ [] := by
  fun_cases splitDelimited opening closing depth rest <;> simp_all

theorem splitRegex_fst_ne_nil (inClass : Bool) (hrest : rest ≠ []) :
    (splitRegex inClass rest).1 ≠ [] := by
  fun_cases splitRegex inClass rest <;> simp_all

theorem splitPercent?_fst_ne_nil (h : splitPercent? rest = some (literal, after)) :
    literal ≠ [] := by
  simp only [splitPercent?, Option.map_eq_some_iff, Prod.mk.injEq, Prod.exists] at h
  obtain ⟨head, opening, body, hopen, rfl, -⟩ := h
  have hhead : head ≠ [] := by
    rintro rfl
    cases rest with
    | nil => contradiction
    | cons first rest =>
      unfold percentOpening? at hopen
      grind
  simp [hhead]

theorem literal_ne_nil (h : splitLiteral? context c rest = some (literal, after))
    (hafter : after ≠ []) : literal ≠ [] := by
  have hrest : rest ≠ [] := by
    rintro rfl
    exact hafter (List.append_eq_nil_iff.mp (splitLiteral?_append h)).2
  have hquoted := splitDelimited_fst_ne_nil c c 0 hrest
  unfold splitLiteral? at h
  split at h
  · simpa [Option.some.inj h] using hquoted
  · simpa [Option.some.inj h] using hquoted
  · simpa [Option.some.inj h] using hquoted
  · split at h
    · exact splitPercent?_fst_ne_nil h
    · contradiction
  · split at h
    · simpa [Option.some.inj h] using splitRegex_fst_ne_nil false hrest
    · contradiction
  · contradiction

/-- A literal that ends before the end of the text ends there whatever follows, if the next character
is the same or there is none. -/
theorem splitLiteral?_of_closed (h : splitLiteral? context c rest = some (literal, after))
    (hafter : after ≠ []) (hother : ∀ d ∈ other.head?, d ∈ after.head?) :
    splitLiteral? context c (literal ++ other) = some (literal, other) := by
  have hhead : (literal ++ other).head? = rest.head? := by
    obtain ⟨first, more, rfl⟩ := List.exists_cons_of_ne_nil (literal_ne_nil h hafter)
    rw [← splitLiteral?_append h]
    rfl
  unfold splitLiteral? at h ⊢
  rw [hhead]
  split at h
  · simpa using splitDelimited_of_closed (Option.some.inj h) hafter
  · simpa using splitDelimited_of_closed (Option.some.inj h) hafter
  · simpa using splitDelimited_of_closed (Option.some.inj h) hafter
  · split at h
    · next hoperand =>
      simp only [hoperand, if_true]
      exact splitPercent?_of_closed h hafter
    · contradiction
  · split at h
    · next hoperand =>
      simp only [hoperand, if_true]
      rw [splitRegex_of_closed (Option.some.inj h) hafter hother]
    · contradiction
  · contradiction

/-- An operand that is due before the end of a text is due before any character. -/
theorem expectsOperand_of_none (h : context.expectsOperand none = true) (next : Option Char) :
    context.expectsOperand next = true := by
  unfold Context.expectsOperand at h ⊢
  cases hcode : context.lastCode with
  | none => rfl
  | some code =>
    have hoperator : Context.operators.contains code = true := by simpa [hcode] using h
    simp only [hoperator, Bool.true_or]

/-- A blank says no more about an operand than the end of the text does. -/
theorem expectsOperand_blank {blank : Char} (hblank : isBlank blank = true) :
    context.expectsOperand (some blank) = context.expectsOperand none := by
  unfold Context.expectsOperand
  cases context.lastCode with
  | none => rfl
  | some code => simp [hblank]

/-- What opens no literal opens none either where the text goes on with the same delimiter or ends. -/
theorem splitLiteral?_eq_none_of_keepsHead {lead text : List Char} (hother : KeepsHead text other)
    (h : splitLiteral? context c (lead ++ text) = none) :
    splitLiteral? context c (lead ++ other) = none := by
  have hoperand (hdue : context.expectsOperand (lead ++ other).head? = true) :
      context.expectsOperand (lead ++ text).head? = true := by
    cases lead with
    | cons d lead => exact hdue
    | nil =>
      cases other with
      | nil => exact expectsOperand_of_none hdue _
      | cons d other =>
        rw [List.nil_append, Option.mem_def.mp (hother d rfl).1]
        exact hdue
  unfold splitLiteral? at h ⊢
  split at h
  · contradiction
  · contradiction
  · contradiction
  · split
    · next hdue =>
      rw [if_pos (hoperand hdue), splitPercent?, Option.map_eq_none_iff] at h
      rw [splitPercent?, percentOpening?_eq_none_of_keepsHead hother h, Option.map_none]
    · rfl
  · split
    · next hdue =>
      rw [if_pos (hoperand hdue)] at h
      contradiction
    · rfl
  · rfl

/-- A literal that ends before a text ends there too where the text goes on with the same delimiter or
ends. -/
theorem splitLiteral?_of_keepsHead {more text : List Char} (hother : KeepsHead text other)
    (h : splitLiteral? context c (literal ++ (more ++ text)) = some (literal, more ++ text)) :
    splitLiteral? context c (literal ++ (more ++ other)) = some (literal, more ++ other) := by
  cases hafter : more ++ text with
  | nil =>
    obtain ⟨rfl, rfl⟩ := List.append_eq_nil_iff.mp hafter
    obtain rfl : other = [] := by
      cases other with
      | nil => rfl
      | cons d other => simpa using (hother d rfl).1
    exact h
  | cons d after =>
    have hhead : ∀ d ∈ (more ++ other).head?, d ∈ (more ++ text).head? := by
      cases more with
      | nil => exact fun d hd => (hother d hd).1
      | cons e more => exact fun d hd => hd
    exact splitLiteral?_of_closed h (by simp [hafter]) hhead

theorem splitLiteral?_append_blanks (context : Context) (c : Char) (text : List Char)
    {blanks : List Char} (hblanks : ∀ c ∈ blanks, isBlank c = true) :
    SplitsAlike text blanks (splitLiteral? context c text)
      (splitLiteral? context c (text ++ blanks)) := by
  have hoperand : context.expectsOperand (text ++ blanks).head? =
      context.expectsOperand text.head? := by
    match text, blanks with
    | _ :: _, _ => rfl
    | [], [] => rfl
    | [], blank :: _ => exact expectsOperand_blank (hblanks blank List.mem_cons_self)
  have hquoted (quote : Char) (hquote : isBlank quote = false) :
      SplitsAlike text blanks (some (splitDelimited quote quote 0 text))
        (some (splitDelimited quote quote 0 (text ++ blanks))) :=
    .of_pair (splitDelimited_append_blanks hquote 0 text hblanks)
  unfold splitLiteral?
  rw [hoperand]
  split
  · exact hquoted '"' rfl
  · exact hquoted '\'' rfl
  · exact hquoted '\x60' rfl
  · split
    · exact splitPercent?_append_blanks text hblanks
    · exact .none
  · split
    · exact .of_pair (splitRegex_append_blanks false text hblanks)
    · exact .none
  · exact .none

end Literal

end ForeignKeyLint.Ruby
