import ForeignKeyLint.Proofs.Ruby.BlockOpener
import ForeignKeyLint.Proofs.Ruby.ReadingEnd
import ForeignKeyLint.Proofs.Text.Lines

/-!
Quotes in source text. A reader cuts a text into lines, statements and arguments, and never adds a
quote to it, but for the empty string that stands for a here document, whose opener has as many angle
signs. Main statements: a statement at the start of a text has no more quotes and angle signs than the
text, and a name among the arguments of a call is an identifier or stands between two quotes that it
does not share.
-/

namespace ForeignKeyLint.Ruby

open Text
open scoped List

/-- The number of quotes and angle signs in a text. -/
def markCount (text : List Char) : Nat :=
  text.countP ['"', '\'', '<'].contains

theorem markCount_append (first second : List Char) :
    markCount (first ++ second) = markCount first + markCount second :=
  List.countP_append

theorem markCount_le {first second : List Char} (h : first <+ second) :
    markCount first ≤ markCount second :=
  h.countP_le

theorem markCount_eq_zero {text : List Char} (h : ∀ c ∈ text, c ∉ ['"', '\'', '<']) :
    markCount text = 0 := by
  rw [markCount, List.countP_eq_zero]
  intro c hc
  simpa using h c hc

theorem dropEndWhile_sublist (p : Char → Bool) (text : List Char) : dropEndWhile p text <+ text :=
  (dropEndWhile_prefix_self p text).sublist

theorem trim_sublist (text : List Char) : trim text <+ text :=
  (dropEndWhile_sublist isBlank _).trans (List.dropWhile_sublist isBlank)

section Walk

/-- A visited character stands in the text, right before the rest of its visit. -/
theorem suffix_of_mem_walkFrom {flow : Visit → Flow} {context : Context} {offset : Nat}
    {text : List Char} {visit : Visit} (h : visit ∈ walkFrom flow context offset text) :
    visit.char :: visit.rest <:+ text := by
  fun_induction walkFrom flow context offset text
  case case1 => simp at h
  case case2 c rest literal after hliteral _ ih =>
    have hafter : after <:+ rest := ⟨literal, splitLiteral?_append hliteral⟩
    exact (ih h).trans (hafter.trans (List.suffix_cons c rest))
  case case3 context offset c rest _ proceeded jumped =>
    rcases List.mem_cons.mp h with rfl | h
    · exact List.suffix_rfl
    · split at h
      · exact (proceeded h).trans (List.suffix_cons c rest)
      · next target _ =>
        have hafter : (splitAtByte (offset + c.utf8Size) target rest).2 <:+ rest :=
          ⟨_, splitAtByte_append _ _ _⟩
        exact (jumped target _ _ rfl h).trans (hafter.trans (List.suffix_cons c rest))
      · simp at h

theorem suffix_of_mem_code {text : List Char} {visit : Visit} (h : visit ∈ code text) :
    visit.char :: visit.rest <:+ text :=
  suffix_of_mem_walkFrom h

theorem before_append (visit : Visit) (start : List Char) :
    visit.before (start ++ visit.char :: visit.rest) = start := by
  have hlength : (start ++ visit.char :: visit.rest).length - visit.rest.length - 1 =
      start.length := by
    simp only [List.length_append, List.length_cons]
    omega
  rw [Visit.before, hlength, List.take_left]

theorem before_sublist (visit : Visit) (text : List Char) : visit.before text <+ text :=
  List.take_sublist _ _

theorem sublist_of_mem_segments {text start part : List Char} {cuts : List Visit}
    (hstart : start <+ text) (hcuts : ∀ cut ∈ cuts, cut.rest <+ text)
    (h : part ∈ segments start cuts) : part <+ text := by
  induction cuts generalizing start with
  | nil =>
    rw [List.mem_singleton.mp h]
    exact hstart
  | cons cut cuts ih =>
    rcases List.mem_cons.mp h with rfl | h
    · exact (before_sublist cut start).trans hstart
    · exact ih (hcuts cut List.mem_cons_self) (fun other hother =>
        hcuts other (List.mem_cons_of_mem _ hother)) h

/-- The parts of a text hold nothing that it does not hold. -/
theorem sublist_of_mem_splitOutside {separator : Char} {text part : List Char}
    (h : part ∈ splitOutside separator text) : part <+ text := by
  obtain ⟨hpart, -⟩ := List.mem_filter.mp h
  obtain ⟨segment, hsegment, rfl⟩ := List.mem_map.mp hpart
  have hcuts : ∀ cut ∈ separatorsFrom separator 0 (code text), cut.rest <+ text := by
    intro cut hcut
    have hsuffix := suffix_of_mem_code (mem_of_mem_separatorsFrom hcut)
    exact (List.sublist_cons_self _ _).trans hsuffix.sublist
  exact (trim_sublist segment).trans (sublist_of_mem_segments (.refl text) hcuts hsegment)

end Walk

section Heredoc

theorem eq_append_of_heredoc? {rest : List Char} {heredoc : Heredoc}
    (h : heredoc? rest = some heredoc) :
    rest = heredoc.opener ++ heredoc.after ∧ 1 ≤ markCount heredoc.opener := by
  have hmarks (text : List Char) : 1 ≤ markCount ('<' :: text) := by
    simp [markCount]
  unfold heredoc? at h
  split at h
  · next rest =>
    split at h
    next sign rest' hsign =>
    split at h
    next quote body hquote =>
    have hrest : rest = sign ++ rest' := by
      split at hsign <;> obtain ⟨rfl, rfl⟩ := Prod.mk.inj hsign <;> rfl
    have hbody : rest' = quote ++ body := by
      split at hquote <;> obtain ⟨rfl, rfl⟩ := Prod.mk.inj hquote <;> rfl
    dsimp only at h
    split at h
    · next first terminator after hterminator hafter =>
      have hend := (afterPrefix?_eq_some_iff _ _ _).mp hafter
      split at h
      · contradiction
      · obtain rfl := Option.some.inj h
        refine ⟨?_, hmarks _⟩
        have hwhole := List.takeWhile_append_dropWhile (p := isTerminatorChar) (l := body)
        rw [hend] at hwhole
        simp only [hrest, hbody, List.cons_append, List.append_assoc, hwhole]
    · contradiction
  · contradiction

theorem heredoc?_eq_some {visit : Visit} {heredoc : Heredoc} (h : visit.heredoc? = some heredoc) :
    visit.char = '<' ∧ visit.rest = heredoc.opener ++ heredoc.after ∧
      1 ≤ markCount heredoc.opener := by
  unfold Visit.heredoc? at h
  split at h
  · next hangle => exact ⟨hangle, eq_append_of_heredoc? h⟩
  · contradiction

/-- The code of a line has no more marks than the line. -/
theorem markCount_codeOf_le (start : List Char) (context : Context) (offset : Nat)
    (text : List Char) :
    markCount (codeOf (start ++ text) (walkFrom Visit.lineFlow context offset text)) ≤
      markCount (start ++ text) := by
  -- The induction is along the walk; `start` is what it has passed since the last here document.
  fun_induction walkFrom Visit.lineFlow context offset text generalizing start
  case case1 => exact Nat.le_refl _
  case case2 c rest literal after hliteral _ ih =>
    have hsplit : start ++ c :: rest = start ++ c :: literal ++ after := by
      simp [← splitLiteral?_append hliteral]
    rw [hsplit]
    exact ih (start ++ c :: literal)
  case case3 context offset c rest _ proceeded jumped =>
    have hbefore := before_append { offset, char := c, rest } start
    rw [codeOf]
    split
    · exact markCount_le (before_sublist _ _)
    · next hcomment =>
      cases hheredoc : Visit.heredoc? { offset, char := c, rest } with
      | none =>
        have hflow : Visit.lineFlow { offset, char := c, rest } = .proceed := by
          rw [Visit.lineFlow, if_neg hcomment, hheredoc]
        have hstart : start ++ c :: rest = start ++ [c] ++ rest := by simp
        rw [hflow, hstart]
        exact proceeded (start ++ [c])
      | some heredoc =>
        obtain ⟨hangle, hrest, hmarks⟩ := heredoc?_eq_some hheredoc
        have hflow : Visit.lineFlow { offset, char := c, rest } =
            .resumeAt (offset + c.utf8Size + byteLength heredoc.opener) := by
          rw [Visit.lineFlow, if_neg hcomment, hheredoc]
        have hjump : splitAtByte (offset + c.utf8Size)
            (offset + c.utf8Size + byteLength heredoc.opener) rest =
              (heredoc.opener, heredoc.after) := by
          obtain rfl : rest = heredoc.opener ++ heredoc.after := hrest
          exact splitAtByte_byteLength _ _ _
        have hlater := jumped _ _ _ hjump []
        have hopener : markCount (start ++ c :: rest) =
            markCount start + 1 + markCount heredoc.opener + markCount heredoc.after := by
          obtain rfl : c = '<' := hangle
          obtain rfl : rest = heredoc.opener ++ heredoc.after := hrest
          rw [markCount_append, markCount, markCount, List.countP_cons_of_pos (by rfl), ← markCount,
            ← markCount, markCount_append]
          omega
        have hempty (text : List Char) : markCount ('"' :: '"' :: text) = markCount text + 2 := by
          simp [markCount]
        rw [List.nil_append] at hlater
        simp only [hflow, hjump]
        rw [hbefore, markCount_append, hempty, hopener]
        omega

end Heredoc

section Lines

theorem markCount_read_le {mode next : Mode} {text code : List Char}
    (h : mode.read text = .code next code) : markCount code ≤ markCount text := by
  have hcode : markCount (stripLine text).1 ≤ markCount text := markCount_codeOf_le [] {} 0 text
  rw [eq_trim_of_read h]
  exact (markCount_le (trim_sublist _)).trans hcode

theorem markCount_add_le (draft : Draft) (number : Nat) (code : List Char) :
    markCount (draft.add number code).text ≤ markCount draft.text + markCount code := by
  have hpiece : markCount (trimEnd (dropEndWhile (· == '\\') code)) ≤ markCount code :=
    markCount_le ((dropEndWhile_sublist _ _).trans (dropEndWhile_sublist _ _))
  have hspace (text : List Char) : markCount (' ' :: text) = markCount text := by simp [markCount]
  unfold Draft.add
  dsimp only
  split
  · omega
  · rw [markCount_append, hspace]
    omega

/-- Joined lines have no more marks than the lines they come from. -/
theorem markCount_join_le (mode : Mode) (draft : Draft) (lines : List Line) :
    markCount (join mode draft lines).draft.text ≤
      markCount draft.text + markCount (lines.flatMap Line.text) := by
  have hadd {mode next : Mode} {line : Line} {code : List Char} (draft : Draft)
      (hread : mode.read line.text = .code next code) :
      markCount (draft.add line.number code).text ≤ markCount draft.text + markCount line.text :=
    (markCount_add_le draft line.number code).trans
      (Nat.add_le_add_left (markCount_read_le hread) _)
  have hcons (line : Line) (rest : List Line) : markCount ((line :: rest).flatMap Line.text) =
      markCount line.text + markCount (rest.flatMap Line.text) :=
    markCount_append _ _
  fun_induction join mode draft lines
  case case1 | case2 | case4 | case7 => exact Nat.le_add_right _ _
  case case3 ih | case5 ih | case6 ih =>
    rw [hcons]
    exact ih.trans (Nat.add_le_add_left (Nat.le_add_left _ _) _)
  case case8 draft line rest _ _ _ _ hread _ _ | case10 draft line rest _ _ _ _ hread _ _ _ =>
    rw [hcons, ← Nat.add_assoc]
    exact (hadd draft hread).trans (Nat.le_add_right _ _)
  case case9 draft line rest _ _ _ _ hread _ _ _ ih =>
    rw [hcons, ← Nat.add_assoc]
    exact ih.trans (Nat.add_le_add_right (hadd draft hread) _)

theorem flatMap_numberLines (first : Nat) (texts : List (List Char)) :
    (numberLines first texts).flatMap Line.text = texts.flatten := by
  induction texts generalizing first with
  | nil => rfl
  | cons text texts ih => rw [numberLines, List.flatMap_cons, ih, List.flatten_cons]

theorem markCount_next_le (text : List Char) :
    markCount (Reader.next { lines := numberLines 1 (Text.lines text) }).draft.text ≤
      markCount text := by
  have hjoin := markCount_join_le {} {} (numberLines 1 (Text.lines text))
  rw [flatMap_numberLines] at hjoin
  have hempty : markCount ({} : Draft).text = 0 := rfl
  have hlines := markCount_le (flatten_lines_sublist text)
  exact hjoin.trans (by omega)

end Lines

section Arguments

theorem prefix_of_openerAfterBlank? {text before : List Char} {parameters : List String}
    (h : openerAfterBlank? text = some (before, parameters)) : before <+: text := by
  induction text generalizing before with
  | nil => contradiction
  | cons c rest ih =>
    rw [openerAfterBlank?_cons] at h
    split at h
    · obtain ⟨rfl, -⟩ := Prod.mk.inj (Option.some.inj h)
      exact List.nil_prefix
    · obtain ⟨⟨start, found⟩, hfound, heq⟩ := Option.map_eq_some_iff.mp h
      obtain ⟨rfl, rfl⟩ := Prod.mk.inj heq
      exact List.prefix_cons_inj c |>.mpr (ih hfound)

theorem prefix_of_blockOpener? {text before : List Char} {parameters : List String}
    (h : blockOpener? text = some (before, parameters)) : before <+: text := by
  unfold blockOpener? at h
  split at h
  · obtain ⟨rfl, -⟩ := Prod.mk.inj (Option.some.inj h)
    exact List.nil_prefix
  · exact prefix_of_openerAfterBlank? h

theorem bareStatement_sublist (text : List Char) : bareStatement text <+ text :=
  (dropEndWhile_sublist _ _).trans ((dropEndWhile_sublist _ _).trans (trim_sublist text))

theorem stripModifier_sublist (text : List Char) : stripModifier text <+ text := by
  unfold stripModifier
  split
  · exact (dropEndWhile_sublist _ _).trans (before_sublist _ _)
  · exact .refl text

theorem suffix_of_identifier? {text name rest : List Char}
    (h : identifier? text = some (name, rest)) : rest <:+ text := by
  cases text with
  | nil => contradiction
  | cons first text =>
    rw [identifier?] at h
    split at h
    · obtain ⟨-, rfl⟩ := Prod.mk.inj (Option.some.inj h)
      exact (List.dropWhile_suffix _).trans (List.suffix_cons first text)
    · contradiction

theorem suffix_of_methodName? {text name rest : List Char}
    (h : methodName? text = some (name, rest)) : rest <:+ text := by
  unfold methodName? at h
  split at h
  · next first name after hname =>
    have hafter := suffix_of_identifier? hname
    split at h
    · contradiction
    · split at h <;> obtain ⟨-, rfl⟩ := Prod.mk.inj (Option.some.inj h)
      · exact (List.suffix_cons _ _).trans hafter
      · exact (List.suffix_cons _ _).trans hafter
      · exact hafter
  · contradiction

theorem suffix_of_callHead? {text method rest : List Char} {receiver : Option (List Char)}
    (h : callHead? text = some (receiver, method, rest)) : rest <:+ text := by
  simp only [callHead?, Option.orElse_eq_orElse, Option.orElse_eq_or, Option.or_eq_some_iff] at h
  rcases h with hreceived | ⟨-, hplain⟩
  · split at hreceived
    · next name after hname =>
      obtain ⟨⟨found, more⟩, hmethod, heq⟩ := Option.map_eq_some_iff.mp hreceived
      obtain rfl : more = rest := by simp_all
      have hafter := suffix_of_identifier? hname
      exact (suffix_of_methodName? hmethod).trans ((List.suffix_cons _ _).trans hafter)
    · contradiction
  · obtain ⟨⟨found, more⟩, hmethod, heq⟩ := Option.map_eq_some_iff.mp hplain
    obtain rfl : more = rest := by simp_all
    exact suffix_of_methodName? hmethod

theorem argumentText?_sublist {rest arguments : List Char}
    (h : argumentText? rest = some arguments) : arguments <+ rest := by
  unfold argumentText? at h
  split at h
  · split at h
    · split at h
      · obtain rfl := Option.some.inj h
        exact (List.drop_sublist _ _).trans (before_sublist _ _)
      · contradiction
    · contradiction
  · split at h
    · obtain rfl := Option.some.inj h
      exact .refl _
    · contradiction

/-- The positional arguments of a call are read from parts of its text. -/
theorem exists_part_of_mem_positionals {text : List Char} {call : Call} {value : Value}
    (h : Call.parse? text = some call) (hvalue : value ∈ call.positionals) :
    ∃ part, part <+ text ∧ value = Value.parse part := by
  unfold Call.parse? at h
  split at h
  next body block hbody =>
  have hbodySublist : body <+ text := by
    split at hbody
    · next before parameters hopener =>
      obtain ⟨rfl, -⟩ := Prod.mk.inj hbody
      exact (dropEndWhile_sublist _ _).trans
        ((prefix_of_blockOpener? hopener).sublist.trans (bareStatement_sublist text))
    · obtain ⟨rfl, -⟩ := Prod.mk.inj hbody
      exact bareStatement_sublist text
  split at h
  · next receiver method rest hhead =>
    obtain ⟨arguments, harguments, rfl⟩ := Option.map_eq_some_iff.mp h
    obtain ⟨argument, hargument, hpositional⟩ := List.mem_filterMap.mp hvalue
    obtain ⟨part, hpart, rfl⟩ := List.mem_map.mp hargument
    refine ⟨part, ?_, ?_⟩
    · calc
        part <+ arguments := sublist_of_mem_splitOutside hpart
        _ <+ rest := argumentText?_sublist harguments
        _ <+ stripModifier body := (suffix_of_callHead? hhead).sublist
        _ <+ body := stripModifier_sublist body
        _ <+ text := hbodySublist
    · unfold Argument.parse at hpositional
      split at hpositional
      · contradiction
      · exact (Option.some.inj hpositional).symm
  · contradiction

theorem markCount_of_unquote? {text inner : List Char} (h : unquote? text = some inner) :
    markCount text = markCount inner + 2 := by
  cases text with
  | nil => contradiction
  | cons quote rest =>
    rw [unquote?] at h
    split at h
    · next hquotes =>
      obtain ⟨hquote, hlast, -⟩ := hquotes
      obtain rfl := Option.some.inj h
      have hmark : markCount [quote] = 1 := by
        rcases hquote with rfl | rfl <;> rfl
      obtain ⟨inner, rfl⟩ := List.getLast?_eq_some_iff.mp hlast
      rw [← List.singleton_append, markCount_append, markCount_append, List.dropLast_concat, hmark]
      omega
    · contradiction

theorem asName?_percentList? {text : List Char} {value : Value}
    (h : percentList? text = some value) : value.asName? = none := by
  unfold percentList? at h
  split at h
  · split at h
    · split at h
      · obtain ⟨items, -, rfl⟩ := Option.map_eq_some_iff.mp h
        rfl
      · contradiction
    · contradiction
  · contradiction

theorem exists_name_of_readName? {text : List Char} {value : Value}
    (h : readName? text = some value) : ∃ name, value.asName? = some name ∧
      (isIdentifier name.toList = true ∨ markCount name.toList + 2 ≤ markCount text) := by
  unfold readName? at h
  split at h
  · next symbol =>
    split at h
    · next inner hinner =>
      obtain rfl := Option.some.inj h
      have hmarks := markCount_of_unquote? hinner
      have hcolon := markCount_le (List.sublist_cons_self ':' symbol)
      refine ⟨_, rfl, .inr ?_⟩
      rw [String.toList_ofList]
      omega
    · split at h
      · next hidentifier =>
        obtain rfl := Option.some.inj h
        refine ⟨_, rfl, .inl ?_⟩
        rw [String.toList_ofList]
        exact hidentifier
      · contradiction
  · obtain ⟨inner, hinner, rfl⟩ := Option.map_eq_some_iff.mp h
    refine ⟨_, rfl, .inr ?_⟩
    rw [String.toList_ofList, markCount_of_unquote? hinner]

/-- A name is an identifier, or it was read from a text with two more quotes. -/
theorem isIdentifier_or_quoted {text : List Char} {name : String}
    (h : (Value.parse text).asName? = some name) :
    isIdentifier name.toList = true ∨ markCount name.toList + 2 ≤ markCount text := by
  have htrim := markCount_le (trim_sublist text)
  rw [Value.parse] at h
  split at h
  · next value hread =>
    obtain ⟨found, hfound, hcases⟩ := exists_name_of_readName? hread
    obtain rfl := Option.some.inj (hfound.symm.trans h)
    exact hcases.imp_right htrim.trans'
  · split at h
    · contradiction
    · split at h
      · next value hpercent =>
        rw [asName?_percentList? hpercent] at h
        contradiction
      · split at h
        · contradiction
        · split at h
          · contradiction
          · split at h
            · contradiction
            · split at h <;> contradiction

/-- A list is written with a bracket or with a percent sign. -/
theorem mem_of_parse_list {text : List Char} {items : List Value}
    (h : Value.parse text = .list items) : '[' ∈ text ∨ '%' ∈ text := by
  have hsubset := (trim_sublist text).subset
  rw [Value.parse] at h
  split at h
  · next value hread =>
    obtain ⟨name, hname, -⟩ := exists_name_of_readName? hread
    rw [h] at hname
    contradiction
  · split at h
    · next hlist =>
      have hhead := List.isPrefixOf_iff_prefix.mp hlist.1
      exact .inl (hsubset (hhead.mem List.mem_cons_self))
    · split at h
      · next value hpercent =>
        unfold percentList? at hpercent
        split at hpercent
        · next htext => exact .inr (hsubset (by simp [htext]))
        · contradiction
      · split at h
        · contradiction
        · split at h
          · contradiction
          · split at h
            · contradiction
            · split at h <;> contradiction

end Arguments

end ForeignKeyLint.Ruby
