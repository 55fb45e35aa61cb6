import ForeignKeyLint.Proofs.Ruby.CallText
import ForeignKeyLint.Proofs.Ruby.Quotation

/-!
Texts that begin with a method and a symbol, and go on in any way. Main statement: the first statement
of such a text begins in the same way and is a call of the method, whatever comments, here documents,
line breaks, semicolons, conditions or blocks follow.
-/

namespace ForeignKeyLint.Ruby

open Text

/-- A method, a space and the colon of a symbol. -/
def openingOf (word : List Char) : List Char :=
  word ++ [' ', ':']

section Prefix

variable {lead text : List Char}

/-- A visit comes after the lead, or its character stands in the lead. -/
theorem prefix_before_or {visit : Visit} (h : lead <+: text)
    (hvisit : visit.char :: visit.rest <:+ text) :
    lead <+: visit.before text ∨
      ∃ start more, lead = start ++ visit.char :: more ∧ more <+: visit.rest := by
  obtain ⟨start, rfl⟩ := hvisit
  rw [before_append]
  rcases List.prefix_or_prefix_of_prefix h (List.prefix_append start _) with hlead | hlead
  · exact .inl hlead
  · obtain ⟨more, rfl⟩ := hlead
    cases more with
    | nil =>
      rw [List.append_nil]
      exact .inl List.prefix_rfl
    | cons c more =>
      obtain ⟨rfl, hmore⟩ := List.cons_prefix_cons.mp ((List.prefix_append_right_inj start).mp h)
      exact .inr ⟨start, more, rfl, hmore⟩

theorem prefix_before {visit : Visit} (h : lead <+: text)
    (hvisit : visit.char :: visit.rest <:+ text) (hchar : visit.char ∉ lead) :
    lead <+: visit.before text := by
  rcases prefix_before_or h hvisit with hlead | ⟨start, more, rfl, -⟩
  · exact hlead
  · simp at hchar

theorem prefix_dropEndWhile {p : Char → Bool} (h : lead <+: text)
    (hlast : ∃ c ∈ lead.getLast?, p c = false) : lead <+: dropEndWhile p text := by
  obtain ⟨more, rfl⟩ := h
  rw [dropEndWhile, List.reverse_append, List.dropWhile_append]
  split
  · have hlead := dropEndWhile_eq_self hlast
    exact ⟨[], (List.append_nil lead).trans hlead.symm⟩
  · rw [List.reverse_append, List.reverse_reverse]
    exact List.prefix_append _ _

theorem prefix_trim (h : lead <+: text) (htrimmed : Trimmed lead) : lead <+: trim text := by
  have hstart : trimStart text = text := by
    obtain ⟨more, rfl⟩ := h
    obtain ⟨c, hc, hblank⟩ := htrimmed.head
    cases lead with
    | nil => simp at hc
    | cons first lead =>
      obtain rfl : first = c := by simpa using hc
      simp [trimStart, hblank]
  rw [trim, hstart]
  exact prefix_dropEndWhile h htrimmed.last

theorem prefix_codeOf {visits : List Visit} (h : lead <+: text) (hcomment : '#' ∉ lead)
    (hangle : '<' ∉ lead) (hvisits : ∀ visit ∈ visits, visit.char :: visit.rest <:+ text) :
    lead <+: codeOf text visits := by
  induction visits with
  | nil => exact h
  | cons visit visits ih =>
    have hvisit := hvisits visit List.mem_cons_self
    rw [codeOf]
    split
    · next hchar => exact prefix_before h hvisit (hchar ▸ hcomment)
    · split
      · next heredoc hheredoc =>
        have hchar := (heredoc?_eq_some hheredoc).1
        exact (prefix_before h hvisit (hchar ▸ hangle)).trans (List.prefix_append _ _)
      · exact ih fun other hother => hvisits other (List.mem_cons_of_mem _ hother)

theorem char_of_mem_separatorsFrom {separator : Char} {depth : Int} {visits : List Visit}
    {visit : Visit} (h : visit ∈ separatorsFrom separator depth visits) :
    visit.char = separator := by
  fun_induction separatorsFrom separator depth visits
  case case1 => simp at h
  case case2 hcut ih =>
    rcases List.mem_cons.mp h with rfl | h
    · exact hcut.1
    · exact ih h
  case case3 ih => exact ih h

theorem prefix_splitOutside {separator : Char} (h : lead <+: text) (htrimmed : Trimmed lead)
    (hseparator : separator ∉ lead) :
    ∃ first others, splitOutside separator text = first :: others ∧ lead <+: first := by
  have hkept {first : List Char} (hfirst : lead <+: first) : (!(trim first).isEmpty) = true := by
    have hne := (prefix_trim hfirst htrimmed).ne_nil htrimmed.ne_nil
    simpa using hne
  rw [splitOutside]
  cases hcuts : separatorsFrom separator 0 (code text) with
  | nil => exact ⟨trim text, [], by simp [segments, hkept h], prefix_trim h htrimmed⟩
  | cons cut cuts =>
    have hcut : cut ∈ separatorsFrom separator 0 (code text) := by simp [hcuts]
    have hvisit := suffix_of_mem_code (mem_of_mem_separatorsFrom hcut)
    have hfirst : lead <+: cut.before text :=
      prefix_before h hvisit (char_of_mem_separatorsFrom hcut ▸ hseparator)
    exact ⟨_, _, List.filter_cons_of_pos (hkept hfirst), prefix_trim hfirst htrimmed⟩

theorem prefix_add {draft : Draft} (h : lead <+: draft.text) (hne : lead ≠ []) (number : Nat)
    (code : List Char) : lead <+: (draft.add number code).text := by
  have hempty : draft.text.isEmpty = false := by
    simpa using h.ne_nil hne
  simp only [Draft.add, hempty]
  exact h.trans (List.prefix_append _ _)

theorem prefix_join {mode : Mode} {draft : Draft} (h : lead <+: draft.text) (hne : lead ≠ [])
    (lines : List Line) : lead <+: (join mode draft lines).draft.text := by
  fun_induction join mode draft lines
  case case1 | case2 | case4 | case7 => exact h
  case case3 ih | case5 ih | case6 ih => exact ih h
  case case8 | case10 => exact prefix_add h hne _ _
  case case9 ih => exact ih (prefix_add h hne _ _)

theorem prefix_lines {c : Char} (hfeed : '\n' ∉ c :: lead) (hreturn : '\r' ∉ c :: lead)
    (tail : List Char) :
    ∃ first others, lines (c :: (lead ++ tail)) = first :: others ∧ c :: lead <+: first := by
  have hcons {c : Char} {rest line : List Char} {others : List (List Char)} (hfeed : '\n' ≠ c)
      (hreturn : '\r' ≠ c) (hrest : lines rest = line :: others) :
      lines (c :: rest) = (c :: line) :: others := by
    rw [lines, hrest]
    · exact Ne.symm hfeed
    · exact fun _ heq => absurd heq.symm hreturn
  induction lead generalizing c with
  | nil =>
    simp only [List.mem_singleton] at hfeed hreturn
    cases hlines : lines tail with
    | nil =>
      refine ⟨[c], [], ?_, List.prefix_rfl⟩
      rw [List.nil_append, lines, hlines]
      · exact Ne.symm hfeed
      · exact fun _ heq => absurd heq.symm hreturn
    | cons line others =>
      exact ⟨c :: line, others, hcons hfeed hreturn hlines, List.prefix_append [c] line⟩
  | cons next lead ih =>
    obtain ⟨hc, hlater⟩ := not_or.mp (mt List.mem_cons.mpr hfeed)
    obtain ⟨hc', hlater'⟩ := not_or.mp (mt List.mem_cons.mpr hreturn)
    obtain ⟨line, others, hrest, hline⟩ := ih hlater hlater'
    exact ⟨c :: line, others, hcons hc hc' hrest, (List.prefix_cons_inj c).mpr hline⟩

end Prefix

section Statement

variable {word text : List Char}

theorem not_mem_opening (hword : isName word = true) {c : Char} (hc : isWordChar c = false)
    (hspace : c ≠ ' ') (hcolon : c ≠ ':') : c ∉ openingOf word := by
  intro hmem
  simp only [openingOf, List.mem_append, List.mem_cons, List.not_mem_nil, or_false] at hmem
  rcases hmem with hmem | hmem | hmem
  · rw [isWordChar_of_mem_name hword c hmem] at hc
    contradiction
  · exact hspace hmem
  · exact hcolon hmem

theorem trimmed_opening (hword : isName word = true) : Trimmed (openingOf word) := by
  refine ⟨?_, ':', by simp [openingOf], rfl⟩
  cases word with
  | nil => simp [isName] at hword
  | cons c word =>
    have hc := isWordChar_of_mem_name hword c List.mem_cons_self
    exact ⟨c, rfl, isBlank_eq_false_of_isWordChar hc⟩

/-- A line with this opening is code with this opening. -/
theorem read_opening (hword : isName word = true) (h : openingOf word <+: text) :
    ∃ next code, Mode.read {} text = .code next code ∧ openingOf word <+: code := by
  have htrimmed := trimmed_opening hword
  have hcomment : beginsWith "=begin".toList text = false := by
    rw [beginsWith, Bool.eq_false_iff]
    intro hbegins
    have hequals : ['='] <+: text :=
      List.IsPrefix.trans ⟨"begin".toList, rfl⟩ (List.isPrefixOf_iff_prefix.mp hbegins)
    have hhead := not_mem_opening hword (c := '=') rfl (by decide) (by decide)
    rcases List.prefix_or_prefix_of_prefix hequals h with hlead | hlead
    · exact hhead (hlead.mem List.mem_cons_self)
    · have hlength := hlead.length_le
      simp [openingOf] at hlength
  have hend : trim text ≠ "__END__".toList := by
    intro heq
    have hlead := prefix_trim h htrimmed
    rw [heq] at hlead
    have hcolon : ':' ∈ "__END__".toList := hlead.mem (by simp [openingOf])
    simp at hcolon
  have hcode : openingOf word <+: (stripLine text).1 := by
    apply prefix_codeOf h
    · exact not_mem_opening hword rfl (by decide) (by decide)
    · exact not_mem_opening hword rfl (by decide) (by decide)
    · exact fun visit hvisit => suffix_of_mem_walkFrom hvisit
  refine ⟨{ heredocs := (stripLine text).2 }, trim (stripLine text).1, ?_, prefix_trim hcode htrimmed⟩
  simp only [Mode.read, hcomment, hend]
  rfl

theorem prefix_next (hword : isName word = true) {line : Line} (h : openingOf word <+: line.text)
    (rest : List Line) : openingOf word <+: (Reader.next { lines := line :: rest }).draft.text := by
  have htrimmed := trimmed_opening hword
  obtain ⟨next, code, hread, hcode⟩ := read_opening hword h
  have hadd : openingOf word <+: (({} : Draft).add line.number code).text := by
    apply prefix_dropEndWhile (prefix_dropEndWhile hcode ⟨':', by simp [openingOf], rfl⟩)
    exact htrimmed.last
  cases code with
  | nil => exact absurd (List.prefix_nil.mp hcode) htrimmed.ne_nil
  | cons c code =>
    have hnext : Reader.next { lines := line :: rest } = join {} {} (line :: rest) := rfl
    rw [hnext, join]
    simp only [hread, List.isEmpty_nil, Bool.not_true, Bool.false_and, Bool.false_eq_true, if_false]
    split
    · exact hadd
    · split
      · exact prefix_join hadd htrimmed.ne_nil rest
      · exact hadd

/-- The first statement of a text with this opening has the opening, and no more marks. -/
theorem exists_first_statement (hword : isName word = true) (h : openingOf word <+: text) :
    ∃ first others, statements text = first :: others ∧ openingOf word <+: first.text ∧
      markCount first.text ≤ markCount text := by
  have htrimmed := trimmed_opening hword
  obtain ⟨line, rest, hlines, hline⟩ : ∃ line rest, lines text = line :: rest ∧
      openingOf word <+: line := by
    obtain ⟨tail, rfl⟩ := h
    have hfeed := not_mem_opening hword (c := '\n') rfl (by decide) (by decide)
    have hreturn := not_mem_opening hword (c := '\r') rfl (by decide) (by decide)
    cases hopening : openingOf word with
    | nil => exact absurd hopening htrimmed.ne_nil
    | cons c lead =>
      rw [hopening] at hfeed hreturn
      exact prefix_lines hfeed hreturn tail
  let reader : Reader := { lines := { number := 1, text := line } :: numberLines 2 rest }
  have hnext : openingOf word <+: reader.next.draft.text := prefix_next hword hline _
  have hmarks : markCount reader.next.draft.text ≤ markCount text := by
    have hmarks := markCount_next_le text
    rw [hlines] at hmarks
    exact hmarks
  have hsemicolon := not_mem_opening hword (c := ';') rfl (by decide) (by decide)
  obtain ⟨first, others, hsplit, hfirst⟩ := prefix_splitOutside hnext htrimmed hsemicolon
  have hpart := sublist_of_mem_splitOutside (hsplit ▸ List.mem_cons_self)
  have hne : reader.next.draft.text ≠ [] := hnext.ne_nil htrimmed.ne_nil
  have hstatements : statements text = reader.next.statements ++ reader.next.reader.statements := by
    rw [statements, hlines, numberLines, Reader.statements, dif_neg hne]
  rw [hstatements, Joined.statements, hsplit]
  exact ⟨_, _, rfl, hfirst, (markCount_le hpart).trans hmarks⟩

end Statement

section Call

variable {word text : List Char}

theorem eq_colon_of_opening (hword : isName word = true) {before after : List Char} {c : Char}
    (h : openingOf word = before ++ c :: after) (hblank : isBlank c = true) : after = [':'] := by
  rcases List.append_eq_append_iff.mp h with ⟨more, rfl, hrest⟩ | ⟨more, rfl, hrest⟩
  · match more with
    | [] => exact (List.cons.inj hrest).2.symm
    | [_] =>
      obtain ⟨-, hcolon⟩ := List.cons.inj hrest
      obtain ⟨rfl, -⟩ := List.cons.inj hcolon
      contradiction
    | _ :: _ :: _ => simp at hrest
  · cases more with
    | nil => exact (List.cons.inj hrest).2
    | cons d more =>
      obtain ⟨rfl, -⟩ := List.cons.inj hrest
      have hd := isWordChar_of_mem_name hword c (by simp)
      rw [isBlank_eq_false_of_isWordChar hd] at hblank
      contradiction

/-- A block that opens in such a text opens after the symbol has begun. -/
theorem blockOpener?_opening (hword : isName word = true) (tail : List Char)
    (hstart : openerAt? (openingOf word ++ tail) = none) :
    blockOpener? (openingOf word ++ tail) = (openerAfterBlank? tail).map fun (before, parameters) =>
      (openingOf word ++ before, parameters) := by
  rw [blockOpener?, hstart]
  apply openerAfterBlank?_append
  intro before c after heq hblank
  rw [eq_colon_of_opening hword heq hblank]
  rfl

theorem of_modifierFrom? {depth : Int} {visits : List Visit} {visit : Visit}
    (h : modifierFrom? depth visits = some visit) :
    visit ∈ visits ∧ visit.char = ' ' ∧
      (beginsWith "if ".toList visit.rest || beginsWith "unless ".toList visit.rest) = true := by
  induction visits generalizing depth with
  | nil => contradiction
  | cons first visits ih =>
    rw [modifierFrom?] at h
    split at h
    · next hmodifier =>
      obtain rfl := Option.some.inj h
      exact ⟨List.mem_cons_self, hmodifier.1, hmodifier.2.2⟩
    · obtain ⟨hmem, hrest⟩ := ih h
      exact ⟨List.mem_cons_of_mem _ hmem, hrest⟩

theorem prefix_stripModifier (hword : isName word = true) (h : openingOf word <+: text) :
    openingOf word <+: stripModifier text := by
  unfold stripModifier
  split
  · next visit hvisit =>
    obtain ⟨hmem, hspace, hmodifier⟩ := of_modifierFrom? hvisit
    apply prefix_dropEndWhile _ (trimmed_opening hword).last
    rcases prefix_before_or h (suffix_of_mem_code hmem) with hlead | ⟨start, more, heq, hmore⟩
    · exact hlead
    · -- The space before the symbol is followed by its colon and by no condition.
      rw [hspace] at heq
      obtain rfl := eq_colon_of_opening hword heq rfl
      obtain ⟨rest, hrest⟩ := hmore
      rw [← hrest] at hmodifier
      contradiction
  · exact h

theorem prefix_bareStatement (hword : isName word = true) (h : openingOf word <+: text) :
    openingOf word <+: bareStatement text := by
  have htrimmed := trimmed_opening hword
  apply prefix_dropEndWhile _ htrimmed.last
  exact prefix_dropEndWhile (prefix_trim h htrimmed) ⟨':', by simp [openingOf], rfl⟩

/-- A statement with this opening is a call of the method. -/
theorem exists_parse?_opening (hword : isName word = true)
    (hlower : word.head?.all (!·.isUpper) = true) (h : openingOf word <+: text) :
    ∃ call, Call.parse? text = some call ∧ call.receiver = none ∧
      call.method = String.ofList word := by
  let plain : Call := { receiver := none, method := String.ofList word, arguments := [], block := none }
  have hhead : plain.headText = word := String.toList_ofList
  have hplain : plain.Printable := by
    refine ⟨by simp [plain], ⟨word, [], ?_, hword, hlower, List.mem_cons_self⟩, by simp [plain]⟩
    rw [List.append_nil]
    exact hhead
  have hspace (rest : List Char) : EndsName (' ' :: rest) := fun c hc => .inl (by simpa using hc.symm)
  obtain ⟨tail, htail⟩ := prefix_bareStatement hword h
  have hstart : openerAt? (openingOf word ++ tail) = none := by
    have hopener := hplain.openerAt?_headText (hspace (':' :: tail)) fun _ _ =>
      (blockParameters?_space_cons _).trans (blockParameters?_eq_none rfl (by decide) _)
    rw [hhead] at hopener
    rw [openingOf, List.append_assoc]
    exact hopener
  have hread (body : List Char) (hbody : openingOf word <+: body) : ∃ rest,
      callHead? (stripModifier body) = some (none, word, ' ' :: rest) := by
    obtain ⟨rest, hrest⟩ := prefix_stripModifier hword hbody
    have hcall := hplain.callHead?_append (hspace (':' :: rest))
    have hmethod : plain.method.toList = word := hhead
    rw [hhead, hmethod] at hcall
    refine ⟨':' :: rest, ?_⟩
    rw [← hrest, openingOf, List.append_assoc]
    exact hcall
  rw [Call.parse?, ← htail, blockOpener?_opening hword tail hstart]
  cases openerAfterBlank? tail with
  | none =>
    obtain ⟨rest, hrest⟩ := hread (openingOf word ++ tail) (List.prefix_append _ _)
    simp only [Option.map_none, hrest]
    exact ⟨_, rfl, rfl, rfl⟩
  | some found =>
    obtain ⟨before, parameters⟩ := found
    obtain ⟨rest, hrest⟩ := hread (trimEnd (openingOf word ++ before))
      (prefix_dropEndWhile (List.prefix_append _ _) (trimmed_opening hword).last)
    simp only [Option.map_some, hrest]
    exact ⟨_, rfl, rfl, rfl⟩

end Call

end ForeignKeyLint.Ruby
