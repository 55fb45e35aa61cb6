import ForeignKeyLint.Proofs.Ruby.BlockOpener
import ForeignKeyLint.Ruby.Keyword

/-!
Printed calls: a receiver and a dot if there is one, the method, the arguments after a space or
between parentheses, and the opener of a block. Main statement: in both forms a call is read back as
itself, whatever its strings hold and however deep its values are nested. The one call that has to be
left out is the word `do` alone, which opens a block.
-/

namespace ForeignKeyLint.Ruby

open Text

/-- A name that starts with no capital, and perhaps a mark of exclamation or question. -/
def IsMethodName (text : List Char) : Prop :=
  ∃ name mark, text = name ++ mark ∧ isName name = true ∧
    name.head?.all (!·.isUpper) = true ∧ mark ∈ [[], ['!'], ['?']]

theorem span_name {name rest : List Char} (hname : ∀ c ∈ name, isWordChar c = true)
    (hrest : ∀ c ∈ rest.head?, isWordChar c = false) :
    (name ++ rest).takeWhile isWordChar = name ∧ (name ++ rest).dropWhile isWordChar = rest := by
  induction name with
  | nil =>
    cases rest with
    | nil => exact ⟨rfl, rfl⟩
    | cons c rest => simp [hrest c rfl]
  | cons c name ih =>
    have hc := hname c List.mem_cons_self
    obtain ⟨htake, hdrop⟩ := ih fun other hother => hname other (List.mem_cons_of_mem _ hother)
    simp [hc, htake, hdrop]

theorem span_name_cons {name : List Char} (hname : ∀ c ∈ name, isWordChar c = true) {c : Char}
    (hc : isWordChar c = false) (rest : List Char) :
    (name ++ c :: rest).takeWhile isWordChar = name ∧
      (name ++ c :: rest).dropWhile isWordChar = c :: rest := by
  apply span_name hname
  intro d hd
  obtain rfl : c = d := by simpa using hd
  exact hc

theorem identifier?_name {name rest : List Char} (hname : isName name = true)
    (hrest : ∀ c ∈ rest.head?, isWordChar c = false) :
    identifier? (name ++ rest) = some (name, rest) := by
  cases name with
  | nil => simp [isName] at hname
  | cons first name =>
    simp only [isName, Bool.and_eq_true, Bool.or_eq_true, beq_iff_eq, List.all_eq_true] at hname
    obtain ⟨htake, hdrop⟩ := span_name hname.2 hrest
    rw [List.cons_append, identifier?, if_pos hname.1, htake, hdrop]

/-- What may follow a method name in a printed call. -/
def EndsName (text : List Char) : Prop :=
  ∀ c ∈ text.head?, c = ' ' ∨ c = '('

theorem EndsName.append_blockText {text : List Char} (h : EndsName text)
    (block : Option (List String)) : EndsName (text ++ blockText block) := by
  intro c hc
  cases text with
  | nil =>
    rcases block with _ | _ | ⟨first, others⟩
    · simp [blockText] at hc
    · exact .inl (by simpa [blockText] using hc.symm)
    · exact .inl (by simpa [blockText] using hc.symm)
  | cons first text => exact h c hc

/-- Neither a letter nor a dot stands after the name in a method name. -/
theorem identifier?_method {method rest : List Char} (hmethod : IsMethodName method)
    (hrest : EndsName rest) : ∃ first name mark, method = first :: name ++ mark ∧
      first.isUpper = false ∧ mark ∈ [[], ['!'], ['?']] ∧
      (∀ c ∈ (mark ++ rest).head?, c ∈ ['!', '?', ' ', '(']) ∧
      identifier? (method ++ rest) = some (first :: name, mark ++ rest) := by
  obtain ⟨name, mark, rfl, hname, hfirst, hmark⟩ := hmethod
  have hend : ∀ c ∈ (mark ++ rest).head?, c ∈ ['!', '?', ' ', '('] := by
    intro c hc
    simp only [List.mem_cons, List.not_mem_nil, or_false] at hmark
    rcases hmark with rfl | rfl | rfl
    · rcases hrest c hc with rfl | rfl <;> decide
    · obtain rfl : '!' = c := by simpa using hc
      decide
    · obtain rfl : '?' = c := by simpa using hc
      decide
  have hword : ∀ c ∈ ['!', '?', ' ', '('], isWordChar c = false := by
    intro c hc
    simp only [List.mem_cons, List.not_mem_nil, or_false] at hc
    rcases hc with rfl | rfl | rfl | rfl <;> rfl
  cases name with
  | nil => simp [isName] at hname
  | cons first name =>
    refine ⟨first, name, mark, rfl, by simpa using hfirst, hmark, hend, ?_⟩
    rw [List.append_assoc]
    exact identifier?_name hname fun c hc => hword c (hend c hc)

theorem methodName?_append {method rest : List Char} (hmethod : IsMethodName method)
    (hrest : EndsName rest) : methodName? (method ++ rest) = some (method, rest) := by
  obtain ⟨first, name, mark, rfl, hfirst, hmark, -, hidentifier⟩ := identifier?_method hmethod hrest
  rw [methodName?, hidentifier]
  simp only [hfirst, Bool.false_eq_true, if_false]
  simp only [List.mem_cons, List.not_mem_nil, or_false] at hmark
  rcases hmark with rfl | rfl | rfl
  · cases rest with
    | nil => simp
    | cons c rest => rcases hrest c rfl with rfl | rfl <;> simp
  · rfl
  · rfl

namespace Call

/-- The receiver and the method. -/
def headText (call : Call) : List Char :=
  match call.receiver with
  | none => call.method.toList
  | some receiver => receiver.toList ++ '.' :: call.method.toList

/-- The arguments with the space before them. -/
def tailPieces (call : Call) : List Piece :=
  match call.arguments with
  | [] => []
  | arguments => .char ' ' :: commaJoin (arguments.map Argument.pieces)

/-- The call up to its block. -/
def pieces (call : Call) : List Piece :=
  ofText call.headText ++ call.tailPieces

/-- What can be read back: names are names, and so are all values of the arguments. -/
structure Printable (call : Call) : Prop where
  receiver : ∀ receiver ∈ call.receiver, isName receiver.toList = true
  method : IsMethodName call.method.toList
  arguments : ∀ argument ∈ call.arguments, argument.Printable

variable {call : Call}

theorem head_tailPieces (call : Call) : ∀ c ∈ (textOf call.tailPieces).head?, c = ' ' := by
  intro c hc
  unfold tailPieces at hc
  split at hc
  · simp at hc
  · simpa [Piece.text] using hc.symm

theorem Printable.callHead?_append (h : call.Printable) {rest : List Char} (hend : EndsName rest) :
    callHead? (call.headText ++ rest) =
      some (call.receiver.map String.toList, call.method.toList, rest) := by
  have hmethod := methodName?_append h.method hend
  rw [headText]
  cases hreceiver : call.receiver with
  | none =>
    obtain ⟨first, name, mark, -, -, -, hafter, hidentifier⟩ := identifier?_method h.method hend
    dsimp only
    rw [callHead?, hidentifier, hmethod]
    dsimp only
    split
    · next heq =>
      have hdot := hafter '.' (by simp [(Prod.mk.inj (Option.some.inj heq)).2])
      simp at hdot
    · rfl
  | some receiver =>
    have hdot : ∀ c ∈ ('.' :: (call.method.toList ++ rest)).head?, isWordChar c = false := by
      intro c hc
      obtain rfl : '.' = c := by simpa using hc
      rfl
    have hidentifier := identifier?_name (h.receiver receiver hreceiver) hdot
    dsimp only
    rw [List.append_assoc, List.cons_append, callHead?, hidentifier]
    simp [hmethod]

theorem Printable.elements (h : call.Printable) :
    ∀ span ∈ call.arguments.map Argument.pieces, Element span := by
  intro span hspan
  obtain ⟨argument, hargument, rfl⟩ := List.mem_map.mp hspan
  exact (h.arguments argument hargument).element

/-- The arguments are told apart by the commas between them, and each is read back. -/
theorem Printable.arguments_commaJoin (h : call.Printable) (count : Nat) :
    (splitOutside ',' (List.replicate count ' ' ++
      textOf (commaJoin (call.arguments.map Argument.pieces)))).map Argument.parse =
        call.arguments := by
  rw [Element.split_commaJoin count h.elements, List.map_map, List.map_map]
  refine (List.map_congr_left fun argument hargument => ?_).trans (List.map_id _)
  exact (h.arguments argument hargument).parse_pieces

theorem Printable.arguments_tailPieces (h : call.Printable) :
    (splitOutside ',' (textOf call.tailPieces)).map Argument.parse = call.arguments := by
  have hback := h.arguments_commaJoin
  unfold tailPieces
  split
  · next hnone =>
    rw [hnone] at hback ⊢
    exact hback 0
  · exact hback 1

theorem argumentText?_of_space {text : List Char} (h : ∀ c ∈ text.head?, c = ' ') :
    argumentText? text = some text := by
  cases text with
  | nil => rfl
  | cons c text =>
    obtain rfl : c = ' ' := h c rfl
    rfl

theorem modifierFrom?_eq_none {visits : List Visit} {depth : Int}
    (h : ∀ visit ∈ visits, visit.char = ' ' → StartsOperand visit.rest) :
    modifierFrom? depth visits = none := by
  induction visits generalizing depth with
  | nil => rfl
  | cons visit visits ih =>
    have hrest := @ih (depth + bracketStep visit.char) fun other hother =>
      h other (List.mem_cons_of_mem _ hother)
    rw [modifierFrom?, if_neg, hrest]
    rintro ⟨hspace, -, hmodifier⟩
    have hoperand := h visit List.mem_cons_self hspace
    rw [hoperand.not_if, hoperand.not_unless] at hmodifier
    exact Bool.false_ne_true hmodifier

/-- A text whose spaces all stand before operands ends in no condition. -/
theorem stripModifier_textOf {pieces : List Piece} (hregular : ∀ piece ∈ pieces, piece.Regular)
    (hsteady : Steady pieces) : stripModifier (textOf pieces) = textOf pieces := by
  have hnone : modifierFrom? 0 (code (textOf pieces)) = none := by
    apply modifierFrom?_eq_none
    intro visit hvisit hspace
    rw [code_textOf pieces hregular] at hvisit
    obtain ⟨before, after, hpieces, hrest⟩ := mem_of_mem_visitsOf hvisit
    rw [hspace] at hpieces
    rw [hrest, ← List.append_nil (textOf after)]
    exact hsteady before after [] hpieces
  rw [stripModifier, hnone]

theorem tokens_of_isMethodName {method : List Char} (h : IsMethodName method) :
    (∀ c ∈ method, isTokenChar c = true) ∧ ∃ c ∈ method.getLast?, isClosing c = true := by
  obtain ⟨name, mark, rfl, hname, -, hmark⟩ := h
  have hchars : ∀ c ∈ name, isTokenChar c = true := fun c hc =>
    isTokenChar_of_isWordChar (isWordChar_of_mem_name hname c hc)
  simp only [List.mem_cons, List.not_mem_nil, or_false] at hmark
  rcases hmark with rfl | rfl | rfl
  · rw [List.append_nil]
    exact ⟨hchars, getLast?_of_isIdentifier (isIdentifier_of_isName hname)⟩
  · refine ⟨List.forall_mem_append.mpr ⟨hchars, ?_⟩, '!', by simp, rfl⟩
    exact List.forall_mem_singleton.mpr rfl
  · refine ⟨List.forall_mem_append.mpr ⟨hchars, ?_⟩, '?', by simp, rfl⟩
    exact List.forall_mem_singleton.mpr rfl

theorem Printable.isTokenChar_of_mem_headText (h : call.Printable) :
    ∀ c ∈ call.headText, isTokenChar c = true := by
  have hmethod := (tokens_of_isMethodName h.method).1
  unfold headText
  split
  · exact hmethod
  · next receiver hreceiver =>
    have hname := isWordChar_of_mem_name (h.receiver receiver hreceiver)
    intro c hc
    rcases List.mem_append.mp hc with hc | hc
    · exact isTokenChar_of_isWordChar (hname c hc)
    · rcases List.mem_cons.mp hc with rfl | hc
      · rfl
      · exact hmethod c hc

theorem Printable.phrase_headText (h : call.Printable) : Phrase (ofText call.headText) := by
  obtain ⟨-, c, hc, hclosing⟩ := tokens_of_isMethodName h.method
  refine .ofText h.isTokenChar_of_mem_headText ⟨c, ?_, hclosing⟩
  unfold headText
  split
  · exact hc
  · have hne : call.method.toList ≠ [] := by
      intro hnil
      simp [hnil] at hc
    rw [List.append_cons, List.getLast?_append_of_ne_nil _ hne]
    exact hc

theorem eq_of_headText_eq_do (h : call.headText = "do".toList) :
    call.receiver = none ∧ call.method = "do" := by
  cases hreceiver : call.receiver with
  | none =>
    rw [headText, hreceiver] at h
    exact ⟨rfl, String.toList_inj.mp h⟩
  | some receiver =>
    have hdot : '.' ∈ call.headText := by simp [headText, hreceiver]
    rw [h] at hdot
    simp at hdot

theorem Printable.phrase (h : call.Printable) : Phrase call.pieces := by
  have hhead := h.phrase_headText
  have helements := h.elements
  rw [pieces, tailPieces]
  cases harguments : call.arguments with
  | nil => simpa using hhead
  | cons argument arguments =>
    rw [harguments] at helements
    have hfirst := helements _ List.mem_cons_self
    exact hhead.spaced [] (by simp) (Element.phrase_commaJoin helements) hfirst.starts_commaJoin

/-- What the parts of the reader give when they are put together. -/
theorem Printable.parse?_eq (h : call.Printable) {span : List Piece} (hbody : Body span)
    {rest arguments : List Char} (hspan : textOf span = call.headText ++ rest)
    (hend : EndsName rest)
    (hblock : ∀ parameters ∈ call.block, ∀ name ∈ parameters, isIdentifier name.toList = true)
    (hstart : openerAt? (textOf span ++ blockText call.block) = none)
    (harguments : argumentText? rest = some arguments)
    (hparsed : (splitOutside ',' arguments).map Argument.parse = call.arguments) :
    Call.parse? (textOf span ++ blockText call.block) = some call := by
  have hopener := hbody.blockOpener?_blockText hblock hstart
  have hbare := hbody.bareStatement_blockText call.block
  have hmodifier := stripModifier_textOf hbody.regular hbody.steady
  have hhead := h.callHead?_append hend
  have hreceiver : (call.receiver.map String.toList).map String.ofList = call.receiver := by
    rw [Option.map_map]
    cases call.receiver <;> simp
  have hmethod : String.ofList call.method.toList = call.method := String.ofList_toList
  obtain ⟨c, hc, hblank, -⟩ := hbody.last
  have htrim : trimEnd (textOf span) = textOf span := dropEndWhile_eq_self ⟨c, hc, hblank⟩
  rw [hspan] at hmodifier htrim
  -- The opener is cut off, if there is one, and what is left is the body.
  rw [Call.parse?, hbare, hopener]
  cases hcase : call.block with
  | none =>
    simp only [Option.map_none, blockText, List.append_nil, hmodifier, hspan, hhead, harguments,
      Option.map_some, hparsed, hreceiver, hmethod]
    rw [← hcase]
  | some parameters =>
    simp only [Option.map_some, htrim, hmodifier, hspan, hhead, harguments, hparsed, hreceiver,
      hmethod]
    rw [← hcase]

/-- The head does not open a block, unless it is `do` and what follows completes the opener. -/
theorem Printable.openerAt?_headText (h : call.Printable) {rest : List Char} (hend : EndsName rest)
    (hrest : call.receiver = none → call.method = "do" → blockParameters? rest = none) :
    openerAt? (call.headText ++ rest) = none := by
  have hchars : ∀ c ∈ call.headText, isTokenChar c = true := h.isTokenChar_of_mem_headText
  unfold openerAt?
  split
  · next after heq =>
    match hhead : call.headText with
    | [] =>
      rw [hhead] at heq
      simpa using hend 'd' (by rw [List.nil_append] at heq; rw [heq]; rfl)
    | [_] =>
      rw [hhead] at heq
      have hletter : rest = 'o' :: after := (List.cons.inj heq).2
      simpa using hend 'o' (by rw [hletter]; rfl)
    | [first, second] =>
      rw [hhead] at heq
      obtain ⟨rfl, htail⟩ := List.cons.inj heq
      obtain ⟨rfl, rfl⟩ := List.cons.inj htail
      obtain ⟨hreceiver, hmethod⟩ := eq_of_headText_eq_do hhead
      exact hrest hreceiver hmethod
    | first :: second :: third :: more =>
      rw [hhead] at heq hchars
      obtain rfl : third :: (more ++ rest) = after := (List.cons.inj (List.cons.inj heq).2).2
      have hthird := hchars third (by simp)
      obtain ⟨-, -, hblank, -⟩ := facts_of_isTokenChar hthird
      exact blockParameters?_eq_none hblank (ne_of_test hthird rfl) _
  · rfl

/-- After the word `do` neither arguments nor another block complete an opener. -/
theorem Printable.blockParameters?_tail (h : call.Printable)
    (hmore : call.arguments ≠ [] ∨ call.block ≠ none) :
    blockParameters? (textOf call.tailPieces ++ blockText call.block) = none := by
  have helements := h.elements
  rw [tailPieces]
  cases harguments : call.arguments with
  | nil =>
    obtain ⟨parameters, hblock⟩ :=
      Option.ne_none_iff_exists'.mp (hmore.resolve_left fun hne => hne harguments)
    obtain ⟨rest, hrest⟩ : ∃ rest, blockText call.block = ' ' :: 'd' :: rest := by
      rw [hblock]
      cases parameters with
      | nil => exact ⟨_, rfl⟩
      | cons first others => exact ⟨_, rfl⟩
    rw [hrest]
    exact (blockParameters?_space_cons _).trans (blockParameters?_eq_none rfl (by decide) _)
  | cons argument arguments =>
    rw [harguments] at helements
    obtain ⟨c, rest, htext, hblank, hbar⟩ :=
      (Element.phrase_commaJoin helements).exists_head
    have htail : textOf (.char ' ' :: commaJoin ((argument :: arguments).map Argument.pieces)) =
        ' ' :: c :: rest := congrArg (' ' :: ·) htext
    dsimp only
    rw [htail]
    exact (blockParameters?_space_cons _).trans (blockParameters?_eq_none hblank hbar _)

/-- A call whose arguments follow its method after a space is read back. -/
theorem Printable.parse?_spaced (h : call.Printable)
    (hblock : ∀ parameters ∈ call.block, ∀ name ∈ parameters, isIdentifier name.toList = true)
    (hdo : call.receiver = none → call.method = "do" → call.arguments ≠ [] ∨ call.block ≠ none) :
    Call.parse? (textOf call.pieces ++ blockText call.block) = some call := by
  have hspan : textOf call.pieces = call.headText ++ textOf call.tailPieces := by simp [pieces]
  have hspace := head_tailPieces call
  have hend : EndsName (textOf call.tailPieces) := fun c hc => .inl (hspace c hc)
  have hstart : openerAt? (textOf call.pieces ++ blockText call.block) = none := by
    rw [hspan, List.append_assoc]
    apply h.openerAt?_headText (hend.append_blockText call.block)
    intro hreceiver hmethod
    exact h.blockParameters?_tail (hdo hreceiver hmethod)
  exact h.parse?_eq h.phrase.body hspan hend hblock hstart (argumentText?_of_space hspace)
    h.arguments_tailPieces

section Parenthesized

/-- The parenthesis after a span that closes what it opens is the one that ends the arguments. -/
theorem closingFrom?_visitsOf {inner : List Piece} (rest : List Piece) {depth : Int}
    (hopen : ∀ before after, inner = before ++ after → 1 ≤ depth + depthOf before)
    (hlevel : depth + depthOf inner = 1) (offset : Nat) :
    ∃ place, closingFrom? depth (visitsOf offset (inner ++ .char ')' :: rest)) =
      some { offset := place, char := ')', rest := textOf rest } := by
  induction inner generalizing depth offset with
  | nil =>
    obtain rfl : depth = 1 := by simpa using hlevel
    exact ⟨offset, rfl⟩
  | cons piece inner ih =>
    have hhere := hopen [piece] inner rfl
    simp only [depthOf_cons, depthOf_nil, Int.add_zero] at hhere hlevel
    have hlater : ∀ before after, inner = before ++ after →
        1 ≤ depth + piece.step + depthOf before := by
      intro before after heq
      have hmore := hopen (piece :: before) after (congrArg (piece :: ·) heq)
      rw [depthOf_cons] at hmore
      omega
    have hrest := @ih (depth + piece.step) hlater (by omega)
    cases piece with
    | char c =>
      obtain ⟨place, hplace⟩ := hrest (offset + c.utf8Size)
      refine ⟨place, ?_⟩
      have hnot : ¬(bracketStep c = -1 ∧ depth = 1) := by
        rintro ⟨hstep, rfl⟩
        rw [Piece.step, hstep] at hhere
        omega
      rw [List.cons_append, visitsOf, closingFrom?]
      dsimp only
      rw [if_neg hnot]
      exact hplace
    | quoted content =>
      obtain ⟨place, hplace⟩ := hrest (offset + '"'.utf8Size + byteLength (content ++ ['"']))
      refine ⟨place, ?_⟩
      rw [Piece.step, Int.add_zero] at hplace
      exact hplace

theorem argumentText?_parenthesized {inner : List Piece}
    (hregular : ∀ piece ∈ inner, piece.Regular) (hnested : Nested inner)
    (hlevel : depthOf inner = 0) :
    argumentText? ('(' :: textOf inner ++ [')']) = some (textOf inner) := by
  have htext : '(' :: textOf inner ++ [')'] = textOf (.char '(' :: inner ++ [.char ')']) :=
    (textOf_enclosed '(' ')' inner).symm
  have hpieces : ∀ piece ∈ .char '(' :: inner ++ [.char ')'], piece.Regular := by
    intro piece hpiece
    simp only [List.mem_append, List.mem_cons, List.not_mem_nil, or_false] at hpiece
    rcases hpiece with (rfl | hpiece) | rfl
    · simp [Piece.Regular]
    · exact hregular piece hpiece
    · simp [Piece.Regular]
  have hopen : ∀ before after, inner = before ++ after → 1 ≤ 1 + depthOf before := by
    intro before after heq
    have hbefore := hnested before after heq
    omega
  obtain ⟨place, hplace⟩ := closingFrom?_visitsOf [] hopen (by omega) (0 + '('.utf8Size)
  have hclosing : closingFrom? 0 (code ('(' :: textOf inner ++ [')'])) =
      some { offset := place, char := ')', rest := [] } := by
    rw [htext, code_textOf _ hpieces]
    exact hplace
  have hbefore : (Visit.before { offset := place, char := ')', rest := [] }
      ('(' :: textOf inner ++ [')'])).drop 1 = textOf inner := by
    simp [Visit.before]
  rw [List.cons_append] at hclosing hbefore ⊢
  rw [argumentText?, hclosing]
  dsimp only
  rw [hbefore]
  rfl

/-- The call up to its block, with its arguments between parentheses. -/
def parenthesizedPieces (call : Call) : List Piece :=
  ofText call.headText ++
    (.char '(' :: commaJoin (call.arguments.map Argument.pieces) ++ [.char ')'])

theorem textOf_parenthesizedPieces (call : Call) :
    textOf call.parenthesizedPieces = call.headText ++
      ('(' :: textOf (commaJoin (call.arguments.map Argument.pieces)) ++ [')']) := by
  rw [parenthesizedPieces, textOf_append, textOf_ofText, textOf_enclosed]

theorem Printable.body_parenthesizedPieces (h : call.Printable) :
    Body call.parenthesizedPieces := by
  have hhead := h.phrase_headText
  obtain ⟨hplain, -, -, hsteady⟩ := Element.facts_commaJoin h.elements
  have hopening : Steady [.char '('] := .of_not_mem (by decide)
  have hclosing : Steady [.char ')'] := .of_not_mem (by decide)
  have hpieces : ∀ piece ∈ call.parenthesizedPieces,
      piece.Plain ∨ piece = .char '(' ∨ piece = .char ')' := by
    intro piece hpiece
    simp only [parenthesizedPieces, List.mem_append, List.mem_cons, List.not_mem_nil,
      or_false] at hpiece
    rcases hpiece with hpiece | (rfl | hpiece) | rfl
    · exact .inl (hhead.plain piece hpiece)
    · exact .inr (.inl rfl)
    · exact .inl (hplain piece hpiece)
    · exact .inr (.inr rfl)
  refine ⟨?_, ?_, hhead.steady.append (hopening.append (hsteady.append hclosing)), ?_, ')', ?_, rfl,
    by decide, by decide⟩
  · intro piece hpiece
    rcases hpieces piece hpiece with hplain | rfl | rfl
    · exact hplain.regular
    · simp [Piece.Regular]
    · simp [Piece.Regular]
  · intro c hc hblank
    rcases hpieces _ hc with hplain | heq | heq
    · exact eq_space_of_isPlain hplain hblank
    · obtain rfl := Piece.char.inj heq
      contradiction
    · obtain rfl := Piece.char.inj heq
      contradiction
  · obtain ⟨c, hc, hblank⟩ := hhead.head
    refine ⟨c, ?_, hblank⟩
    rw [parenthesizedPieces, textOf_append, List.head?_append, Option.mem_def.mp hc]
    rfl
  · rw [textOf_parenthesizedPieces, ← List.append_assoc, List.getLast?_concat]
    rfl

/-- A call whose arguments stand between parentheses is read back. -/
theorem Printable.parse?_parenthesized (h : call.Printable)
    (hblock : ∀ parameters ∈ call.block, ∀ name ∈ parameters, isIdentifier name.toList = true) :
    Call.parse? (textOf call.parenthesizedPieces ++ blockText call.block) = some call := by
  obtain ⟨hplain, hlevel, hnested, -⟩ := Element.facts_commaJoin h.elements
  have hspan := textOf_parenthesizedPieces call
  have hend : EndsName ('(' :: textOf (commaJoin (call.arguments.map Argument.pieces)) ++ [')']) :=
    fun c hc => .inr (by simpa using hc.symm)
  have hstart : openerAt? (textOf call.parenthesizedPieces ++ blockText call.block) = none := by
    rw [hspan, List.append_assoc]
    apply h.openerAt?_headText (hend.append_blockText call.block)
    intro _ _
    exact blockParameters?_eq_none rfl (by decide) _
  have harguments := argumentText?_parenthesized (fun piece hpiece => (hplain piece hpiece).regular)
    hnested hlevel
  exact h.parse?_eq h.body_parenthesizedPieces hspan hend hblock hstart harguments
    (h.arguments_commaJoin 0)

end Parenthesized

/-- The call with its arguments after a space. -/
def text (call : Call) : List Char :=
  textOf call.pieces ++ blockText call.block

/-- The call with its arguments between parentheses. -/
def parenthesizedText (call : Call) : List Char :=
  textOf call.parenthesizedPieces ++ blockText call.block

/-- A call is read back from both of its forms, unless it is the word `do` alone. -/
theorem both_forms_read_back (call : Call) (h : call.Printable)
    (hblock : ∀ parameters ∈ call.block, ∀ name ∈ parameters, isIdentifier name.toList = true)
    (hdo : call.receiver = none → call.method = "do" → call.arguments ≠ [] ∨ call.block ≠ none) :
    Call.parse? call.text = some call ∧ Call.parse? call.parenthesizedText = some call :=
  ⟨h.parse?_spaced hblock hdo, h.parse?_parenthesized hblock⟩

/-- A call with keywords for names, and with code in its strings. -/
def misleadingCall : Call where
  receiver := some "Schema"
  method := "do"
  arguments :=
    [.positional (.str "a, b] do |x"), .positional (.symbol "if?"),
      .keyword "unless" (.str " if :x => # do"),
      .keyword "do" (.hash [("end", .list [.str "(", .nil, .bool true, .hash []])])]
  block := some ["t", "u"]

theorem misleadingCall_read_back :
    let inner := "\"a, b] do |x\", :if?, unless: \" if :x => # do\", " ++
      "do: \x7bend: [\"(\", nil, true, \x7b\x7d]\x7d"
    misleadingCall.Printable ∧
      Call.parse? ("Schema.do " ++ inner ++ " do |t, u|").toList = some misleadingCall ∧
      Call.parse? ("Schema.do(" ++ inner ++ ") do |t, u|").toList = some misleadingCall := by
  intro inner
  have hprintable : misleadingCall.Printable := by
    refine ⟨by decide +kernel, ⟨_, [], (List.append_nil _).symm, ?_, ?_, by decide⟩, ?_⟩
    · decide +kernel
    · decide +kernel
    · have hlist : (Value.list [.str "(", .nil, .bool true, .hash []]).Printable := by
        apply Value.Printable.list
        simp only [List.forall_mem_cons]
        exact ⟨.str (by decide) (by decide), .nil, .bool true, .hash (by simp) (by simp), by simp⟩
      have hhash : (Value.hash [("end", .list [.str "(", .nil, .bool true, .hash []])]).Printable :=
        .hash (by decide +kernel) (List.forall_mem_singleton.mpr hlist)
      simp only [misleadingCall, List.forall_mem_cons]
      exact ⟨.str (by decide) (by decide), .symbol (by decide +kernel),
        ⟨by decide +kernel, .str (by decide) (by decide)⟩, ⟨by decide +kernel, hhash⟩, by simp⟩
  have hblock : ∀ parameters ∈ misleadingCall.block, ∀ name ∈ parameters,
      isIdentifier name.toList = true := by
    decide +kernel
  have hback := both_forms_read_back misleadingCall hprintable hblock (by decide)
  have htext : misleadingCall.text = ("Schema.do " ++ inner ++ " do |t, u|").toList := by
    decide +kernel
  have hparenthesized : misleadingCall.parenthesizedText =
      ("Schema.do(" ++ inner ++ ") do |t, u|").toList := by
    decide +kernel
  rw [htext, hparenthesized] at hback
  exact ⟨hprintable, hback⟩

end Call

section Keyword

variable {word text rest : List Char}

theorem takeWhile_word (hword : ∀ c ∈ word, isWordChar c = true) :
    (word ++ ' ' :: rest).takeWhile isWordChar = word :=
  (span_name_cons hword rfl rest).1

/-- A statement closes no block, unless its first word does. -/
theorem isBlockEnd_eq_false (hword : ∀ c ∈ word, isWordChar c = true) (hend : word ≠ "end".toList)
    (htrim : trim text = word ++ ' ' :: rest) : isBlockEnd text = false := by
  rw [isBlockEnd, htrim]
  split
  · next c after hafter =>
    have htext := (afterPrefix?_eq_some_iff _ _ _).mp hafter
    have hletters : ∀ c ∈ "end".toList, isWordChar c = true := List.all_eq_true.mp rfl
    cases hc : isWordChar c with
    | true => rfl
    | false =>
      have htake : (word ++ ' ' :: rest).takeWhile isWordChar = word := takeWhile_word hword
      rw [htext, (span_name_cons hletters hc after).1] at htake
      exact absurd htake.symm hend
  · next hafter =>
    have htext := (afterPrefix?_eq_some_iff _ _ _).mp hafter
    have hspace : ' ' ∈ word ++ ' ' :: rest := by simp
    rw [htext] at hspace
    simp at hspace
  · rfl

/-- A statement opens no block by its first word, unless that is a keyword. -/
theorem keywordBlock?_eq_none (hword : ∀ c ∈ word, isWordChar c = true)
    (hkeyword : openingKeywords.contains (String.ofList word) = false)
    (htrim : trim text = word ++ ' ' :: rest) : keywordBlock? text = none := by
  simp only [keywordBlock?, htrim, takeWhile_word hword, hkeyword]
  rfl

end Keyword

end ForeignKeyLint.Ruby
