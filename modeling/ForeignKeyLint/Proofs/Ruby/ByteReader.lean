import ForeignKeyLint.Proofs.Ruby.ByteWalk
import ForeignKeyLint.Proofs.Ruby.Division
import ForeignKeyLint.Proofs.Ruby.HeredocOffset

/-!
Readers that cut a text into slices as they walk over it: one divides a text at a separator, the other
takes the comment and the openers of here documents out of a line. Main statements: no slice that they
ask for is missing, and they read what the readers of characters read.
-/

namespace ForeignKeyLint.Ruby

open Text

section Outcome

variable {σ α : Type}

/-- What is made of the last state of the visitor of a walk. -/
def outcome? (visit : σ → Nat → Char → Option (Flow × σ)) (finish : σ → Option α) (text : List Char)
    (context : Context) (offset : Nat) (state : σ) : Option α := do
  let (_, last) ← walkBytes? visit text context offset state
  finish last

variable {visit : σ → Nat → Char → Option (Flow × σ)} {finish : σ → Option α}
  {text rest literal after : List Char} {context : Context} {offset : Nat} {c : Char} {state next : σ}

/-- A round leaves the outcome to the later ones. -/
theorem outcome_before (round : Round) (later : Option (List Round × σ)) :
    ((round.before later).bind fun (_, last) => finish last) =
      later.bind fun (_, last) => finish last := by
  cases later <;> rfl

theorem outcome?_nil (h : fromByte? offset text = some []) :
    outcome? visit finish text context offset state = finish state := by
  rw [outcome?, walkBytes?_nil h]
  rfl

theorem outcome?_of_literal (h : fromByte? offset text = some (c :: rest))
    (hliteral : splitLiteral? context c rest = some (literal, after)) :
    outcome? visit finish text context offset state =
      outcome? visit finish text .value (offset + c.utf8Size + byteLength literal) state := by
  rw [outcome?, walkBytes?_of_literal h hliteral]
  exact outcome_before _ _

theorem outcome?_of_proceed (h : fromByte? offset text = some (c :: rest))
    (hcode : splitLiteral? context c rest = none)
    (hvisit : visit state offset c = some (.proceed, next)) :
    outcome? visit finish text context offset state =
      outcome? visit finish text (context.push c) (offset + c.utf8Size) next := by
  rw [outcome?, walkBytes?_of_proceed h hcode hvisit]
  exact outcome_before _ _

theorem outcome?_of_stop (h : fromByte? offset text = some (c :: rest))
    (hcode : splitLiteral? context c rest = none)
    (hvisit : visit state offset c = some (.stop, next)) :
    outcome? visit finish text context offset state = finish next := by
  rw [outcome?, walkBytes?_of_stop h hcode hvisit]
  rfl

/-- A jump that comes down right after `skipped`. -/
theorem outcome?_of_jump {skipped : List Char}
    (h : fromByte? offset text = some (c :: (skipped ++ after)))
    (hcode : splitLiteral? context c (skipped ++ after) = none)
    (hvisit : visit state offset c =
      some (.resumeAt (offset + c.utf8Size + byteLength skipped), next)) :
    outcome? visit finish text context offset state =
      outcome? visit finish text .value (offset + c.utf8Size + byteLength skipped) next := by
  have hboundary := isBoundary_of_fromByte? (fromByte?_add (fromByte?_cons h))
  rw [outcome?, walkBytes?_of_resumeAt h hcode hvisit (.inl hboundary), splitAtByte_byteLength]
  exact outcome_before _ _

end Outcome

section Division

/-- How far a division has come: the parts cut out, the open brackets, and where the next part starts. -/
structure Splitting where
  parts : List (List Char) := []
  depth : Int := 0
  start : Nat := 0
deriving Repr, DecidableEq

/-- Ends a part, and goes on behind the separator. -/
def Splitting.close (state : Splitting) (part : List Char) (start : Nat) : Splitting :=
  { state with parts := state.parts ++ [trim part], start }

/-- The visitor that divides a text. A part is the slice up to a separator. -/
def splitVisit? (separator : Char) (text : List Char) (state : Splitting) (offset : Nat) (c : Char) :
    Option (Flow × Splitting) :=
  if bracketStep c ≠ 0 then some (.proceed, { state with depth := state.depth + bracketStep c })
  else if c = separator ∧ state.depth = 0 then do
    let part ← slice? state.start offset text
    some (.proceed, state.close part (offset + c.utf8Size))
  else some (.proceed, state)

/-- The parts that a division ends up with, less the empty ones. The last part is what is left. -/
def Splitting.finish? (text : List Char) (state : Splitting) : Option (List (List Char)) := do
  let last ← fromByte? state.start text
  some ((state.parts ++ [trim last]).filter (!·.isEmpty))

/-- The parts of a text between separators, cut out by bytes. -/
def splitOutsideBytes? (separator : Char) (text : List Char) : Option (List (List Char)) :=
  outcome? (splitVisit? separator text) (Splitting.finish? text) text {} 0 {}

variable {separator : Char} {text current rest : List Char} {context : Context} {offset : Nat}
  {c : Char} {state : Splitting}

theorem splitVisit?_of_cut (hstep : bracketStep separator = 0) (hdepth : state.depth = 0)
    (hpart : slice? state.start offset text = some current) :
    splitVisit? separator text state offset separator =
      some (.proceed, state.close current (offset + separator.utf8Size)) := by
  simp [splitVisit?, hstep, hdepth, hpart]

theorem splitVisit?_of_kept (h : ¬(c = separator ∧ bracketStep separator = 0 ∧ state.depth = 0)) :
    splitVisit? separator text state offset c =
      some (.proceed, { state with depth := state.depth + bracketStep c }) := by
  by_cases hbracket : bracketStep c = 0
  · have hkept : ¬(c = separator ∧ state.depth = 0) := by
      rintro ⟨rfl, hdepth⟩
      exact h ⟨rfl, hbracket, hdepth⟩
    simp [splitVisit?, hbracket, hkept]
  · simp [splitVisit?, hbracket]

/-- A division that stands at `offset`, and has passed `current` since the last separator, finds every
slice that it asks for, and cuts out the parts that the characters hold. -/
theorem outcome?_splitVisit? (h : Passed text state.start current offset rest) :
    outcome? (splitVisit? separator text) (Splitting.finish? text) text context offset state =
      some ((state.parts ++
        (segments (current ++ rest)
          (separatorsFrom separator state.depth (codeFrom context offset rest))).map trim).filter
            (!·.isEmpty)) := by
  induction context, rest using along_code generalizing current offset state with
  | nil context =>
    rw [outcome?_nil h.here, Splitting.finish?, h.from_start, codeFrom_nil]
    rfl
  | literal context c rest literal after hliteral ih =>
    obtain rfl := splitLiteral?_append hliteral
    have hsplit : current ++ c :: (literal ++ after) = current ++ c :: literal ++ after := by simp
    rw [outcome?_of_literal h.here hliteral, codeFrom_of_literal _ hliteral, hsplit]
    exact ih h.cons_append
  | code context c rest hcode ih =>
    rw [codeFrom_of_code _ hcode]
    by_cases hcut : c = separator ∧ bracketStep separator = 0 ∧ state.depth = 0
    · obtain ⟨rfl, hstep, hdepth⟩ := hcut
      have hvisit := splitVisit?_of_cut hstep hdepth h.slice
      have hcuts : separatorsFrom c state.depth
          ({ offset, char := c, rest } :: codeFrom (context.push c) (offset + c.utf8Size) rest) =
            { offset, char := c, rest } ::
              separatorsFrom c state.depth (codeFrom (context.push c) (offset + c.utf8Size) rest) := by
        rw [hdepth]
        exact separatorsFrom_of_cut rfl hstep _
      have hparts := @ih [] (offset + c.utf8Size) (state.close current (offset + c.utf8Size))
        (.nothing (fromByte?_cons h.here))
      rw [outcome?_of_proceed h.here hcode hvisit, hparts, hcuts,
        segments_cut current { offset, char := c, rest }, List.map_cons, List.append_cons]
      rfl
    · have hsplit : current ++ c :: rest = current ++ [c] ++ rest := by simp
      rw [outcome?_of_proceed h.here hcode (splitVisit?_of_kept hcut), separatorsFrom_of_kept hcut, hsplit]
      exact ih h.cons

/-- A division by bytes finds every slice that it asks for, and divides as one by characters does. -/
theorem splitOutsideBytes?_eq (separator : Char) (text : List Char) :
    splitOutsideBytes? separator text = some (splitOutside separator text) := by
  have hstart : Passed text ({} : Splitting).start [] 0 text := .nothing (fromByte?_zero text)
  exact outcome?_splitVisit? hstart

end Division

section Strip

/-- How far the code of a line has been taken out: the code, the terminators of the here documents opened,
the byte after the last opener, and the byte at which the line is cut. -/
structure Stripping where
  code : List Char := []
  heredocs : List (List Char) := []
  copied : Nat := 0
  cut : Nat
deriving Repr, DecidableEq

/-- Copies the code before an opener, puts an empty string in the place of the opener, and goes on behind
it. -/
def Stripping.leap (state : Stripping) (code terminator : List Char) (target : Nat) : Stripping :=
  { state with
    code := state.code ++ code ++ ['"', '"']
    heredocs := state.heredocs ++ [terminator]
    copied := target }

/-- The visitor that takes the comment and the openers of here documents out of a line. -/
def stripVisit? (line : List Char) (state : Stripping) (offset : Nat) (c : Char) :
    Option (Flow × Stripping) :=
  if c = '#' then some (.stop, { state with cut := offset })
  else if c = '<' then do
    match ← heredocAt? line offset with
    | none => some (.proceed, state)
    | some (terminator, consumed) =>
      let code ← slice? state.copied offset line
      some (.resumeAt (offset + consumed), state.leap code terminator (offset + consumed))
  else some (.proceed, state)

/-- The code of a line and the terminators of its here documents. What has not been copied is copied up to
the cut. -/
def Stripping.finish? (line : List Char) (state : Stripping) :
    Option (List Char × List (List Char)) := do
  let code ← slice? state.copied (max state.cut state.copied) line
  some (state.code ++ code, state.heredocs)

/-- The code of a line and the terminators of its here documents, cut out by bytes. -/
def stripLineBytes? (line : List Char) : Option (List Char × List (List Char)) :=
  outcome? (stripVisit? line) (Stripping.finish? line) line {} 0 { cut := byteLength line }

variable {line start rest : List Char} {context : Context} {offset : Nat} {c : Char} {state : Stripping}

/-- Where no here document is opened, the visitor proceeds. -/
theorem stripVisit?_of_plain (h : fromByte? offset line = some (c :: rest)) (hcomment : c ≠ '#')
    (hopener : Visit.heredoc? { offset, char := c, rest } = none) :
    stripVisit? line state offset c = some (.proceed, state) := by
  by_cases hangle : c = '<'
  · subst hangle
    have hnone : heredoc? rest = none := hopener
    simp [stripVisit?, heredocAt?_eq h, hnone]
  · simp [stripVisit?, hcomment, hangle]

/-- Where a here document is opened, the visitor copies the code before it and jumps past the opener. -/
theorem stripVisit?_of_heredoc (h : fromByte? offset line = some ('<' :: rest)) {heredoc : Heredoc}
    (hopener : heredoc? rest = some heredoc)
    (hcopied : slice? state.copied offset line = some start) :
    stripVisit? line state offset '<' =
      let target := offset + '<'.utf8Size + byteLength heredoc.opener
      some (.resumeAt target, state.leap start heredoc.terminator target) := by
  simp [stripVisit?, heredocAt?_eq h, hopener, hcopied, Nat.add_assoc]

/-- A line that is cut where the reader stands, or ends there, has the code passed since the last opener as
the last part of its code. -/
theorem finish?_of_cut (h : Passed line state.copied start offset rest) :
    Stripping.finish? line { state with cut := offset } = some (state.code ++ start, state.heredocs) := by
  have hoffset := h.offset_eq
  have hstop : max offset state.copied = offset := by omega
  simp only [Stripping.finish?, hstop, h.slice, Option.bind_eq_bind, Option.bind_some]

/-- The rest of a line is read by bytes as it is by characters, with every slice that is asked for, when
`start` has been passed since the last opener. -/
theorem outcome?_stripVisit? (h : Passed line state.copied start offset rest)
    (hcut : state.cut = byteLength line) :
    outcome? (stripVisit? line) (Stripping.finish? line) line context offset state =
      some (state.code ++ (stripFrom start context offset rest).1,
        state.heredocs ++ (stripFrom start context offset rest).2) := by
  -- The induction is on what is left of the line.
  induction hlength : rest.length using Nat.strong_induction_on
    generalizing start rest context offset state with
  | _ length ih =>
    cases rest with
    | nil =>
      have hend : byteLength line = offset := byteLength_of_fromByte? h.here
      have hfinish := finish?_of_cut h
      rw [← hcut.trans hend] at hfinish
      rw [outcome?_nil h.here]
      refine hfinish.trans ?_
      simp [stripFrom, walkFrom, codeOf]
    | cons c rest =>
      rw [List.length_cons] at hlength
      cases hliteral : splitLiteral? context c rest with
      | some parts =>
        obtain ⟨literal, after⟩ := parts
        obtain rfl := splitLiteral?_append hliteral
        have hshorter := length_after_literal_le hliteral
        rw [outcome?_of_literal h.here hliteral, stripFrom_of_literal start hliteral]
        exact ih after.length (by omega) h.cons_append hcut rfl
      | none =>
        by_cases hcomment : c = '#'
        · subst hcomment
          have hvisit : stripVisit? line state offset '#' = some (.stop, { state with cut := offset }) :=
            if_pos rfl
          rw [outcome?_of_stop h.here hliteral hvisit, finish?_of_cut h, stripFrom_hash]
          simp
        · cases hopener : Visit.heredoc? { offset, char := c, rest } with
          | none =>
            rw [outcome?_of_proceed h.here hliteral (stripVisit?_of_plain h.here hcomment hopener),
              stripFrom_of_plain start hcomment hliteral hopener]
            exact ih rest.length (by omega) h.cons hcut rfl
          | some heredoc =>
            obtain ⟨rfl, -, -⟩ := heredoc?_eq_some hopener
            have hheredoc : heredoc? rest = some heredoc := hopener
            have hvisit := stripVisit?_of_heredoc h.here hheredoc h.slice
            rw [stripFrom_of_heredoc start hliteral hheredoc]
            obtain ⟨rfl, -⟩ := eq_append_of_heredoc? hheredoc
            rw [List.length_append] at hlength
            have hafter := fromByte?_add (fromByte?_cons h.here)
            have hlater := @ih heredoc.after.length (by omega) [] heredoc.after .value _
              (state.leap start heredoc.terminator _) (.nothing hafter) hcut rfl
            refine (outcome?_of_jump h.here hliteral hvisit).trans (hlater.trans ?_)
            simp [Stripping.leap]

/-- The code of a line is found by bytes as it is by characters, with every slice that is asked for. -/
theorem stripLineBytes?_eq (line : List Char) : stripLineBytes? line = some (stripLine line) := by
  have hstart : Passed line ({ cut := byteLength line } : Stripping).copied [] 0 line :=
    .nothing (fromByte?_zero line)
  exact outcome?_stripVisit? hstart rfl

end Strip

section Boundary

variable {text : List Char} {visit : Visit} {target : Nat}

theorem fromByte?_of_mem_walk {flow : Visit → Flow} (h : visit ∈ walk flow text) :
    fromByte? visit.offset text = some (visit.char :: visit.rest) := by
  obtain ⟨lead, hsplit, hoffset⟩ := exists_lead_of_mem_walkFrom h
  rw [Nat.zero_add] at hoffset
  exact fromByte?_eq_some_iff.mpr ⟨lead, hsplit, hoffset.symm⟩

theorem exists_heredoc_of_lineFlow (h : visit.lineFlow = .resumeAt target) :
    ∃ heredoc, visit.heredoc? = some heredoc ∧
      target = visit.offset + visit.char.utf8Size + byteLength heredoc.opener := by
  unfold Visit.lineFlow at h
  split at h
  · contradiction
  · split at h
    · next heredoc hheredoc => exact ⟨heredoc, hheredoc, (Flow.resumeAt.inj h).symm⟩
    · contradiction

/-- A walk over a line leaps over the opener of a here document to a later boundary, which is found by
adding the bytes of the opener. -/
theorem leap_of_lineFlow (hvisit : visit ∈ walk Visit.lineFlow text)
    (h : visit.lineFlow = .resumeAt target) :
    (∃ terminator consumed, heredocAt? text visit.offset = some (some (terminator, consumed)) ∧
      target = visit.offset + consumed) ∧
    IsBoundary text target ∧ visit.offset < target ∧ target ≤ byteLength text := by
  obtain ⟨heredoc, hopener, rfl⟩ := exists_heredoc_of_lineFlow h
  obtain ⟨hangle, hrest, -⟩ := heredoc?_eq_some hopener
  have hhere := fromByte?_of_mem_walk hvisit
  have hafter : fromByte? (visit.offset + visit.char.utf8Size + byteLength heredoc.opener) text =
      some heredoc.after := fromByte?_add (hrest ▸ fromByte?_cons hhere)
  have hsize := visit.char.utf8Size_pos
  have hlength := byteLength_of_fromByte? hafter
  refine ⟨⟨heredoc.terminator, visit.char.utf8Size + byteLength heredoc.opener, ?_, by omega⟩,
    isBoundary_of_fromByte? hafter, by omega, by omega⟩
  have hheredoc : heredoc? visit.rest = some heredoc := by
    rwa [Visit.heredoc?, if_pos hangle] at hopener
  rw [hangle] at hhere ⊢
  rw [heredocAt?_eq hhere, hheredoc]
  rfl

/-- A walk over code characters stays on characters and advances, whatever its visitor does, provided that
the visitor jumps to boundaries. Its rounds start at ever later bytes, each where the character it looks
at stands; each goes on at a later boundary, and after a literal exactly where the literal ends. What it
visits is what the walk over the characters visits. The readers of parts and of lines find every slice
that they ask for, and a line is read on after the opener of a here document at a later boundary. -/
theorem walk_stays_on_boundaries {σ : Type} (visitor : σ → Nat → Char → Flow × σ) (state : σ)
    (text : List Char) (hvisitor : LandsOnBoundaries text visitor) :
    (∃ rounds last flow,
      walkBytes? (unfailing visitor) text {} 0 state = some (rounds, last) ∧
      Advances text 0 rounds ∧ (∀ round ∈ rounds, round.Sound text) ∧
      (rounds.Pairwise fun first second => first.offset < second.offset) ∧
      visited rounds = answered flow (walk flow text)) ∧
    (∀ separator, splitOutsideBytes? separator text = some (splitOutside separator text)) ∧
    stripLineBytes? text = some (stripLine text) ∧
    ∀ visit ∈ walk Visit.lineFlow text, ∀ target, visit.lineFlow = .resumeAt target →
      (∃ terminator consumed, heredocAt? text visit.offset = some (some (terminator, consumed)) ∧
        target = visit.offset + consumed) ∧
      IsBoundary text target ∧ visit.offset < target ∧ target ≤ byteLength text := by
  refine ⟨?_, fun separator => splitOutsideBytes?_eq separator text, stripLineBytes?_eq text,
    fun visit hmem target htarget => leap_of_lineFlow hmem htarget⟩
  obtain ⟨rounds, last, flow, hwalk, hadvances, hvisited⟩ := walksOn hvisitor (fromByte?_zero text) {} state
  exact ⟨rounds, last, flow, hwalk, hadvances, hadvances.sound, hadvances.pairwise_offset, hvisited⟩

/-- A literal whose delimiter takes three bytes, and a character of three bytes after it. -/
def euroText : List Char :=
  "%€x€ y€z".toList

/-- A visitor that leaps over the last euro sign of `euroText`. -/
def leapOverEuro (_ : Unit) (_ : Nat) (c : Char) : Flow × Unit :=
  (if c = 'y' then .resumeAt 13 else .proceed, ())

theorem walk_stays_on_boundaries_euro :
    LandsOnBoundaries euroText leapOverEuro ∧
    ∃ rounds last flow,
      walkBytes? (unfailing leapOverEuro) euroText {} 0 () = some (rounds, last) ∧
      Advances euroText 0 rounds ∧ (∀ round ∈ rounds, round.Sound euroText) ∧
      (rounds.Pairwise fun first second => first.offset < second.offset) ∧
      visited rounds = answered flow (walk flow euroText) := by
  have hlands : LandsOnBoundaries euroText leapOverEuro := by
    intro state offset c target _ hjump
    refine .inl ⟨"%€x€ y€".toList, ['z'], rfl, ?_⟩
    simp only [leapOverEuro] at hjump
    split at hjump
    · exact Flow.resumeAt.inj hjump
    · contradiction
  exact ⟨hlands, (walk_stays_on_boundaries leapOverEuro () euroText hlands).1⟩

end Boundary

end ForeignKeyLint.Ruby
