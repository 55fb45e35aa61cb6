import ForeignKeyLint.Proofs.Ruby.LiteralEnd
import Mathlib.Data.List.Basic

/-!
Source text in pieces: code characters that open no literal, and strings in double quotes. A walk
over such a text visits the code characters and nothing of the strings, whatever precedes it. So the
depth of brackets and the split at a separator can be read off the pieces. A span of pieces passes a
separator at a depth when it holds no cut there and closes what it opens; spans that pass can be put
together, enclosed in brackets and joined.
-/

namespace ForeignKeyLint.Ruby

open Text

inductive Piece where
  | char (c : Char)
  /-- A string between double quotes. -/
  | quoted (content : List Char)
deriving Repr, DecidableEq

namespace Piece

def text : Piece → List Char
  | .char c => [c]
  | .quoted content => '"' :: content ++ ['"']

/-- The character opens no literal, and the string ends at its closing quote. -/
def Regular : Piece → Prop
  | .char c => c ≠ '"' ∧ c ≠ '\'' ∧ c ≠ '\x60' ∧ c ≠ '%' ∧ c ≠ '/'
  | .quoted content => '"' ∉ content ∧ '\\' ∉ content

def step : Piece → Int
  | .char c => bracketStep c
  | .quoted _ => 0

end Piece

def ofText (text : List Char) : List Piece :=
  text.map .char

def textOf (pieces : List Piece) : List Char :=
  pieces.flatMap Piece.text

@[simp]
theorem textOf_nil : textOf [] = [] := rfl

@[simp]
theorem textOf_cons (piece : Piece) (pieces : List Piece) :
    textOf (piece :: pieces) = piece.text ++ textOf pieces := rfl

@[simp]
theorem textOf_append (first second : List Piece) :
    textOf (first ++ second) = textOf first ++ textOf second :=
  List.flatMap_append

@[simp]
theorem textOf_ofText (text : List Char) : textOf (ofText text) = text := by
  induction text with
  | nil => rfl
  | cons c text ih =>
    change c :: textOf (ofText text) = c :: text
    rw [ih]

/-- The visits of a walk over pieces that start at byte `offset`. -/
def visitsOf : (offset : Nat) → List Piece → List Visit
  | _, [] => []
  | offset, .char c :: pieces =>
    { offset, char := c, rest := textOf pieces } :: visitsOf (offset + c.utf8Size) pieces
  | offset, .quoted content :: pieces =>
    visitsOf (offset + '"'.utf8Size + byteLength (content ++ ['"'])) pieces

theorem splitLiteral?_eq_none (context : Context) {c : Char} (h : (Piece.char c).Regular)
    (rest : List Char) : splitLiteral? context c rest = none := by
  obtain ⟨hdouble, hsingle, hback, hpercent, hslash⟩ := h
  unfold splitLiteral?
  split <;> simp_all

/-- A walk that proceeds at every code character visits them all. -/
theorem walkFrom_textOf (flow : Visit → Flow) (pieces : List Piece)
    (hregular : ∀ piece ∈ pieces, piece.Regular)
    (hflow : ∀ visit : Visit, .char visit.char ∈ pieces → flow visit = .proceed)
    (context : Context) (offset : Nat) :
    walkFrom flow context offset (textOf pieces) = visitsOf offset pieces := by
  induction pieces generalizing context offset with
  | nil =>
    rw [textOf_nil, walkFrom]
    rfl
  | cons piece pieces ih =>
    have hrest := ih (fun other hother => hregular other (List.mem_cons_of_mem _ hother))
      (fun visit hvisit => hflow visit (List.mem_cons_of_mem _ hvisit))
    have hpiece := hregular piece List.mem_cons_self
    cases piece with
    | char c =>
      have hliteral := splitLiteral?_eq_none context hpiece (textOf pieces)
      have hproceed := hflow { offset, char := c, rest := textOf pieces } List.mem_cons_self
      change walkFrom _ context offset (c :: textOf pieces) = _
      rw [walkFrom]
      split
      · next hsome => simp [hliteral] at hsome
      · rw [visitsOf, hproceed, hrest]
    | quoted content =>
      have hsplit := splitDelimited_quoted (by decide) content (textOf pieces) hpiece.1 hpiece.2
      have hliteral : splitLiteral? context '"' (content ++ '"' :: textOf pieces) =
          some (content ++ ['"'], textOf pieces) := by
        rw [← hsplit]
        rfl
      have htext : textOf (.quoted content :: pieces) =
          '"' :: (content ++ '"' :: textOf pieces) := by
        simp [Piece.text]
      rw [htext, walkFrom]
      split
      · next literal after hsome =>
        rw [hliteral] at hsome
        obtain ⟨rfl, rfl⟩ := Prod.mk.inj (Option.some.inj hsome)
        rw [visitsOf, hrest]
      · next hnone => simp [hliteral] at hnone

/-- A walk over regular pieces visits their code characters. -/
theorem code_textOf (pieces : List Piece) (hregular : ∀ piece ∈ pieces, piece.Regular) :
    code (textOf pieces) = visitsOf 0 pieces :=
  walkFrom_textOf _ pieces hregular (fun _ _ => rfl) {} 0

theorem length_rest_lt_of_mem_visitsOf (pieces : List Piece)
    (hregular : ∀ piece ∈ pieces, piece.Regular) (offset : Nat) {visit : Visit}
    (h : visit ∈ visitsOf offset pieces) : visit.rest.length < (textOf pieces).length := by
  rw [← walkFrom_textOf (fun _ => .proceed) pieces hregular (fun _ _ => rfl) {} offset] at h
  exact length_rest_lt_of_mem_walkFrom _ _ _ _ _ h

theorem mem_of_mem_visitsOf {pieces : List Piece} {offset : Nat} {visit : Visit}
    (h : visit ∈ visitsOf offset pieces) :
    ∃ before after, pieces = before ++ .char visit.char :: after ∧ visit.rest = textOf after := by
  induction pieces generalizing offset with
  | nil => simp [visitsOf] at h
  | cons piece pieces ih =>
    cases piece with
    | char c =>
      rcases List.mem_cons.mp h with rfl | h
      · exact ⟨[], pieces, rfl, rfl⟩
      · obtain ⟨before, after, rfl, hrest⟩ := ih h
        exact ⟨.char c :: before, after, rfl, hrest⟩
    | quoted content =>
      obtain ⟨before, after, rfl, hrest⟩ := ih h
      exact ⟨.quoted content :: before, after, rfl, hrest⟩

/-- The opening brackets among the pieces less the closing ones. -/
def depthOf : List Piece → Int
  | [] => 0
  | piece :: pieces => piece.step + depthOf pieces

@[simp]
theorem depthOf_nil : depthOf [] = 0 := rfl

@[simp]
theorem depthOf_cons (piece : Piece) (pieces : List Piece) :
    depthOf (piece :: pieces) = piece.step + depthOf pieces := rfl

theorem depthOf_append (first second : List Piece) :
    depthOf (first ++ second) = depthOf first + depthOf second := by
  induction first with
  | nil => simp
  | cons piece first ih =>
    rw [List.cons_append, depthOf_cons, depthOf_cons, ih]
    omega

theorem depthOf_eq_zero {pieces : List Piece} (h : ∀ piece ∈ pieces, piece.step = 0) :
    depthOf pieces = 0 := by
  induction pieces with
  | nil => rfl
  | cons piece pieces ih =>
    have hrest := ih fun other hother => h other (List.mem_cons_of_mem _ hother)
    rw [depthOf_cons, h piece List.mem_cons_self, hrest]
    rfl

theorem bracketDepth_textOf (pieces : List Piece) (hregular : ∀ piece ∈ pieces, piece.Regular) :
    bracketDepth (textOf pieces) = depthOf pieces := by
  have hvisits (offset : Nat) : (visitsOf offset pieces).foldr
      (fun visit depth => bracketStep visit.char + depth) 0 = depthOf pieces := by
    induction pieces generalizing offset with
    | nil => rfl
    | cons piece pieces ih =>
      have hrest := ih fun other hother => hregular other (List.mem_cons_of_mem _ hother)
      cases piece with
      | char c => simp [visitsOf, hrest, Piece.step]
      | quoted content => simp [visitsOf, hrest, Piece.step]
  rw [bracketDepth, code_textOf pieces hregular, hvisits]

/-- The pieces before the first separator outside brackets, of which `depth` are open, and those
between and after the others. -/
def cut (separator : Char) : (depth : Int) → List Piece → List Piece × List (List Piece)
  | _, [] => ([], [])
  | depth, piece :: pieces =>
    let (first, others) := cut separator (depth + piece.step) pieces
    if piece = .char separator ∧ piece.step = 0 ∧ depth = 0 then ([], first :: others)
    else (piece :: first, others)

theorem cut_eq_self {separator : Char} {pieces : List Piece} (h : .char separator ∉ pieces)
    (depth : Int) : cut separator depth pieces = (pieces, []) := by
  induction pieces generalizing depth with
  | nil => rfl
  | cons piece pieces ih =>
    simp only [List.mem_cons, not_or] at h
    have hkeep : ¬(piece = .char separator ∧ piece.step = 0 ∧ depth = 0) := fun hcut =>
      h.1 hcut.1.symm
    rw [cut, ih h.2]
    exact if_neg hkeep

theorem segments_append (text more : List Char) (cuts : List Visit)
    (hcuts : ∀ cut ∈ cuts, cut.rest.length < more.length) {first : List Char}
    {others : List (List Char)} (h : segments more cuts = first :: others) :
    segments (text ++ more) cuts = (text ++ first) :: others := by
  cases cuts with
  | nil =>
    obtain ⟨rfl, rfl⟩ := List.cons.inj h
    rfl
  | cons cut cuts =>
    obtain ⟨rfl, rfl⟩ := List.cons.inj h
    have hlt := hcuts cut List.mem_cons_self
    have hlength : (text ++ more).length - cut.rest.length - 1 =
        text.length + (more.length - cut.rest.length - 1) := by
      simp only [List.length_append]
      omega
    simp only [segments, Visit.before, hlength, List.take_length_add_append]

theorem segments_textOf (separator : Char) (pieces : List Piece)
    (hregular : ∀ piece ∈ pieces, piece.Regular) (depth : Int) (offset : Nat) :
    segments (textOf pieces) (separatorsFrom separator depth (visitsOf offset pieces)) =
      textOf (cut separator depth pieces).1 :: (cut separator depth pieces).2.map textOf := by
  induction pieces generalizing depth offset with
  | nil => rfl
  | cons piece pieces ih =>
    have hrest : ∀ other ∈ pieces, other.Regular := fun other hother =>
      hregular other (List.mem_cons_of_mem _ hother)
    have hshort (later : Nat) : ∀ found ∈ separatorsFrom separator (depth + piece.step)
        (visitsOf later pieces), found.rest.length < (textOf pieces).length := by
      intro found hfound
      exact length_rest_lt_of_mem_visitsOf pieces hrest later (mem_of_mem_separatorsFrom hfound)
    cases piece with
    | char c =>
      simp only [visitsOf, separatorsFrom, cut, Piece.step, Piece.char.injEq, textOf_cons]
      split
      · simp only [segments, Visit.before, ih hrest, List.map_cons]
        simp [Piece.text]
      · exact segments_append _ _ _ (hshort _) (ih hrest _ _)
    | quoted content =>
      simp only [visitsOf, cut, reduceCtorEq, false_and, if_false, textOf_cons]
      have hsame : depth + (Piece.quoted content).step = depth := by simp [Piece.step]
      rw [hsame] at hshort ⊢
      exact segments_append _ _ _ (hshort _) (ih hrest _ _)

/-- A text in regular pieces is split as its pieces are cut. -/
theorem splitOutside_textOf (separator : Char) (pieces : List Piece)
    (hregular : ∀ piece ∈ pieces, piece.Regular) :
    splitOutside separator (textOf pieces) =
      ((textOf (cut separator 0 pieces).1 ::
        (cut separator 0 pieces).2.map textOf).map trim).filter (!·.isEmpty) := by
  rw [splitOutside, code_textOf pieces hregular, segments_textOf separator pieces hregular]

/-- Reading the span where `depth` brackets are open makes no cut and comes back to that depth. -/
def Passes (separator : Char) (depth : Int) (span : List Piece) : Prop :=
  ∀ rest, cut separator depth (span ++ rest) =
    (span ++ (cut separator depth rest).1, (cut separator depth rest).2)

namespace Passes

variable {separator : Char} {depth : Int} {first second : List Piece}

theorem nil : Passes separator depth [] := fun _ => rfl

theorem append (hfirst : Passes separator depth first) (hsecond : Passes separator depth second) :
    Passes separator depth (first ++ second) := by
  intro rest
  rw [List.append_assoc, hfirst, hsecond, List.append_assoc]

theorem singleton {piece : Piece} (hlevel : piece.step = 0)
    (hother : piece ≠ .char separator ∨ depth ≠ 0) : Passes separator depth [piece] := by
  intro rest
  have hkeep : ¬(piece = .char separator ∧ piece.step = 0 ∧ depth = 0) := by
    rintro ⟨hpiece, -, hdepth⟩
    exact hother.elim (absurd hpiece) (absurd hdepth)
  have hsame : depth + piece.step = depth := by rw [hlevel, Int.add_zero]
  rw [List.singleton_append, cut, hsame]
  exact if_neg hkeep

theorem of_forall (h : ∀ piece ∈ first, piece.step = 0 ∧ piece ≠ .char separator) :
    Passes separator depth first := by
  induction first with
  | nil => exact nil
  | cons piece pieces ih =>
    obtain ⟨hlevel, hother⟩ := h piece List.mem_cons_self
    have hrest := ih fun other hmem => h other (List.mem_cons_of_mem _ hmem)
    exact (singleton hlevel (.inl hother)).append hrest

/-- Brackets around a span that passes inside of them. -/
theorem enclosed {opening closing : Char} (hopening : bracketStep opening = 1)
    (hclosing : bracketStep closing = -1) (h : Passes separator (depth + 1) first) :
    Passes separator depth (.char opening :: first ++ [.char closing]) := by
  intro rest
  have hback : depth + 1 + -1 = depth := by omega
  have hinner : cut separator (depth + 1) (first ++ .char closing :: rest) =
      (first ++ .char closing :: (cut separator depth rest).1, (cut separator depth rest).2) := by
    rw [h]
    simp [cut, Piece.step, hclosing, hback]
  simp [cut, Piece.step, hopening, hinner]

end Passes

/-- No bracket is closed in the span that was opened before it. -/
def Nested (span : List Piece) : Prop :=
  ∀ before after, span = before ++ after → 0 ≤ depthOf before

namespace Nested

variable {first second : List Piece}

theorem of_forall (h : ∀ piece ∈ first, piece.step = 0) : Nested first := by
  rintro before after rfl
  have hbefore : depthOf before = 0 :=
    depthOf_eq_zero fun piece hpiece => h piece (List.mem_append_left _ hpiece)
  omega

theorem append (hfirst : Nested first) (hsecond : Nested second) : Nested (first ++ second) := by
  intro before after heq
  rcases List.append_eq_append_iff.mp heq with ⟨middle, rfl, hsplit⟩ | ⟨middle, hsplit, -⟩
  · have hwhole := hfirst first [] (List.append_nil first).symm
    have hmiddle := hsecond middle after hsplit
    rw [depthOf_append]
    omega
  · exact hfirst before middle hsplit

/-- Brackets around a span that closes what it opens. -/
theorem enclosed {opening closing : Char} (hopening : bracketStep opening = 1)
    (hclosing : bracketStep closing = -1) (h : Nested first) (hlevel : depthOf first = 0) :
    Nested (.char opening :: first ++ [.char closing]) := by
  intro before after heq
  cases before with
  | nil => exact Int.le_refl 0
  | cons piece before =>
    obtain ⟨rfl, hrest⟩ := List.cons.inj heq
    have hinner : -1 ≤ depthOf before := by
      rcases List.append_eq_append_iff.mp hrest with ⟨middle, rfl, hsplit⟩ | ⟨middle, hsplit, -⟩
      · have hlast : -1 ≤ depthOf middle := by
          rcases List.singleton_eq_append_iff.mp hsplit with ⟨rfl, -⟩ | ⟨rfl, -⟩
          · exact Int.negSucc_le_zero 0
          · simp [Piece.step, hclosing]
        rw [depthOf_append, hlevel]
        omega
      · have hbefore := h before middle hsplit
        omega
    rw [depthOf_cons, Piece.step, hopening]
    omega

end Nested

/-- Spans with a comma and a space between each two. -/
def commaJoin : List (List Piece) → List Piece
  | [] => []
  | [span] => span
  | span :: next :: spans => span ++ .char ',' :: .char ' ' :: commaJoin (next :: spans)

theorem commaJoin_cons (span : List Piece) (spans : List (List Piece)) :
    ∃ rest, commaJoin (span :: spans) = span ++ rest := by
  cases spans with
  | nil => exact ⟨[], (List.append_nil span).symm⟩
  | cons next spans => exact ⟨_, rfl⟩

theorem mem_commaJoin {piece : Piece} {spans : List (List Piece)} (h : piece ∈ commaJoin spans) :
    piece = .char ',' ∨ piece = .char ' ' ∨ ∃ span ∈ spans, piece ∈ span := by
  fun_induction commaJoin spans with
  | case1 => simp at h
  | case2 span => exact .inr (.inr ⟨span, List.mem_singleton_self span, h⟩)
  | case3 span next spans ih =>
    simp only [List.mem_append, List.mem_cons] at h
    rcases h with h | h | h | h
    · exact .inr (.inr ⟨span, List.mem_cons_self, h⟩)
    · exact .inl h
    · exact .inr (.inl h)
    · rcases ih h with h | h | ⟨other, hother, h⟩
      · exact .inl h
      · exact .inr (.inl h)
      · exact .inr (.inr ⟨other, List.mem_cons_of_mem _ hother, h⟩)

theorem commaJoin_ofText (texts : List String) :
    commaJoin (texts.map fun text => ofText text.toList) =
      ofText (", ".intercalate texts).toList := by
  induction texts with
  | nil => rfl
  | cons text texts ih =>
    cases texts with
    | nil => simp [commaJoin]
    | cons next texts =>
      rw [List.map_cons] at ih
      rw [List.map_cons, List.map_cons, commaJoin, ih, String.intercalate_cons_cons]
      simp [ofText]

theorem passes_commaJoin {separator : Char} {depth : Int} (spans : List (List Piece))
    (hcomma : separator ≠ ',' ∨ depth ≠ 0) (hspace : separator ≠ ' ')
    (h : ∀ span ∈ spans, Passes separator depth span) :
    Passes separator depth (commaJoin spans) := by
  fun_induction commaJoin spans with
  | case1 => exact .nil
  | case2 span => exact h span (by simp)
  | case3 span next spans ih =>
    have hcommaPasses : Passes separator depth [.char ','] :=
      .singleton rfl (hcomma.imp_left fun hne heq => hne (Piece.char.inj heq).symm)
    have hspacePasses : Passes separator depth [.char ' '] :=
      .singleton rfl (.inl fun heq => hspace (Piece.char.inj heq).symm)
    have hrest := ih fun other hother => h other (List.mem_cons_of_mem _ hother)
    exact (h span (by simp)).append (hcommaPasses.append (hspacePasses.append hrest))

/-- Spans that hold no comma outside brackets are what their join is cut into. -/
theorem cut_commaJoin (span : List Piece) (spans : List (List Piece))
    (h : ∀ other ∈ span :: spans, Passes ',' 0 other) :
    cut ',' 0 (commaJoin (span :: spans)) = (span, spans.map (.char ' ' :: ·)) := by
  induction spans generalizing span with
  | nil =>
    have hspan := h span (by simp) []
    rw [List.append_nil] at hspan
    rw [commaJoin, hspan]
    simp [cut]
  | cons next spans ih =>
    have hspan := h span (by simp)
    have hrest := ih next fun other hother => h other (List.mem_cons_of_mem _ hother)
    rw [commaJoin, hspan]
    simp [cut, Piece.step, bracketStep, hrest]

/-- The text begins and ends with a character that is not blank. -/
structure Trimmed (text : List Char) : Prop where
  head : ∃ c ∈ text.head?, isBlank c = false
  last : ∃ c ∈ text.getLast?, isBlank c = false

theorem Trimmed.trimStart_eq {text : List Char} (h : Trimmed text) : trimStart text = text := by
  obtain ⟨c, hc, hblank⟩ := h.head
  cases text with
  | nil => simp at hc
  | cons first rest =>
    obtain rfl : first = c := by simpa using hc
    simp [trimStart, hblank]

theorem dropEndWhile_eq_self {p : Char → Bool} {text : List Char}
    (h : ∃ c ∈ text.getLast?, p c = false) : dropEndWhile p text = text := by
  obtain ⟨c, hc, hp⟩ := h
  rw [List.getLast?_eq_head?_reverse] at hc
  cases hreverse : text.reverse with
  | nil => simp [hreverse] at hc
  | cons last rest =>
    obtain rfl : last = c := by simpa [hreverse] using hc
    rw [dropEndWhile, hreverse, List.dropWhile_cons_of_neg (by simp [hp]), ← hreverse,
      List.reverse_reverse]

theorem Trimmed.trimEnd_eq {text : List Char} (h : Trimmed text) : trimEnd text = text :=
  dropEndWhile_eq_self h.last

theorem Trimmed.trim_eq {text : List Char} (h : Trimmed text) : trim text = text := by
  rw [trim, h.trimStart_eq, h.trimEnd_eq]

theorem Trimmed.ne_nil {text : List Char} (h : Trimmed text) : text ≠ [] := by
  obtain ⟨c, hc, -⟩ := h.head
  rintro rfl
  simp at hc

theorem Trimmed.trim_blanks_append {text : List Char} (h : Trimmed text) {blanks : List Char}
    (hblanks : ∀ c ∈ blanks, isBlank c = true) : trim (blanks ++ text) = text := by
  have hstart : trimStart (blanks ++ text) = trimStart text :=
    List.dropWhile_append_of_pos hblanks
  rw [trim, hstart, h.trimStart_eq, h.trimEnd_eq]

theorem Trimmed.trim_space_cons {text : List Char} (h : Trimmed text) :
    trim (' ' :: text) = text := by
  have hspace : ∀ c ∈ [' '], isBlank c = true := List.forall_mem_singleton.mpr rfl
  exact h.trim_blanks_append hspace

/-- The parts of a join are found again, spaces before it aside. -/
theorem splitOutside_commaJoin (count : Nat) (spans : List (List Piece))
    (hregular : ∀ span ∈ spans, ∀ piece ∈ span, piece.Regular)
    (hpasses : ∀ span ∈ spans, Passes ',' 0 span)
    (htrimmed : ∀ span ∈ spans, Trimmed (textOf span)) :
    splitOutside ',' (List.replicate count ' ' ++ textOf (commaJoin spans)) = spans.map textOf := by
  have hblanks : ∀ c ∈ List.replicate count ' ', isBlank c = true := by
    intro c hc
    rw [List.eq_of_mem_replicate hc]
    rfl
  have hspaces : ∀ piece ∈ ofText (List.replicate count ' '), piece = .char ' ' := by
    intro piece hpiece
    obtain ⟨c, hc, rfl⟩ := List.mem_map.mp hpiece
    rw [List.eq_of_mem_replicate hc]
  have hall : ∀ piece ∈ ofText (List.replicate count ' ') ++ commaJoin spans, piece.Regular := by
    intro piece hpiece
    rcases List.mem_append.mp hpiece with hpiece | hpiece
    · rw [hspaces piece hpiece]
      simp [Piece.Regular]
    · rcases mem_commaJoin hpiece with rfl | rfl | ⟨span, hspan, hpiece⟩
      · simp [Piece.Regular]
      · simp [Piece.Regular]
      · exact hregular span hspan piece hpiece
  have hlead : Passes ',' 0 (ofText (List.replicate count ' ')) := by
    apply Passes.of_forall
    intro piece hpiece
    rw [hspaces piece hpiece]
    exact ⟨rfl, by decide⟩
  have hsplit := splitOutside_textOf ',' _ hall
  rw [textOf_append, textOf_ofText, hlead] at hsplit
  rw [hsplit]
  cases spans with
  | nil =>
    have hempty : trimStart (List.replicate count ' ') = [] := by
      simpa [trimStart] using hblanks
    simp [commaJoin, cut, trim, hempty, trimEnd, dropEndWhile]
  | cons span spans =>
    rw [cut_commaJoin span spans hpasses]
    have hfirst := (htrimmed span List.mem_cons_self).trim_blanks_append hblanks
    have hothers : (spans.map fun other => trim (textOf (.char ' ' :: other))) =
        spans.map textOf := by
      apply List.map_congr_left
      intro other hother
      exact (htrimmed other (List.mem_cons_of_mem _ hother)).trim_space_cons
    have hkept : ∀ text ∈ (span :: spans).map textOf, (!text.isEmpty) = true := by
      intro text htext
      obtain ⟨other, hother, rfl⟩ := List.mem_map.mp htext
      simpa using (htrimmed other hother).ne_nil
    have htrims : List.map trim (textOf (ofText (List.replicate count ' ') ++ span) ::
        List.map textOf (spans.map (.char ' ' :: ·))) = (span :: spans).map textOf := by
      rw [List.map_cons, textOf_append, textOf_ofText, hfirst, List.map_map, List.map_map,
        List.map_cons, ← hothers]
      rfl
    rw [htrims]
    exact List.filter_eq_self.mpr hkept

end ForeignKeyLint.Ruby
