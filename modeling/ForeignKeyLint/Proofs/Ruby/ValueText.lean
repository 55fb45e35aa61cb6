import ForeignKeyLint.Proofs.Ruby.Element
import ForeignKeyLint.Proofs.Text.Search

/-!
Printed values and arguments. A symbol is printed after a colon, a string between double quotes, a
list between brackets and a hash between braces, entries after their keys. Main statement: a printed
argument is read back as itself, nested to any depth, whatever its strings hold.
-/

namespace ForeignKeyLint.Ruby

open Text

/-- A value or an entry after its key. -/
def keyedPieces (key : String) (pieces : List Piece) : List Piece :=
  ofText key.toList ++ .char ':' :: .char ' ' :: pieces

mutual

def Value.pieces : Value → List Piece
  | .symbol name => ofText (':' :: name.toList)
  | .str text => [.quoted text.toList]
  | .list items => .char '[' :: commaJoin (itemPieces items) ++ [.char ']']
  | .hash entries => .char '{' :: commaJoin (entriesPieces entries) ++ [.char '}']
  | .bool true => ofText "true".toList
  | .bool false => ofText "false".toList
  | .nil => ofText "nil".toList
  | .raw text => ofText text.toList

def itemPieces : List Value → List (List Piece)
  | [] => []
  | item :: items => item.pieces :: itemPieces items

def entriesPieces : List (String × Value) → List (List Piece)
  | [] => []
  | entry :: entries => entryPieces entry :: entriesPieces entries

def entryPieces : String × Value → List Piece
  | (key, value) => keyedPieces key value.pieces

end

theorem itemPieces_eq_map (items : List Value) : itemPieces items = items.map Value.pieces := by
  induction items with
  | nil => rfl
  | cons item items ih => rw [itemPieces, ih, List.map_cons]

theorem entriesPieces_eq_map (entries : List (String × Value)) :
    entriesPieces entries = entries.map fun entry => keyedPieces entry.1 entry.2.pieces := by
  induction entries with
  | nil => rfl
  | cons entry entries ih => rw [entriesPieces, ih, List.map_cons, entryPieces]

/-- The values a printed text can be read back to: names are identifiers, and no string holds a double
quote or a backslash. -/
inductive Value.Printable : Value → Prop
  | symbol {name : String} (hname : isIdentifier name.toList = true) : Printable (.symbol name)
  | str {text : String} (hquote : '"' ∉ text.toList) (hescape : '\\' ∉ text.toList) :
    Printable (.str text)
  | list {items : List Value} (hitems : ∀ item ∈ items, Printable item) : Printable (.list items)
  | hash {entries : List (String × Value)}
    (hkeys : ∀ entry ∈ entries, isIdentifier entry.1.toList = true)
    (hvalues : ∀ entry ∈ entries, Printable entry.2) : Printable (.hash entries)
  | bool (value : Bool) : Printable (.bool value)
  | nil : Printable .nil

theorem Value.Printable.element {value : Value} (h : value.Printable) : Element value.pieces := by
  induction h with
  | @symbol name hname =>
    obtain ⟨c, hc, hclosing⟩ := getLast?_of_isIdentifier hname
    apply Element.ofText
    · intro c hc
      rcases List.mem_cons.mp hc with rfl | hc
      · rfl
      · exact (facts_of_isNameChar (isNameChar_of_mem_identifier hname c hc)).1
    · refine ⟨c, ?_, hclosing⟩
      rw [← List.singleton_append, List.getLast?_append_of_ne_nil _ (ne_nil_of_isIdentifier hname)]
      exact hc
    · intro more
      exact .of_head (by decide) _
  | str hquote hescape => exact .quoted hquote hescape
  | @list items _ ih =>
    rw [Value.pieces, itemPieces_eq_map]
    apply Element.enclosed (by decide) (by decide)
    intro span hspan
    obtain ⟨item, hitem, rfl⟩ := List.mem_map.mp hspan
    exact ih item hitem
  | @hash entries hkeys _ ih =>
    rw [Value.pieces, entriesPieces_eq_map]
    apply Element.enclosed (by decide) (by decide)
    intro span hspan
    obtain ⟨entry, hentry, rfl⟩ := List.mem_map.mp hspan
    exact (ih entry hentry).keyed (hkeys entry hentry)
  | bool value =>
    cases value with
    | false =>
      exact .ofText (List.all_eq_true.mp rfl) ⟨'e', by decide, rfl⟩ fun _ => .of_head (by decide) _
    | true =>
      exact .ofText (List.all_eq_true.mp rfl) ⟨'e', by decide, rfl⟩ fun _ => .of_head (by decide) _
  | nil =>
    exact .ofText (List.all_eq_true.mp rfl) ⟨'l', by decide, rfl⟩ fun _ => .of_head (by decide) _

theorem exists_trim_cons {c : Char} (h : isBlank c = false) (text : List Char) :
    ∃ rest ⊆ text, trim (c :: text) = c :: rest := by
  have hstart : trimStart (c :: text) = c :: text := by simp [trimStart, h]
  have hsub : (text.reverse.dropWhile isBlank).reverse ⊆ text := by
    intro d hd
    exact List.mem_reverse.mp ((List.dropWhile_sublist _).subset (List.mem_reverse.mp hd))
  rw [trim, hstart, trimEnd, dropEndWhile, List.reverse_cons, List.dropWhile_append]
  split
  · exact ⟨[], List.nil_subset _, by simp [h]⟩
  · exact ⟨_, hsub, by simp⟩

theorem splitArrow?_eq_none {c : Char} (hblank : isBlank c = false) (hc : c ∉ [':', '"', '\''])
    (text : List Char) : splitArrow? (c :: text) = none := by
  unfold splitArrow?
  split
  · next left right hsplit =>
    have happend := eq_append_of_splitAtFirst? hsplit
    cases left with
    | nil => rfl
    | cons first left =>
      obtain rfl : c = first := by simpa using (List.cons.inj happend).1
      obtain ⟨rest, -, hrest⟩ := exists_trim_cons hblank left
      rw [hrest]
      simp only [List.mem_cons, List.not_mem_nil, or_false, not_or] at hc
      split
      · next heq => exact absurd (List.cons.inj heq).1 hc.1
      · next heq => exact absurd (List.cons.inj heq).1 hc.2.1
      · next heq => exact absurd (List.cons.inj heq).1 hc.2.2
      · rfl
  · rfl

/-- A keyword argument is divided after its key, even if its value holds an arrow or a colon. -/
theorem splitKeyword?_keyedPieces {key : String} (hkey : isIdentifier key.toList = true)
    {span : List Piece} (hspan : Trimmed (textOf span)) :
    splitKeyword? (textOf (keyedPieces key span)) = some (key, textOf span) := by
  have hname := isNameChar_of_mem_identifier hkey
  have htext : textOf (keyedPieces key span) = key.toList ++ ':' :: ' ' :: textOf span := by
    simp [keyedPieces, Piece.text]
  have harrow : splitArrow? (key.toList ++ ':' :: ' ' :: textOf span) = none := by
    cases hchars : key.toList with
    | nil => simp [hchars, isIdentifier] at hkey
    | cons c rest =>
      have hc : isNameChar c = true := hname c (by simp [hchars])
      apply splitArrow?_eq_none (facts_of_isNameChar hc).2.2
      intro hmem
      simp only [List.mem_cons, List.not_mem_nil, or_false] at hmem
      rcases hmem with rfl | rfl | rfl <;> exact absurd hc (by decide)
  have hcolon : ':' ∉ key.toList := fun hmem => absurd (hname _ hmem) (by decide)
  rw [htext, splitKeyword?, harrow]
  simp only [splitAtFirst?_char hcolon, hkey, hspan.trim_space_cons,
    String.ofList_toList]
  simp [beginsWith]

theorem isIdentifier_eq_false_of_head {c : Char} (hc : (c.isAlpha || c == '_') = false)
    (text : List Char) : isIdentifier (c :: text) = false := by
  simp [isIdentifier, hc]

/-- A text that begins like no key has none before its first colon. -/
theorem splitKeyword?_eq_none {c : Char} (hc : (c.isAlpha || c == '_') = false) {text : List Char}
    (harrow : splitArrow? (c :: text) = none) : splitKeyword? (c :: text) = none := by
  rw [splitKeyword?, harrow]
  dsimp only
  split
  · next key after hsplit =>
    have happend := eq_append_of_splitAtFirst? hsplit
    have hkey : isIdentifier key = false := by
      cases key with
      | nil => rfl
      | cons first key =>
        obtain rfl : c = first := by simpa using (List.cons.inj happend).1
        exact isIdentifier_eq_false_of_head hc key
    simp [hkey]
  · rfl

theorem eq_trim_of_splitArrow? {text left right : List Char}
    (h : splitArrow? text = some (left, right)) :
    ∃ before after, text = before ++ "=>".toList ++ after ∧ left = trim before := by
  unfold splitArrow? at h
  split at h
  · next before after hsplit =>
    refine ⟨before, after, eq_append_of_splitAtFirst? hsplit, ?_⟩
    split at h <;> simp_all
  · simp at h

theorem readName?_quote_cons {text : List Char} (h : '"' ∉ text) :
    readName? ('"' :: text) = none := by
  have hlast : text.getLast? ≠ some '"' := fun hlast => h (List.mem_of_getLast? hlast)
  have hunquote : unquote? ('"' :: text) = none := by simp [unquote?, hlast]
  simp [readName?, hunquote]

/-- The part of a string before an arrow is no string. -/
theorem splitKeyword?_quoted {content : List Char} (hquote : '"' ∉ content) :
    splitKeyword? ('"' :: content ++ ['"']) = none := by
  cases harrow : splitArrow? ('"' :: content ++ ['"']) with
  | none => exact splitKeyword?_eq_none rfl harrow
  | some sides =>
    obtain ⟨left, right⟩ := sides
    obtain ⟨before, after, htext, rfl⟩ := eq_trim_of_splitArrow? harrow
    have hname : readName? (trim before) = none := by
      cases before with
      | nil => simp at htext
      | cons first before =>
        simp only [List.cons_append, List.append_assoc, List.cons.injEq] at htext
        obtain ⟨rfl, hcontent⟩ := htext
        have hopen : '"' ∉ before := by
          rcases List.append_eq_append_iff.mp hcontent with ⟨middle, -, hlast⟩ | ⟨middle, rfl, -⟩
          · have hlength := congrArg List.length hlast
            simp only [List.length_append, String.length_toList, List.length_singleton] at hlength
            have harrowLength : "=>".length = 2 := rfl
            omega
          · exact fun hmem => hquote (List.mem_append_left _ hmem)
        obtain ⟨rest, hrest, htrim⟩ := exists_trim_cons (c := '"') rfl before
        rw [htrim]
        exact readName?_quote_cons fun hmem => hopen (hrest hmem)
    rw [splitKeyword?, harrow]
    simp [hname]

/-- A printed value is no keyword argument. -/
theorem Value.Printable.splitKeyword?_eq_none {value : Value} (h : value.Printable) :
    splitKeyword? (textOf value.pieces) = none := by
  cases h with
  | @symbol name hname =>
    have hchars := isNameChar_of_mem_identifier hname
    have hequals : '=' ∉ ':' :: name.toList := by
      intro hmem
      rcases List.mem_cons.mp hmem with hmem | hmem
      · simp at hmem
      · exact absurd (hchars _ hmem) (by decide)
    have hfirst : splitAtFirst? "=>".toList (':' :: name.toList) = none :=
      splitAtFirst?_eq_none hequals
    have harrow : splitArrow? (':' :: name.toList) = none := by rw [splitArrow?, hfirst]
    rw [Value.pieces, textOf_ofText]
    exact Ruby.splitKeyword?_eq_none rfl harrow
  | @str text hquote _ =>
    rw [Value.pieces, textOf_cons, textOf_nil, List.append_nil]
    exact splitKeyword?_quoted hquote
  | list => exact Ruby.splitKeyword?_eq_none rfl (splitArrow?_eq_none rfl (by decide) _)
  | hash => exact Ruby.splitKeyword?_eq_none rfl (splitArrow?_eq_none rfl (by decide) _)
  | bool value =>
    cases value with
    | false => rfl
    | true => rfl
  | nil => rfl

theorem readName?_eq_none {c : Char} (hc : c ∉ [':', '"', '\'']) (text : List Char) :
    readName? (c :: text) = none := by
  simp only [List.mem_cons, List.not_mem_nil, or_false, not_or] at hc
  have hunquote : unquote? (c :: text) = none := by simp [unquote?, hc.2.1, hc.2.2]
  unfold readName?
  split
  · next heq => exact absurd (List.cons.inj heq).1 hc.1
  · rw [hunquote, Option.map_none]

theorem inside_cons_append (opening closing : Char) (text : List Char) :
    inside (opening :: text ++ [closing]) = text := by
  simp [inside]

theorem endsWith_append (text pattern : List Char) : endsWith pattern (text ++ pattern) = true :=
  List.isSuffixOf_iff_suffix.mpr (List.suffix_append text pattern)

theorem Value.parse_list {text : List Char} (htrim : trim text = text)
    (hname : readName? text = none)
    (hlist : beginsWith ['['] text = true ∧ endsWith [']'] text = true) :
    Value.parse text = .list ((splitOutside ',' (inside text)).map Value.parse) := by
  rw [Value.parse]
  simp only [htrim, hname, hlist]
  simp [htrim]

theorem Value.parse_hash {text : List Char} (htrim : trim text = text)
    (hname : readName? text = none) (hlist : beginsWith ['['] text = false)
    (hpercent : percentList? text = none)
    (hhash : beginsWith ['{'] text = true ∧ endsWith ['}'] text = true) :
    Value.parse text = .hash ((splitOutside ',' (inside text)).filterMap fun item =>
      (splitKeyword? item).map fun (key, value) => (key, Value.parse value)) := by
  rw [Value.parse]
  simp only [htrim, hname, hlist, hpercent, hhash]
  simp only [Bool.false_eq_true, false_and, dite_false, and_self, dite_true, htrim,
    List.filterMap_subtype, List.unattach_attach]
  congr 2
  funext item
  split <;> simp_all

theorem Value.parse_of_readName? {text : List Char} {value : Value} (htrim : trim text = text)
    (hname : readName? text = some value) : Value.parse text = value := by
  rw [Value.parse]
  simp only [htrim, hname]

theorem readName?_symbol {name : String} (h : isIdentifier name.toList = true) :
    readName? (':' :: name.toList) = some (.symbol name) := by
  have hunquote : unquote? name.toList = none := by
    cases hchars : name.toList with
    | nil => rfl
    | cons c rest =>
      have hc : isNameChar c = true := isNameChar_of_mem_identifier h c (by simp [hchars])
      have hdouble : c ≠ '"' := ne_of_test hc rfl
      have hsingle : c ≠ '\'' := ne_of_test hc rfl
      simp [unquote?, hdouble, hsingle]
  simp [readName?, hunquote, h]

theorem readName?_quoted {text : String} (h : '"' ∉ text.toList) :
    readName? ('"' :: text.toList ++ ['"']) = some (.str text) := by
  have hunquote : unquote? ('"' :: text.toList ++ ['"']) = some text.toList := by
    simp [unquote?, h]
  rw [readName?, hunquote, Option.map_some, String.ofList_toList]
  simp

theorem textOf_enclosed (opening closing : Char) (span : List Piece) :
    textOf (.char opening :: span ++ [.char closing]) = opening :: textOf span ++ [closing] := by
  simp [Piece.text]

/-- A printed value is read back. -/
theorem Value.Printable.parse_pieces {value : Value} (h : value.Printable) :
    Value.parse (textOf value.pieces) = value := by
  induction h with
  | @symbol name hname =>
    have htrim := (Value.Printable.symbol hname).element.trimmed.trim_eq
    rw [Value.pieces, textOf_ofText] at htrim ⊢
    exact Value.parse_of_readName? htrim (readName?_symbol hname)
  | @str text hquote hescape =>
    have htrim := (Value.Printable.str hquote hescape).element.trimmed.trim_eq
    rw [Value.pieces, textOf_cons, textOf_nil, List.append_nil] at htrim ⊢
    exact Value.parse_of_readName? htrim (readName?_quoted hquote)
  | @list items hitems ih =>
    have htrim := (Value.Printable.list hitems).element.trimmed.trim_eq
    have hsplit : splitOutside ',' (textOf (commaJoin (items.map Value.pieces))) =
        (items.map Value.pieces).map textOf := by
      apply Element.split_commaJoin 0
      intro span hspan
      obtain ⟨item, hitem, rfl⟩ := List.mem_map.mp hspan
      exact (hitems item hitem).element
    have hitemsBack : ((items.map Value.pieces).map textOf).map Value.parse = items := by
      rw [List.map_map, List.map_map]
      exact (List.map_congr_left fun item hitem => ih item hitem).trans (List.map_id items)
    rw [Value.pieces, itemPieces_eq_map, textOf_enclosed] at htrim ⊢
    rw [Value.parse_list htrim (readName?_eq_none (by decide) _)
      ⟨by simp [beginsWith], endsWith_append _ _⟩, inside_cons_append, hsplit, hitemsBack]
  | @hash entries hkeys hvalues ih =>
    have htrim := (Value.Printable.hash hkeys hvalues).element.trimmed.trim_eq
    have hsplit : splitOutside ',' (textOf (commaJoin
        (entries.map fun entry => keyedPieces entry.1 entry.2.pieces))) =
        (entries.map fun entry => keyedPieces entry.1 entry.2.pieces).map textOf := by
      apply Element.split_commaJoin 0
      intro span hspan
      obtain ⟨entry, hentry, rfl⟩ := List.mem_map.mp hspan
      exact (hvalues entry hentry).element.keyed (hkeys entry hentry)
    have hentriesBack : ((entries.map fun entry => keyedPieces entry.1 entry.2.pieces).map
        textOf).filterMap (fun item =>
          (splitKeyword? item).map fun (key, value) => (key, Value.parse value)) = entries := by
      have hentry : ∀ entry ∈ entries, (splitKeyword? (textOf (keyedPieces entry.1
          entry.2.pieces))).map (fun (key, value) => (key, Value.parse value)) = some entry := by
        intro entry hentry
        have htrimmed := (hvalues entry hentry).element.trimmed
        rw [splitKeyword?_keyedPieces (hkeys entry hentry) htrimmed, Option.map_some]
        exact congrArg (fun value => some (entry.1, value)) (ih entry hentry)
      rw [List.map_map, List.filterMap_map]
      exact (List.filterMap_congr hentry).trans List.filterMap_some
    rw [Value.pieces, entriesPieces_eq_map, textOf_enclosed] at htrim ⊢
    rw [Value.parse_hash htrim (readName?_eq_none (by decide) _) rfl rfl
      ⟨by simp [beginsWith], endsWith_append _ _⟩, inside_cons_append, hsplit, hentriesBack]
  | bool value =>
    cases value with
    | false =>
      rw [Value.pieces, textOf_ofText, Value.parse]
      rfl
    | true =>
      rw [Value.pieces, textOf_ofText, Value.parse]
      rfl
  | nil =>
    rw [Value.pieces, textOf_ofText, Value.parse]
    rfl

namespace Argument

def pieces : Argument → List Piece
  | .positional value => value.pieces
  | .keyword key value => keyedPieces key value.pieces

/-- The value can be read back, and the key is an identifier. -/
def Printable : Argument → Prop
  | .positional value => value.Printable
  | .keyword key value => isIdentifier key.toList = true ∧ value.Printable

theorem Printable.element {argument : Argument} (h : argument.Printable) :
    Element argument.pieces := by
  cases argument with
  | positional value => exact Value.Printable.element h
  | keyword key value => exact h.2.element.keyed h.1

/-- A printed argument is read back. -/
theorem Printable.parse_pieces {argument : Argument} (h : argument.Printable) :
    Argument.parse (textOf argument.pieces) = argument := by
  cases argument with
  | positional value =>
    have hvalue : value.Printable := h
    rw [pieces, Argument.parse, hvalue.splitKeyword?_eq_none, hvalue.parse_pieces]
  | keyword key value =>
    obtain ⟨hkey, hvalue⟩ := h
    rw [pieces, Argument.parse, splitKeyword?_keyedPieces hkey hvalue.element.trimmed]
    exact congrArg (Argument.keyword key) hvalue.parse_pieces

end Argument

end ForeignKeyLint.Ruby
