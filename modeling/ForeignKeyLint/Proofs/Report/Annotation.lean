import ForeignKeyLint.Proofs.Lint.Provenance
import ForeignKeyLint.Proofs.Migration.Position
import ForeignKeyLint.Proofs.Text.Search
import ForeignKeyLint.Report.Annotations
import Mathlib.Algebra.Ring.Nat
import Mathlib.Data.List.Chain
import Mathlib.Tactic.MkIffOfInductiveProp

/-!
Workflow commands as they are read: the name up to the first blank, the properties up to two colons side by
side, divided at commas and each at its first equals sign, and the message with its escapes undone. Main
statement: the annotations of a report are read back as its violations and diagnostics exactly if no path and
no name of a table or column holds a line feed, a comma or two colons side by side, and no name of a column
ends in a colon. Messages are escaped, so they may hold what they like, but properties are written as they
are.
-/

namespace ForeignKeyLint

open Annotation (escape escapeChar position)
open Migration Schema Text

/-- A workflow command as it is read. -/
structure WorkflowCommand where
  name : List Char
  /-- The keys with their values, in order. -/
  properties : List (List Char × List Char)
  message : List Char
deriving DecidableEq

namespace WorkflowCommand

/-- A message without its escapes. -/
def unescape : List Char → List Char
  | '%' :: '2' :: '5' :: rest => '%' :: unescape rest
  | '%' :: '0' :: 'D' :: rest => '\r' :: unescape rest
  | '%' :: '0' :: 'A' :: rest => '\n' :: unescape rest
  | c :: rest => c :: unescape rest
  | [] => []

/-- Reads properties, which are divided at commas, each at its first equals sign. -/
def readProperties? (text : List Char) : Option (List (List Char × List Char)) :=
  (splitOn ',' text).mapM (splitAtFirst? ['='])

/-- Reads a line that holds a command. -/
def readLine? (line : List Char) : Option WorkflowCommand := do
  let rest ← afterPrefix? [':', ':'] line
  let (name, rest) ← splitAtFirst? [' '] rest
  let (properties, message) ← splitAtFirst? [':', ':'] rest
  let properties ← readProperties? properties
  return { name, properties, message := unescape message }

/-- Reads a text whose lines hold a command each and end with a line feed. -/
def read? (text : List Char) : Option (List WorkflowCommand) :=
  if (splitOn '\n' text).getLast? = some [] then (splitOn '\n' text).dropLast.mapM readLine? else none

/-- A property as it is written. -/
def propertyText (property : List Char × List Char) : List Char :=
  property.1 ++ '=' :: property.2

def propertiesText (properties : List (List Char × List Char)) : List Char :=
  [','].intercalate (properties.map propertyText)

/-- The line that the command is written as. -/
def line (command : WorkflowCommand) : List Char :=
  ':' :: ':' :: (command.name ++ ' ' :: (propertiesText command.properties ++ ':' :: ':' ::
    escape command.message))

section Message

theorem unescape_cons {c : Char} (h : c ≠ '%') (rest : List Char) :
    unescape (c :: rest) = c :: unescape rest := by
  rw [unescape]
  all_goals exact fun _ hpercent => absurd hpercent h

/-- The escapes of a message can be undone. -/
theorem unescape_escape (message : List Char) : unescape (escape message) = message := by
  induction message with
  | nil => rfl
  | cons c message ih =>
    have hcons : escape (c :: message) = escapeChar c ++ escape message :=
      rfl
    rw [hcons]
    unfold escapeChar
    split
    · exact congrArg ('%' :: ·) ih
    · exact congrArg ('\r' :: ·) ih
    · exact congrArg ('\n' :: ·) ih
    · next hpercent _ _ => exact (unescape_cons hpercent _).trans (congrArg (c :: ·) ih)

/-- A message has no raw line break. -/
theorem not_mem_escape {c : Char} (hc : c = '\r' ∨ c = '\n') (message : List Char) : c ∉ escape message := by
  intro h
  obtain ⟨d, -, hd⟩ := List.mem_flatMap.mp h
  unfold escapeChar at hd
  split at hd
  case h_4 hreturn hnewline =>
    obtain rfl : c = d := List.mem_singleton.mp hd
    exact hc.elim hreturn hnewline
  all_goals
    obtain rfl | rfl := hc
    all_goals exact absurd hd (by decide)

end Message

section Colons

/-- No two colons stand side by side. -/
def SingleColons (text : List Char) : Prop :=
  text.IsChain fun first second => ¬(first = ':' ∧ second = ':')

instance (text : List Char) : Decidable (SingleColons text) :=
  inferInstanceAs (Decidable (List.IsChain _ _))

theorem singleColons_of_not_mem {text : List Char} (h : ':' ∉ text) : SingleColons text := by
  refine (List.isChain_isInfix text).imp fun first second hinfix hcolons => h ?_
  exact hcolons.1 ▸ hinfix.subset List.mem_cons_self

/-- Another character keeps the colons before it apart from those after it. -/
theorem singleColons_append_cons_iff {c : Char} (hc : c ≠ ':') (first second : List Char) :
    SingleColons (first ++ c :: second) ↔ SingleColons first ∧ SingleColons second := by
  simp [SingleColons, List.isChain_append, List.isChain_cons, hc]

theorem singleColons_append_colon_iff (text : List Char) :
    SingleColons (text ++ [':']) ↔ SingleColons text ∧ text.getLast? ≠ some ':' := by
  simp only [SingleColons, List.isChain_append, List.isChain_singleton, true_and, List.head?_cons,
    Option.mem_some_iff, forall_eq', and_true]
  refine and_congr_right fun _ => ⟨fun h hlast => h ':' hlast rfl, fun h last hlast hcolon => h (hcolon ▸ hlast)⟩

/-- The first two colons side by side stand right after `before`. -/
theorem splitAtFirst?_colons_iff (before after : List Char) :
    splitAtFirst? [':', ':'] (before ++ ':' :: ':' :: after) = some (before, after) ↔
      SingleColons (before ++ [':']) := by
  induction before with
  | nil => simp [splitAtFirst?, afterPrefix?, SingleColons]
  | cons c before ih =>
    have hrest : splitAtFirst? [':', ':'] (c :: before ++ ':' :: ':' :: after) =
          some (c :: before, after) ↔
        afterPrefix? [':', ':'] (c :: before ++ ':' :: ':' :: after) = none ∧
          splitAtFirst? [':', ':'] (before ++ ':' :: ':' :: after) = some (before, after) := by
      rw [List.cons_append, splitAtFirst?]
      split
      · next hfound => simp [hfound]
      · next hnone => simp [hnone]
    have hhere : afterPrefix? [':', ':'] (c :: before ++ ':' :: ':' :: after) = none ↔
        ∀ next ∈ (before ++ [':']).head?, ¬(c = ':' ∧ next = ':') := by
      cases before <;> simp [afterPrefix?, eq_comm]
    rw [hrest, hhere, ih, List.cons_append, SingleColons, SingleColons, List.isChain_cons]

end Colons

section Lines

theorem mapM_eq_some_iff {α β : Type} (f : α → Option β) (items : List α) (results : List β) :
    items.mapM f = some results ↔ items.map f = results.map some := by
  induction items generalizing results with
  | nil => cases results <;> simp
  | cons item items ih =>
    cases results <;> simp [List.mapM_cons, Option.bind_eq_some_iff, ih]

theorem eq_map_of_map_eq_some {α β : Type} {f : α → Option β} {g : β → α}
    (hf : ∀ item result, f item = some result → item = g result) {items : List α} {results : List β}
    (h : items.map f = results.map some) : items = results.map g := by
  induction items generalizing results with
  | nil => cases results <;> simp_all
  | cons item items ih =>
    cases results with
    | nil => simp at h
    | cons result results =>
      obtain ⟨hitem, hitems⟩ := List.cons.inj h
      rw [List.map_cons, ← hf item result hitem, ← ih hitems]

theorem splitAtFirst?_propertyText {property : List Char × List Char} (h : '=' ∉ property.1) :
    splitAtFirst? ['='] (propertyText property) = some property :=
  splitAtFirst?_char h property.2

/-- Properties are read back if no value holds a comma, and no other text is read as these properties. -/
theorem readProperties?_eq_some_iff {properties : List (List Char × List Char)} (hne : properties ≠ [])
    (hkeys : ∀ property ∈ properties, '=' ∉ property.1 ∧ ',' ∉ property.1) (text : List Char) :
    readProperties? text = some properties ↔
      text = propertiesText properties ∧ ∀ property ∈ properties, ',' ∉ property.2 := by
  rw [readProperties?, mapM_eq_some_iff]
  constructor
  · intro hread
    have hparts : splitOn ',' text = properties.map propertyText :=
      eq_map_of_map_eq_some (fun part property hproperty => by
        simpa [propertyText] using eq_append_of_splitAtFirst? hproperty) hread
    refine ⟨by rw [propertiesText, ← hparts, intercalate_splitOn], fun property hproperty hcomma => ?_⟩
    apply not_mem_of_mem_splitOn (propertyText property) (hparts ▸ List.mem_map_of_mem hproperty)
    simp [propertyText, hcomma]
  · rintro ⟨rfl, hcommas⟩
    have hparts : splitOn ',' (propertiesText properties) = properties.map propertyText := by
      refine splitOn_intercalate (fun part hpart => ?_) (by simp [hne])
      obtain ⟨property, hproperty, rfl⟩ := List.mem_map.mp hpart
      simp [propertyText, (hkeys property hproperty).2, hcommas property hproperty]
    rw [hparts, List.map_map]
    exact List.map_congr_left fun property hproperty =>
      splitAtFirst?_propertyText (hkeys property hproperty).1

/-- The name and the keys are words, and there is a property. -/
structure WellFormed (command : WorkflowCommand) : Prop where
  name : ∀ c ∈ command.name, c.isAlpha = true
  keys : ∀ property ∈ command.properties, ∀ c ∈ property.1, c.isAlpha = true
  properties_ne_nil : command.properties ≠ []

variable {command : WorkflowCommand}

/-- A written command is read back if no value holds a comma and no colons stand side by side before those
behind the properties. -/
theorem readLine?_line_iff (h : command.WellFormed) :
    readLine? command.line = some command ↔
      (∀ property ∈ command.properties, ',' ∉ property.2) ∧
        SingleColons (propertiesText command.properties ++ [':']) := by
  have hname : ' ' ∉ command.name := fun hmem => absurd (h.name ' ' hmem) (by decide)
  have hkeys : ∀ property ∈ command.properties, '=' ∉ property.1 ∧ ',' ∉ property.1 :=
    fun property hproperty => ⟨fun hmem => absurd (h.keys property hproperty '=' hmem) (by decide),
      fun hmem => absurd (h.keys property hproperty ',' hmem) (by decide)⟩
  have hread : readLine? command.line = some command ↔ ∃ before after,
      splitAtFirst? [':', ':'] (propertiesText command.properties ++ ':' :: ':' ::
        escape command.message) = some (before, after) ∧
      readProperties? before = some command.properties ∧ unescape after = command.message := by
    obtain ⟨name, properties, message⟩ := command
    simp [readLine?, line, afterPrefix?, splitAtFirst?_char hname, Option.bind_eq_some_iff]
  rw [hread, ← splitAtFirst?_colons_iff _ (escape command.message)]
  simp only [readProperties?_eq_some_iff h.properties_ne_nil hkeys]
  constructor
  · rintro ⟨before, after, hsplit, ⟨rfl, hcommas⟩, -⟩
    have hafter := eq_append_of_splitAtFirst? hsplit
    rw [List.append_assoc] at hafter
    obtain rfl : escape command.message = after := by simpa using hafter
    exact ⟨hcommas, hsplit⟩
  · rintro ⟨hcommas, hsplit⟩
    exact ⟨_, _, hsplit, ⟨rfl, hcommas⟩, unescape_escape command.message⟩

/-- Keys, commas and equals signs keep the colons of the values apart, and the last value must not end in a
colon. -/
theorem singleColons_propertiesText_iff {properties : List (List Char × List Char)} (hne : properties ≠ [])
    (hkeys : ∀ property ∈ properties, ':' ∉ property.1) :
    SingleColons (propertiesText properties ++ [':']) ↔
      (∀ property ∈ properties, SingleColons property.2) ∧
        ∀ last ∈ properties.getLast?, last.2.getLast? ≠ some ':' := by
  induction properties with
  | nil => contradiction
  | cons first others ih =>
    rw [List.forall_mem_cons] at hkeys ⊢
    have hkey : SingleColons first.1 := singleColons_of_not_mem hkeys.1
    cases others with
    | nil =>
      have htext : propertiesText [first] ++ [':'] = first.1 ++ '=' :: (first.2 ++ [':']) := by
        simp [propertiesText, propertyText]
      rw [htext, singleColons_append_cons_iff (by decide), singleColons_append_colon_iff]
      simp [hkey]
    | cons second others =>
      have htext : propertiesText (first :: second :: others) ++ [':'] =
          first.1 ++ '=' :: (first.2 ++ ',' :: (propertiesText (second :: others) ++ [':'])) := by
        simp [propertiesText, propertyText, List.intercalate_cons_cons]
      rw [htext, singleColons_append_cons_iff (by decide), singleColons_append_cons_iff (by decide),
        ih (List.cons_ne_nil _ _) hkeys.2, List.getLast?_cons_cons, and_assoc, and_iff_right hkey]

theorem newline_not_mem_propertiesText_iff {properties : List (List Char × List Char)}
    (hkeys : ∀ property ∈ properties, '\n' ∉ property.1) :
    '\n' ∉ propertiesText properties ↔ ∀ property ∈ properties, '\n' ∉ property.2 := by
  induction properties with
  | nil => simp [propertiesText]
  | cons first others ih =>
    rw [List.forall_mem_cons] at hkeys ⊢
    rw [← ih hkeys.2]
    cases others <;>
      simp [propertiesText, propertyText, List.intercalate_cons_cons, hkeys.1]

/-- The value can stand in a property as it is. -/
@[mk_iff]
structure Plain (value : List Char) : Prop where
  newline : '\n' ∉ value
  comma : ',' ∉ value
  colons : SingleColons value

instance (value : List Char) : Decidable (Plain value) :=
  decidable_of_iff _ (plain_iff value).symm

theorem plain_append_cons_iff {c : Char} (hc : c ≠ '\n' ∧ c ≠ ',' ∧ c ≠ ':') (first second : List Char) :
    Plain (first ++ c :: second) ↔ Plain first ∧ Plain second := by
  simp only [plain_iff, singleColons_append_cons_iff hc.2.2, List.mem_append, List.mem_cons, not_or,
    Ne.symm hc.1, Ne.symm hc.2.1, not_false_eq_true, true_and]
  tauto

/-- A written command takes one line and is read back exactly if its values are plain and the last of them
does not end in a colon. -/
theorem line_readable_iff (h : command.WellFormed) :
    ('\n' ∉ command.line ∧ readLine? command.line = some command) ↔
      (∀ property ∈ command.properties, Plain property.2) ∧
        ∀ last ∈ command.properties.getLast?, last.2.getLast? ≠ some ':' := by
  have hkey (c : Char) (hc : c.isAlpha = false) : ∀ property ∈ command.properties, c ∉ property.1 :=
    fun property hproperty hmem => by simp [h.keys property hproperty c hmem] at hc
  have hname : '\n' ∉ command.name := fun hmem => absurd (h.name '\n' hmem) (by decide)
  have hline : '\n' ∉ command.line ↔ '\n' ∉ propertiesText command.properties := by
    simp [line, hname, not_mem_escape (.inr rfl)]
  rw [hline, newline_not_mem_propertiesText_iff (hkey '\n' (by decide)), readLine?_line_iff h,
    singleColons_propertiesText_iff h.properties_ne_nil (hkey ':' (by decide))]
  constructor
  · rintro ⟨hnewlines, hcommas, hcolons, hlast⟩
    exact ⟨fun property hproperty => ⟨hnewlines property hproperty, hcommas property hproperty,
      hcolons property hproperty⟩, hlast⟩
  · rintro ⟨hplain, hlast⟩
    exact ⟨fun property hproperty => (hplain property hproperty).newline,
      fun property hproperty => (hplain property hproperty).comma,
      fun property hproperty => (hplain property hproperty).colons, hlast⟩

end Lines

section Output

/-- The text that commands are written as, each on a line. -/
def output (commands : List WorkflowCommand) : List Char :=
  commands.flatMap fun command => command.line ++ ['\n']

theorem count_output (commands : List WorkflowCommand) :
    (output commands).count '\n' =
      (commands.map fun command => command.line.count '\n').sum + commands.length := by
  induction commands with
  | nil => rfl
  | cons command commands ih =>
    have hcons : output (command :: commands) = command.line ++ ['\n'] ++ output commands := rfl
    rw [hcons, List.count_append, List.count_append, ih, List.map_cons, List.sum_cons, List.length_cons]
    simp only [List.count_singleton_self]
    omega

theorem splitOn_output {commands : List WorkflowCommand} (h : ∀ command ∈ commands, '\n' ∉ command.line) :
    splitOn '\n' (output commands) = commands.map line ++ [[]] := by
  induction commands with
  | nil => rfl
  | cons command commands ih =>
    obtain ⟨hfirst, hothers⟩ := List.forall_mem_cons.mp h
    have hcons : output (command :: commands) = command.line ++ '\n' :: output commands := by
      simp [output]
    rw [hcons, splitOn_append hfirst, ih hothers, List.map_cons, List.cons_append]

/-- As many commands are read as there are line feeds. -/
theorem count_of_read? {text : List Char} {commands : List WorkflowCommand}
    (h : read? text = some commands) : text.count '\n' = commands.length := by
  unfold read? at h
  split at h
  · have hlength := congrArg List.length ((mapM_eq_some_iff _ _ _).mp h)
    rwa [List.length_map, List.length_map, List.length_dropLast, length_splitOn, Nat.add_sub_cancel]
      at hlength
  · contradiction

/-- Written commands are read back exactly if each of them takes one line and is read back. -/
theorem read?_output_iff (commands : List WorkflowCommand) :
    read? (output commands) = some commands ↔
      ∀ command ∈ commands, '\n' ∉ command.line ∧ readLine? command.line = some command := by
  have hread (hlines : ∀ command ∈ commands, '\n' ∉ command.line) :
      read? (output commands) = some commands ↔
        ∀ command ∈ commands, readLine? command.line = some command := by
    rw [read?, splitOn_output hlines, if_pos List.getLast?_concat, List.dropLast_concat,
      mapM_eq_some_iff, List.map_map, List.map_inj_left]
    rfl
  constructor
  · intro h
    have hcount := count_of_read? h
    rw [count_output, Nat.add_eq_right, List.sum_eq_zero_iff_forall_eq_nat] at hcount
    have hlines : ∀ command ∈ commands, '\n' ∉ command.line := fun command hcommand =>
      List.count_eq_zero.mp (hcount _ (List.mem_map_of_mem hcommand))
    exact fun command hcommand => ⟨hlines command hcommand, (hread hlines).mp h command hcommand⟩
  · exact fun h => (hread fun command hcommand => (h command hcommand).1).mpr
      fun command hcommand => (h command hcommand).2

end Output

/-- The place of an item; line zero stands for the whole file. -/
def place (location : Location) : List (List Char × List Char) :=
  ("file".toList, location.file.text.toList) ::
    if location.line = 0 then [] else [("line".toList, (Decimal.text location.line).toList)]

/-- The command that tells of an item of a report. -/
def ofItem (name : String) (location : Location) (title message : String) : WorkflowCommand where
  name := name.toList
  properties := place location ++ [("title".toList, title.toList)]
  message := message.toList

def ofViolation (violation : Lint.Violation) : WorkflowCommand :=
  ofItem "error" violation.location ("Missing index on " ++ violation.table ++ "." ++ violation.column)
    violation.text

def ofDiagnostic (diagnostic : Diagnostic) : WorkflowCommand :=
  ofItem "warning" diagnostic.location diagnostic.kind.name diagnostic.message

section Items

theorem line_ofItem (name : String) (location : Location) (title message : String) :
    ( Annotation.line name (position location) title message).toList =
      (ofItem name location title message).line ++ ['\n'] := by
  unfold Annotation.line position ofItem line place propertiesText
  dsimp only
  split <;> simp [propertyText, List.intercalate_cons_cons]

theorem forall_property_ofItem_iff (p : List Char × List Char → Prop) (name : String)
    (location : Location) (title message : String) :
    (∀ property ∈ (ofItem name location title message).properties, p property) ↔
      p ("file".toList, location.file.text.toList) ∧
        (location.line ≠ 0 → p ("line".toList, (Decimal.text location.line).toList)) ∧
        p ("title".toList, title.toList) := by
  unfold ofItem place
  dsimp only
  split <;> simp_all

theorem wellFormed_ofItem {name : String} (hname : ∀ c ∈ name.toList, c.isAlpha = true)
    (location : Location) (title message : String) :
    (ofItem name location title message).WellFormed where
  name := hname
  keys := (forall_property_ofItem_iff _ _ _ _ _).mpr ⟨List.all_eq_true.mp rfl,
    fun _ => List.all_eq_true.mp rfl, List.all_eq_true.mp rfl⟩
  properties_ne_nil := by simp [ofItem]

theorem plain_digits (number : Nat) : Plain (Decimal.text number).toList := by
  have hdigits : ∀ c ∈ (Decimal.text number).toList, c.isDigit = true := by
    intro c hc
    rw [Decimal.text, String.toList_ofList] at hc
    exact Nat.isDigit_of_mem_toDigits (by decide) (by decide) hc
  have hnone (c : Char) (hc : c.isDigit = false) : c ∉ (Decimal.text number).toList :=
    fun hmem => by simp [hdigits c hmem] at hc
  exact ⟨hnone '\n' (by decide), hnone ',' (by decide), singleColons_of_not_mem (hnone ':' (by decide))⟩

/-- An item is read back exactly if its path and its title are plain and the title does not end in a colon. -/
theorem item_readable_iff {name : String} (hname : ∀ c ∈ name.toList, c.isAlpha = true)
    (location : Location) (title message : String) :
    ('\n' ∉ (ofItem name location title message).line ∧
      readLine? (ofItem name location title message).line = some (ofItem name location title message)) ↔
    Plain location.file.text.toList ∧ Plain title.toList ∧ title.toList.getLast? ≠ some ':' := by
  have hlast : (ofItem name location title message).properties.getLast? =
      some ("title".toList, title.toList) := List.getLast?_concat
  rw [line_readable_iff (wellFormed_ofItem hname _ _ _),
    forall_property_ofItem_iff (fun property => Plain property.2), hlast]
  simp [plain_digits, and_assoc]

theorem title_ofViolation_iff (table column : String) :
    let title := "Missing index on " ++ table ++ "." ++ column
    (Plain title.toList ∧ title.toList.getLast? ≠ some ':') ↔
      Plain table.toList ∧ Plain column.toList ∧ column.toList.getLast? ≠ some ':' := by
  intro title
  have htitle : title.toList =
      "Missing index on".toList ++ ' ' :: (table.toList ++ '.' :: column.toList) := by
    simp [title]
  have hlast : title.toList.getLast? ≠ some ':' ↔ column.toList.getLast? ≠ some ':' := by
    rw [htitle]
    cases h : column.toList.getLast? <;> simp_all [List.getLast?_append, List.getLast?_cons]
  have hlead : Plain "Missing index on".toList := by decide
  rw [hlast, htitle, plain_append_cons_iff (by decide), plain_append_cons_iff (by decide),
    and_iff_right hlead, and_assoc]

theorem title_ofDiagnostic (kind : DiagnosticKind) :
    Plain kind.name.toList ∧ kind.name.toList.getLast? ≠ some ':' := by
  cases kind <;> exact ⟨by decide, by decide⟩

end Items

end WorkflowCommand

namespace Report

open WorkflowCommand

/-- The commands that tell of the items of a report, the violations first. -/
def commands (report : Report) : List WorkflowCommand :=
  report.verdict.violations.map ofViolation ++ report.verdict.diagnostics.map ofDiagnostic

/-- The annotations are the commands as they are written. -/
theorem annotations_eq_output {report : Report}
    (h : ∀ violation ∈ report.verdict.violations, 0 < violation.location.line) :
    report.annotations.toList = output report.commands := by
  have hviolation : ∀ violation ∈ report.verdict.violations,
      ( Annotation.ofViolation violation).toList = (ofViolation violation).line ++ ['\n'] := by
    intro violation hmem
    rw [ofViolation, ← line_ofItem, position, if_neg (h violation hmem).ne']
    rfl
  have hdiagnostic (diagnostic : Diagnostic) :
      ( Annotation.ofDiagnostic diagnostic).toList = (ofDiagnostic diagnostic).line ++ ['\n'] :=
    line_ofItem _ _ _ _
  rw [annotations, String.toList_join, output, commands, List.flatMap_append, List.flatMap_append,
    List.flatMap_map, List.flatMap_map, List.flatMap_map, List.flatMap_map]
  simp only [hdiagnostic]
  rw [List.flatMap_congr hviolation]

theorem location_of_mem_withInlineIndex {event added : Event}
    (h : added ∈ Snapshot.withInlineIndex event) : added.location = event.location := by
  unfold Snapshot.withInlineIndex at h
  split at h
  · rcases List.mem_cons.mp h with rfl | h
    · rfl
    · rw [List.mem_singleton.mp h]
  · rw [List.mem_singleton.mp h]

/-- The lines of violations of texts count from one. -/
theorem line_pos_of_mem_ofTexts {policy : Lint.Policy} {verbose : Bool} {snapshot : TextFile}
    {files : List TextFile} {violation : Lint.Violation}
    (h : violation ∈ (ofTexts policy verbose snapshot files).verdict.violations) :
    0 < violation.location.line := by
  obtain ⟨key, column, htraces, -, rfl⟩ := Lint.exists_entry_of_mem_violations h
  obtain ⟨before, first, after, giver, hhistory, hgiver, -, -, -, hlocation, -⟩ :=
    Lint.stemsFrom_ofEntry htraces
  rw [← hlocation]
  have hmem : giver ∈ before ++ first :: after := List.mem_append_right before hgiver
  rw [← hhistory, Lint.history, occurrences, occurrences] at hmem
  rcases List.mem_append.mp hmem with hmem | hmem
  · obtain ⟨event, hevent, rfl⟩ := List.mem_map.mp hmem
    obtain ⟨declared, hdeclared, hinline⟩ := List.mem_flatMap.mp hevent
    rw [location_of_mem_withInlineIndex hinline]
    exact line_pos_of_mem_read hdeclared
  · obtain ⟨event, hevent, rfl⟩ := List.mem_map.mp hmem
    obtain ⟨read, hread, hevent⟩ := List.mem_flatMap.mp hevent
    obtain ⟨file, -, rfl⟩ := List.mem_map.mp hread
    exact line_pos_of_mem_read hevent

/-- The annotations of a report on texts are read back as its items exactly if no path and no name holds a line
feed, a comma or two colons side by side, and no column ends in a colon. -/
theorem annotations_read_back_iff (policy : Lint.Policy) (verbose : Bool) (snapshot : TextFile)
    (files : List TextFile) :
    let report := ofTexts policy verbose snapshot files
    read? report.annotations.toList = some report.commands ↔
      (∀ violation ∈ report.verdict.violations, Plain violation.location.file.text.toList ∧
        Plain violation.table.toList ∧ Plain violation.column.toList ∧
        violation.column.toList.getLast? ≠ some ':') ∧
      ∀ diagnostic ∈ report.verdict.diagnostics, Plain diagnostic.location.file.text.toList := by
  intro report
  rw [annotations_eq_output fun violation => line_pos_of_mem_ofTexts, read?_output_iff, commands,
    List.forall_mem_append, List.forall_mem_map, List.forall_mem_map]
  refine and_congr (forall₂_congr fun violation _ => ?_) (forall₂_congr fun diagnostic _ => ?_)
  · exact (item_readable_iff (List.all_eq_true.mp rfl) _ _ _).trans
      (and_congr_right fun _ => title_ofViolation_iff violation.table violation.column)
  · rw [ofDiagnostic, item_readable_iff (List.all_eq_true.mp rfl),
      and_iff_left (title_ofDiagnostic diagnostic.kind)]

/-- The colons in the name of a table end the title of its annotation, and what follows is taken for the
message. -/
theorem namespacedTable_not_read_back :
    let report := ofTexts {} false { path := ⟨"db/schema.rb"⟩, text := [] }
      [{ path := ⟨"m.rb"⟩
         text := "add_column \"billing::invoices\", :account_id, :bigint\n".toList }]
    let place : Location := { file := ⟨"m.rb"⟩, line := 1 }
    report.verdict.violations = [{ table := "billing::invoices", column := "account_id", kind := .bigint
                                   location := place, firstSeen := place }] ∧
      read? report.annotations.toList ≠ some report.commands := by
  intro report place
  have hviolations : report.verdict.violations =
      [{ table := "billing::invoices", column := "account_id", kind := .bigint
         location := place, firstSeen := place }] := by
    decide +kernel
  refine ⟨hviolations, fun hread => ?_⟩
  rw [annotations_eq_output fun violation => line_pos_of_mem_ofTexts, read?_output_iff, commands,
    hviolations, List.map_singleton, List.forall_mem_append] at hread
  have htitle := ((item_readable_iff (List.all_eq_true.mp rfl) _ _ _).mp
    (hread.1 _ List.mem_cons_self)).2
  have htable := ((title_ofViolation_iff _ _).mp htitle).1.colons
  revert htable
  decide

end Report

end ForeignKeyLint
