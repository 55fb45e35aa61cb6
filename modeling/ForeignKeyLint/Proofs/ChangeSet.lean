import ForeignKeyLint.Proofs.RawText
import ForeignKeyLint.Run
import ForeignKeyLint.World
import Mathlib.Data.List.Forall2
import Mathlib.Data.List.TakeWhile

/-!
The change set that a list of named files amounts to. It is in a canonical form: the snapshot is not
in it, no file is in it twice, each file is spelled as it was given first, and the files stand in the
order asked for. Two lists of the same files in different orders amount to the same change set, unless
the order given is to be kept.

Everything rests on the order of paths. It goes component by component, it is total, and two paths
compare equal exactly if they are equivalent. So in a sorted list of files of which no two are
equivalent the order is strict, and a strict order leaves only one list.
-/

namespace ForeignKeyLint

/-- A comparison of what a function gives is as good as the comparison it goes by. -/
theorem transCmp_on {α β : Type} (cmp : β → β → Ordering) [Std.TransCmp cmp] (f : α → β) :
    Std.TransCmp fun a b => cmp (f a) (f b) where
  eq_swap := Std.OrientedCmp.eq_swap
  isLE_trans := Std.TransCmp.isLE_trans

/-- Two lists in strict order whose members compare equal to members of the other list are the same,
as far as the comparison sees. -/
theorem forall₂_of_pairwise_lt {α : Type} {cmp : α → α → Ordering} [Std.TransCmp cmp]
    {first second : List α} (hfirst : first.Pairwise fun a b => cmp a b = .lt)
    (hsecond : second.Pairwise fun a b => cmp a b = .lt)
    (hto : ∀ a ∈ first, ∃ b ∈ second, cmp a b = .eq)
    (hfrom : ∀ b ∈ second, ∃ a ∈ first, cmp a b = .eq) :
    List.Forall₂ (fun a b => cmp a b = .eq) first second := by
  induction first generalizing second with
  | nil =>
    cases second with
    | nil => exact .nil
    | cons b second =>
      obtain ⟨a, ha, -⟩ := hfrom b List.mem_cons_self
      cases ha
  | cons a first ih =>
    cases second with
    | nil =>
      obtain ⟨b, hb, -⟩ := hto a List.mem_cons_self
      cases hb
    | cons b second =>
      obtain ⟨hafter, hfirst⟩ := List.pairwise_cons.mp hfirst
      obtain ⟨hbefore, hsecond⟩ := List.pairwise_cons.mp hsecond
      -- Each first element compares equal to some element of the other list. If that were a later
      -- one, each of the two would stand before the other.
      have heq : cmp a b = .eq := by
        obtain ⟨other, hother, hab⟩ := hto a List.mem_cons_self
        obtain ⟨back, hback, hba⟩ := hfrom b List.mem_cons_self
        rcases List.mem_cons.mp hother with rfl | hother
        · exact hab
        rcases List.mem_cons.mp hback with rfl | hback
        · exact hba
        have hlt : cmp b a = .lt :=
          Std.TransCmp.lt_of_lt_of_eq (hbefore other hother) (Std.OrientedCmp.eq_symm hab)
        have hgt : cmp a b = .lt := Std.TransCmp.lt_of_lt_of_eq (hafter back hback) hba
        exact absurd hgt (Std.OrientedCmp.not_lt_of_lt hlt)
      refine .cons heq (ih hfirst hsecond ?_ ?_)
      · intro later hlater
        obtain ⟨other, hother, hequal⟩ := hto later (List.mem_cons_of_mem _ hlater)
        rcases List.mem_cons.mp hother with rfl | hother
        · have hlt := Std.TransCmp.lt_of_lt_of_eq (hafter later hlater) hequal
          rw [heq] at hlt
          cases hlt
        · exact ⟨other, hother, hequal⟩
      · intro later hlater
        obtain ⟨other, hother, hequal⟩ := hfrom later (List.mem_cons_of_mem _ hlater)
        rcases List.mem_cons.mp hother with rfl | hother
        · have hlt := Std.TransCmp.lt_of_eq_of_lt heq (hbefore later hlater)
          rw [hequal] at hlt
          cases hlt
        · exact ⟨other, hother, hequal⟩

namespace Component

/-- The bytes of the name of a component that has one. -/
def nameBytes : Component → List UInt8
  | .named name => name.bytes
  | _ => []

theorem compare_eq_compareLex :
    compare = compareLex (compareOn rank) (compareOn nameBytes) := by
  funext a b
  cases a <;> cases b <;> rfl

theorem eq_of_rank_of_nameBytes {a b : Component} (hrank : a.rank = b.rank)
    (hname : a.nameBytes = b.nameBytes) : a = b := by
  cases a <;> cases b <;> simp_all [rank, nameBytes, RawText.ext_iff]

instance : Std.TransCmp compare :=
  compare_eq_compareLex ▸ inferInstance

instance : Std.LawfulEqCmp compare where
  compare_self := Std.ReflCmp.compare_self
  eq_of_compare {a b} h := by
    rw [compare_eq_compareLex] at h
    obtain ⟨hrank, hname⟩ := Ordering.then_eq_eq.mp h
    exact eq_of_rank_of_nameBytes (Std.LawfulEqOrd.eq_of_compare hrank)
      (Std.LawfulEqOrd.eq_of_compare hname)

end Component

namespace Path

/-- Lists of components are ordered as words are. -/
theorem compareComponents_eq_compareLex :
    compareComponents = List.compareLex Component.compare := by
  funext first second
  induction first generalizing second with
  | nil => cases second <;> rfl
  | cons a first ih =>
    cases second with
    | nil => rfl
    | cons b second =>
      rw [compareComponents, List.compareLex_cons_cons, ih]

instance : Std.TransCmp compareComponents :=
  compareComponents_eq_compareLex ▸ inferInstance

instance : Std.LawfulEqCmp compareComponents :=
  compareComponents_eq_compareLex ▸ inferInstance

instance : Std.TransCmp compare :=
  transCmp_on compareComponents components

theorem equivalent_iff (a b : Path) : a.equivalent b = true ↔ a.components = b.components :=
  beq_iff_eq

theorem equivalent_symm {a b : Path} (h : a.equivalent b = true) : b.equivalent a = true := by
  rw [equivalent_iff] at h ⊢
  exact h.symm

theorem equivalent_comm (a b : Path) : a.equivalent b = b.equivalent a := by
  rw [Bool.eq_iff_iff]
  exact ⟨equivalent_symm, equivalent_symm⟩

/-- Equivalent paths are equivalent to the same paths. -/
theorem equivalent_congr {a b : Path} (h : a.equivalent b = true) (other : Path) :
    other.equivalent a = other.equivalent b := by
  rw [equivalent_iff] at h
  rw [equivalent, equivalent, h]

/-- Paths compare equal if they have the same components, and only then. -/
theorem compare_eq_iff (a b : Path) : a.compare b = .eq ↔ a.equivalent b = true := by
  rw [equivalent_iff, compare]
  constructor
  · exact Std.LawfulEqCmp.eq_of_compare
  · intro h
    rw [h]
    exact Std.ReflCmp.compare_self

end Path

namespace ChangeSet

/-- The text starts with digits that stand for the number, and no digit follows them. -/
def StartsWithNumber (text : String) (number : Nat) : Prop :=
  ∃ digits rest, text.toList = digits ++ rest ∧ digits ≠ [] ∧ (∀ c ∈ digits, c.isDigit = true) ∧
    (∀ c ∈ rest.head?, c.isDigit = false) ∧ Nat.ofDigitChars 10 digits 0 = number

/-- The digits in front are those that the text starts with. -/
theorem takeWhile_isDigit {digits rest : List Char} (hdigits : ∀ c ∈ digits, c.isDigit = true)
    (hrest : ∀ c ∈ rest.head?, c.isDigit = false) : (digits ++ rest).takeWhile Char.isDigit = digits := by
  rw [List.takeWhile_append_of_pos hdigits]
  cases rest with
  | nil => simp
  | cons c rest => simp [hrest c rfl]

theorem leadingNumber?_eq_some_iff (text : String) (number : Nat) :
    leadingNumber? text = some number ↔ StartsWithNumber text number ∧ number < 2 ^ 64 := by
  simp only [leadingNumber?, Option.ite_none_left_eq_some, not_or, Option.some.injEq]
  constructor
  · rintro ⟨⟨hdigits, hlimit⟩, rfl⟩
    refine ⟨⟨_, _, List.takeWhile_append_dropWhile.symm, by simpa using hdigits, ?_, ?_, rfl⟩,
      Nat.lt_of_not_le hlimit⟩
    · exact fun c hc => List.mem_takeWhile_imp hc
    · intro c hc
      have hnot := List.head?_dropWhile_not Char.isDigit text.toList
      rw [Option.mem_def.mp hc] at hnot
      simpa using hnot
  · rintro ⟨⟨digits, rest, htext, hne, hdigits, hrest, rfl⟩, hlimit⟩
    rw [htext, takeWhile_isDigit hdigits hrest]
    exact ⟨⟨by simpa using hne, Nat.not_le_of_lt hlimit⟩, rfl⟩

/-- The timestamp of a file is the number that its name starts with. Only a name that is text has one. -/
theorem timestamp?_eq_some_iff (file : Path) (time : Nat) :
    timestamp? file = some time ↔
      ∃ name : String, file.fileName? = some (.ofText name) ∧ StartsWithNumber name time ∧ time < 2 ^ 64 := by
  rw [timestamp?, Path.fileText?, Option.bind_assoc]
  simp only [Option.bind_eq_some_iff, RawText.text?_eq_some_iff, leadingNumber?_eq_some_iff]
  constructor
  · rintro ⟨raw, hraw, name, rfl, hnumber⟩
    exact ⟨name, hraw, hnumber⟩
  · rintro ⟨name, hname, hnumber⟩
    exact ⟨.ofText name, hname, name, rfl, hnumber⟩

/-- Files without a timestamp come last. -/
theorem compareTimestamps_eq_compareLex :
    compareTimestamps = compareLex (compareOn Option.isNone) (compareOn fun time => time.getD 0) := by
  funext a b
  cases a <;> cases b <;> rfl

instance : Std.TransCmp compareTimestamps :=
  compareTimestamps_eq_compareLex ▸ inferInstance

/-- Equivalent spellings of a file have the same timestamp. -/
theorem timestamp?_congr {a b : Path} (h : a.equivalent b = true) :
    timestamp? a = timestamp? b := by
  rw [Path.equivalent_iff] at h
  rw [timestamp?, timestamp?, Path.fileText?, Path.fileText?, Path.fileName?, Path.fileName?, h]

/-- Compares files by the number their name starts with. -/
def compareTimes (a b : Path) : Ordering :=
  compareTimestamps (timestamp? a) (timestamp? b)

instance : Std.TransCmp compareTimes :=
  transCmp_on compareTimestamps timestamp?

/-- The comparison that an order sorts by. The order given sorts by nothing. -/
def compareIn : FileOrder → Path → Path → Ordering
  | .lexical => Path.compare
  | .timestamp => compareLex compareTimes Path.compare
  | .given => fun _ _ => .eq

instance (order : FileOrder) : Std.TransCmp (compareIn order) :=
  match order with
  | .lexical => inferInstanceAs (Std.TransCmp Path.compare)
  | .timestamp => inferInstanceAs (Std.TransCmp (compareLex compareTimes Path.compare))
  | .given => { eq_swap := rfl, isLE_trans := fun _ _ => rfl }

theorem compareIn_eq_iff {order : FileOrder} (h : order ≠ .given) (a b : Path) :
    compareIn order a b = .eq ↔ a.equivalent b = true := by
  cases order with
  | lexical => exact Path.compare_eq_iff a b
  | timestamp =>
    rw [compareIn, compareLex, Ordering.then_eq_eq, Path.compare_eq_iff]
    constructor
    · exact And.right
    · intro hequivalent
      rw [compareTimes, timestamp?_congr hequivalent]
      exact ⟨Std.ReflCmp.compare_self, hequivalent⟩
  | given => exact absurd rfl h

theorem arrange_eq_mergeSort {order : FileOrder} (h : order ≠ .given) (files : List Path) :
    arrange order files = files.mergeSort fun a b => (compareIn order a b).isLE := by
  cases order with
  | lexical => rfl
  | timestamp => rfl
  | given => exact absurd rfl h

theorem perm_arrange (order : FileOrder) (files : List Path) :
    (arrange order files).Perm files := by
  cases order with
  | lexical => exact List.mergeSort_perm _ _
  | timestamp => exact List.mergeSort_perm _ _
  | given => exact .refl _

/-- Sorting leaves the order strict, because no two files are equivalent. -/
theorem pairwise_arrange {order : FileOrder} (h : order ≠ .given) {files : List Path}
    (hdistinct : files.Pairwise fun a b => a.equivalent b = false) :
    (arrange order files).Pairwise fun a b => compareIn order a b = .lt := by
  have hsorted : (arrange order files).Pairwise fun a b => (compareIn order a b).isLE = true := by
    rw [arrange_eq_mergeSort h]
    apply List.pairwise_mergeSort
    · intro a b c
      exact Std.TransCmp.isLE_trans
    · intro a b
      have hswap : compareIn order b a = (compareIn order a b).swap := Std.OrientedCmp.eq_swap
      rw [hswap]
      cases compareIn order a b <;> rfl
  have hapart : (arrange order files).Pairwise fun a b => a.equivalent b = false := by
    refine (List.Perm.pairwise_iff ?_ (perm_arrange order files)).mpr hdistinct
    intro a b hab
    rw [Path.equivalent_comm, hab]
  refine hsorted.imp₂ ?_ hapart
  intro a b hle hab
  refine (Ordering.isLE_iff_eq_lt_or_eq_eq.mp hle).resolve_right fun heq => ?_
  rw [(compareIn_eq_iff h a b).mp heq] at hab
  cases hab

theorem distinct_sublist (files : List Path) : (distinct files).Sublist files := by
  induction files with
  | nil => exact .slnil
  | cons file others ih => exact .cons_cons file (List.filter_sublist.trans ih)

theorem pairwise_distinct (files : List Path) :
    (distinct files).Pairwise fun a b => a.equivalent b = false := by
  induction files with
  | nil => exact .nil
  | cons file others ih =>
    refine .cons ?_ (ih.filter _)
    intro other hother
    have hnot := List.of_mem_filter hother
    rw [Path.equivalent_comm]
    simpa using hnot

/-- A file stays if no equivalent spelling stands before it. -/
theorem mem_distinct_iff (files : List Path) (file : Path) :
    file ∈ distinct files ↔ files.find? (fun given => given.equivalent file) = some file := by
  induction files with
  | nil => simp [distinct]
  | cons first others ih =>
    rw [distinct, List.mem_cons, List.mem_filter, ih, List.find?_cons]
    cases hfirst : first.equivalent file with
    | true =>
      have hback := Path.equivalent_symm hfirst
      simp [hback, eq_comm]
    | false =>
      have hne : file ≠ first := by
        rintro rfl
        simp [Path.equivalent] at hfirst
      rw [Path.equivalent_comm] at hfirst
      simp [hfirst, hne]

/-- The place of the first spelling of a file in a list. -/
def firstPlace (files : List Path) (file : Path) : Nat :=
  files.findIdx fun given => given.equivalent file

/-- Files that some test keeps or drops with all their spellings stay in the order of their first
places. -/
theorem pairwise_firstPlace {keep : Path → Bool}
    (hkeep : ∀ a b : Path, a.equivalent b = true → keep a = keep b) (files : List Path) :
    (distinct (files.filter keep)).Pairwise fun a b => firstPlace files a < firstPlace files b := by
  induction files with
  | nil => exact .nil
  | cons first others ih =>
    have hlater {a b : Path} (ha : first.equivalent a = false) (hb : first.equivalent b = false)
        (hab : firstPlace others a < firstPlace others b) :
        firstPlace (first :: others) a < firstPlace (first :: others) b := by
      simpa [firstPlace, List.findIdx_cons, ha, hb] using hab
    cases hfirst : keep first with
    | false =>
      rw [List.filter_cons_of_neg (by simp [hfirst])]
      refine ih.imp_of_mem ?_
      intro a b ha hb hab
      have hunlike {file : Path} (hfile : file ∈ distinct (others.filter keep)) :
          first.equivalent file = false := by
        have hkept := List.of_mem_filter ((distinct_sublist _).subset hfile)
        cases hsame : first.equivalent file with
        | false => rfl
        | true => rw [← hkeep first file hsame, hfirst] at hkept; cases hkept
      exact hlater (hunlike ha) (hunlike hb) hab
    | true =>
      rw [List.filter_cons_of_pos hfirst, distinct]
      have hunlike {file : Path} (hfile : file ∈ (distinct (others.filter keep)).filter
          fun other => !other.equivalent first) : first.equivalent file = false := by
        have hnot := List.of_mem_filter hfile
        rw [Path.equivalent_comm]
        simpa using hnot
      refine .cons ?_ ((ih.filter _).imp_of_mem fun ha hb => hlater (hunlike ha) (hunlike hb))
      intro file hfile
      have hself : first.equivalent first = true := (Path.equivalent_iff _ _).mpr rfl
      simp [firstPlace, List.findIdx_cons, hself, hunlike hfile]

/-- A file is settled on if it is not the snapshot and is spelled as it was given first. -/
theorem mem_settle_iff (config : Config) (files : List Path) (file : Path) :
    file ∈ settle config files ↔ file.equivalent config.schemaPath = false ∧
      files.find? (fun given => given.equivalent file) = some file := by
  rw [settle, (perm_arrange _ _).mem_iff]
  have hcongr (hfile : file.equivalent config.schemaPath = false) :
      (files.filter fun other => !other.equivalent config.schemaPath).find?
        (fun given => given.equivalent file) = files.find? fun given => given.equivalent file := by
    rw [List.find?_filter]
    congr 1
    funext given
    cases hgiven : given.equivalent file with
    | false => simp
    | true =>
      have hschema : given.equivalent config.schemaPath = false := by
        rw [Path.equivalent_comm, Path.equivalent_congr hgiven, Path.equivalent_comm, hfile]
      simp [hschema]
  constructor
  · intro hmem
    have hfile : file.equivalent config.schemaPath = false := by
      simpa using List.of_mem_filter ((distinct_sublist _).subset hmem)
    exact ⟨hfile, (hcongr hfile).symm.trans ((mem_distinct_iff _ _).mp hmem)⟩
  · rintro ⟨hfile, hfirst⟩
    exact (mem_distinct_iff _ _).mpr ((hcongr hfile).trans hfirst)

/-- Every file that is not the snapshot is settled on in some spelling. -/
theorem exists_mem_settle {config : Config} {files : List Path} {file : Path} (hfile : file ∈ files)
    (hschema : file.equivalent config.schemaPath = false) :
    ∃ listed ∈ settle config files, listed.equivalent file = true := by
  have hself : file.equivalent file = true := (Path.equivalent_iff _ _).mpr rfl
  have hsome : (files.find? fun given => given.equivalent file).isSome = true :=
    List.find?_isSome.mpr ⟨file, hfile, hself⟩
  obtain ⟨listed, hlisted⟩ := Option.isSome_iff_exists.mp hsome
  have hsame : listed.equivalent file = true := by simpa using List.find?_some hlisted
  refine ⟨listed, (mem_settle_iff _ _ _).mpr ⟨?_, ?_⟩, hsame⟩
  · rw [Path.equivalent_comm, Path.equivalent_congr hsame, Path.equivalent_comm, hschema]
  · simp only [Path.equivalent_congr hsame, hlisted]

/-- The first file comes before the second in the order asked for. -/
def Precedes (order : FileOrder) (files : List Path) (first second : Path) : Prop :=
  match order with
  | .lexical => first.compare second = .lt
  | .timestamp =>
    match timestamp? first, timestamp? second with
    | some time, some other => time < other ∨ (time = other ∧ first.compare second = .lt)
    | some _, none => True
    | none, some _ => False
    | none, none => first.compare second = .lt
  | .given => firstPlace files first < firstPlace files second

theorem precedes_of_compareIn_lt {order : FileOrder} (h : order ≠ .given) (files : List Path)
    {first second : Path} (hlt : compareIn order first second = .lt) :
    Precedes order files first second := by
  cases order with
  | lexical => exact hlt
  | timestamp =>
    have hcases := Ordering.then_eq_lt.mp hlt
    rw [compareTimes] at hcases
    unfold Precedes
    cases hfirst : timestamp? first with
    | none =>
      cases hsecond : timestamp? second <;> simp_all [compareTimestamps]
    | some time =>
      cases hsecond : timestamp? second <;> simp_all [compareTimestamps, Nat.compare_eq_lt]
  | given => exact absurd rfl h

/-- The list that some files amount to: the snapshot is not in it and no file twice, every other file
is in it, spelled as it was given first, and the order is the one asked for. -/
structure Canonical (config : Config) (files settled : List Path) : Prop where
  noSchema : ∀ file ∈ settled, file.equivalent config.schemaPath = false
  noRepeat : settled.Pairwise fun a b => a.equivalent b = false
  complete : ∀ file ∈ files, file.equivalent config.schemaPath = false →
    ∃ listed ∈ settled, listed.equivalent file = true
  firstSpelling : ∀ file ∈ settled,
    files.find? (fun given => given.equivalent file) = some file
  ordered : settled.Pairwise (Precedes config.fileOrder files)

theorem canonical_settle (config : Config) (files : List Path) :
    Canonical config files (settle config files) := by
  have hpairwise := pairwise_distinct (files.filter fun file => !file.equivalent config.schemaPath)
  constructor
  · exact fun file hfile => ((mem_settle_iff _ _ _).mp hfile).1
  · refine (List.Perm.pairwise_iff ?_ (perm_arrange _ _)).mpr hpairwise
    intro a b hab
    rw [Path.equivalent_comm, hab]
  · exact fun file => exists_mem_settle
  · exact fun file hfile => ((mem_settle_iff _ _ _).mp hfile).2
  · rw [settle]
    by_cases horder : config.fileOrder = .given
    · rw [horder]
      apply pairwise_firstPlace
      intro a b hab
      rw [Path.equivalent_comm a, Path.equivalent_congr hab, Path.equivalent_comm b]
    · exact (pairwise_arrange horder hpairwise).imp (precedes_of_compareIn_lt horder files)

/-- A list sorted by name or by time does not tell in which order the files were given. -/
theorem forall₂_settle_of_perm {config : Config} (h : config.fileOrder ≠ .given)
    {files reordered : List Path} (hperm : files.Perm reordered) :
    List.Forall₂ (fun a b => a.equivalent b = true) (settle config files)
      (settle config reordered) := by
  have hstrict (files : List Path) :
      (settle config files).Pairwise fun a b => compareIn config.fileOrder a b = .lt :=
    pairwise_arrange h (pairwise_distinct _)
  have hfound {files others : List Path} (hsub : files ⊆ others) {file : Path}
      (hfile : file ∈ settle config files) :
      ∃ listed ∈ settle config others, listed.equivalent file = true := by
    obtain ⟨hschema, hfirst⟩ := (mem_settle_iff _ _ _).mp hfile
    exact exists_mem_settle (hsub (List.mem_of_find?_eq_some hfirst)) hschema
  have hsame : List.Forall₂ (fun a b => compareIn config.fileOrder a b = .eq)
      (settle config files) (settle config reordered) := by
    apply forall₂_of_pairwise_lt (hstrict files) (hstrict reordered)
    · intro a ha
      obtain ⟨b, hb, hequivalent⟩ := hfound hperm.subset ha
      exact ⟨b, hb, (compareIn_eq_iff h a b).mpr (Path.equivalent_symm hequivalent)⟩
    · intro b hb
      obtain ⟨a, ha, hequivalent⟩ := hfound hperm.symm.subset hb
      exact ⟨a, ha, (compareIn_eq_iff h a b).mpr hequivalent⟩
  exact hsame.imp fun a b => (compareIn_eq_iff h a b).mp

theorem discover_eq_settle {m : Type → Type} [Monad m] [LawfulMonad m] (host : Host m) (config : Config)
    (files : List Path) :
    Run.discover host config (.explicit files) = pure (.ok (settle config files)) := by
  rw [Run.discover, Run.gather, pure_bind]
  rfl

/-- Named files are taken as they are, whatever the host says. Their change set is in a canonical form, and
sorted by name or by time it is the same in whatever order they were given. The time of a file is the number
that its name starts with, if the name is text. -/
theorem discover_explicit {m : Type → Type} [Monad m] [LawfulMonad m] (host : Host m) (config : Config)
    (files : List Path) :
    (∀ base, files ≠ [] → ChangeSource.choose files base = .explicit files) ∧
    (∀ given, Run.discover host config (.explicit given) = pure (.ok (settle config given))) ∧
    Canonical config files (settle config files) ∧
    (config.fileOrder ≠ .given → ∀ reordered, files.Perm reordered →
      List.Forall₂ (fun a b => a.equivalent b = true) (settle config files)
        (settle config reordered)) ∧
    ∀ (file : Path) (time : Nat), timestamp? file = some time ↔
      ∃ name : String, file.fileName? = some (.ofText name) ∧ StartsWithNumber name time ∧ time < 2 ^ 64 := by
  refine ⟨?_, discover_eq_settle host config, canonical_settle config files,
    fun h _ => forall₂_settle_of_perm h, timestamp?_eq_some_iff⟩
  intro base hfiles
  unfold ChangeSource.choose
  rw [if_neg (by simpa using hfiles)]

/-- A name that starts with a number and is not text. -/
def brokenName : Path :=
  ⟨⟨Text.bytes "1" ++ 0xFF :: Text.bytes ".rb"⟩⟩

/-- Files in several spellings, with the snapshot, a file without a number, one whose number is out of range
and one whose name is not text. -/
def namedFiles : List Path :=
  [brokenName, ⟨"notes.rb"⟩, ⟨"db//migrate/10_b.rb"⟩, ⟨"db/schema.rb/"⟩, ⟨"./9_a.rb"⟩,
    ⟨"18446744073709551616_c.rb"⟩, ⟨"9_a.rb"⟩, ⟨"db/migrate/./10_b.rb"⟩]

/-- The order in which these files are given tells in the spelling of one of them, and in nothing
else. The name that is not text has no timestamp. -/
theorem discover_namedFiles :
    let host := World.host { tree := { entries := [], workingDirectory := [] } }
    let config : Config := { fileOrder := .timestamp }
    let settled := settle config namedFiles
    let reversed := settle config namedFiles.reverse
    Run.discover host config (.explicit namedFiles) = pure (.ok settled) ∧
      Canonical config namedFiles settled ∧
      List.Forall₂ (fun a b => a.equivalent b = true) settled reversed ∧
      settled.length = 6 ∧ ⟨"db//migrate/10_b.rb"⟩ ∈ settled ∧ ⟨"db/migrate/./10_b.rb"⟩ ∈ reversed ∧
      ⟨"./9_a.rb"⟩ ∈ settled ∧ ⟨"9_a.rb"⟩ ∈ settled ∧ timestamp? ⟨"9_a.rb"⟩ = some 9 ∧
      brokenName ∈ settled ∧ timestamp? brokenName = none := by
  intro host config settled reversed
  obtain ⟨-, hdiscover, hcanonical, hperm, -⟩ := discover_explicit host config namedFiles
  have hreverse := hperm (by decide) namedFiles.reverse (List.reverse_perm _).symm
  have hmem (files : List Path) (file : Path) := (mem_settle_iff config files file).mpr
  refine ⟨hdiscover namedFiles, hcanonical, hreverse, ?_, hmem _ _ ?_, hmem _ _ ?_, hmem _ _ ?_,
    hmem _ _ ?_, ?_, hmem _ _ ?_, ?_⟩
  · exact (perm_arrange _ _).length_eq.trans (by decide +kernel)
  all_goals decide +kernel

end ChangeSet

end ForeignKeyLint
