import ForeignKeyLint.Proofs.Ruby.Comment
import ForeignKeyLint.Proofs.Text.ByteSlice

/-!
The opener of a here document by byte offsets. A reader that keeps a line and a byte offset into it cuts
the marks of an opener off one by one, each by a slice, and counts how many bytes it has consumed; it
counts a character of the terminator as one byte. Main statement: all the slices exist, and the count is
the length of the opener in bytes.
-/

namespace ForeignKeyLint.Ruby

open Text

/-- Cuts one of two marks off a text, if it begins with one. -/
def cutMark? (first second : Char) (text : List Char) : Option (List Char × List Char) :=
  match text.head? with
  | some c => if c = first ∨ c = second then (fromByte? 1 text).map ([c], ·) else some ([], text)
  | none => some ([], text)

/-- The terminator of a here document and the length of its opener in bytes, when the opener up to the
opening quote, if there is one, has been read; `consumed` leaves the quote out. -/
def terminatorIn? (quote body : List Char) (consumed : Nat) : Option (Option (List Char × Nat)) :=
  let name := body.takeWhile isTerminatorChar
  if name.head?.any fun c => c.isUpper || c == '_' then
    match quote with
    | [] => some (some (name, consumed + name.length))
    | quote :: _ => do
      let after ← fromByte? (byteLength name) body
      some (if after.head? = some quote then some (name, consumed + name.length + 2) else none)
  else some none

/-- The terminator and the length in bytes of the opener of a here document, if the text begins with one.
Its first two characters are angle signs. The outer option tells whether the slices exist. -/
def heredocOpener? (text : List Char) : Option (Option (List Char × Nat)) := do
  let rest ← fromByte? 2 text
  let (sign, rest) ← cutMark? '~' '-' rest
  let (quote, body) ← cutMark? '\'' '"' rest
  terminatorIn? quote body (2 + sign.length)

/-- The opener of a here document at byte `offset` of the line. -/
def heredocAt? (line : List Char) (offset : Nat) : Option (Option (List Char × Nat)) := do
  let here ← fromByte? offset line
  if beginsWith ['<', '<'] here then heredocOpener? here else some none

theorem fromByte?_one {c : Char} (hc : c.utf8Size = 1) (rest : List Char) :
    fromByte? 1 (c :: rest) = some rest := by
  have hrest := fromByte?_cons (fromByte?_zero (c :: rest))
  rwa [Nat.zero_add, hc] at hrest

/-- At most one character, and that in ASCII. -/
inductive IsMark : List Char → Prop where
  | none : IsMark []
  | some {c : Char} (hc : c.utf8Size = 1) : IsMark [c]

theorem IsMark.byteLength_eq {mark : List Char} (h : IsMark mark) : byteLength mark = mark.length := by
  cases h with
  | none => rfl
  | some hc => simp [byteLength, hc]

theorem isMark_splitMark {first second : Char} (hfirst : first.utf8Size = 1)
    (hsecond : second.utf8Size = 1) (text : List Char) : IsMark (splitMark first second text).1 := by
  cases text with
  | nil => exact .none
  | cons c rest =>
    by_cases hmark : c = first ∨ c = second
    · have hc : c.utf8Size = 1 := by rcases hmark with rfl | rfl <;> assumption
      rw [splitMark_marked hmark]
      exact .some hc
    · rw [splitMark, if_neg hmark]
      exact .none

theorem cutMark?_eq {first second : Char} (hfirst : first.utf8Size = 1) (hsecond : second.utf8Size = 1)
    (text : List Char) : cutMark? first second text = some (splitMark first second text) := by
  cases text with
  | nil => rfl
  | cons c rest =>
    by_cases hmark : c = first ∨ c = second
    · have hc : c.utf8Size = 1 := by rcases hmark with rfl | rfl <;> assumption
      simp [cutMark?, splitMark, hmark, fromByte?_one hc]
    · simp [cutMark?, splitMark, hmark]

/-- A terminator is written in ASCII, and where it does not begin with a digit it begins with a capital or
an underscore. -/
theorem facts_of_isTerminatorChar {c : Char} (h : isTerminatorChar c = true) :
    c.toNat < 128 ∧ c.isDigit = !(c.isUpper || c == '_') := by
  have hupper (hc : c.isUpper = true) : 65 ≤ c.toNat ∧ c.toNat ≤ 90 :=
    of_decide_eq_true hc
  have hdigit (hc : c.isDigit = true) : 48 ≤ c.toNat ∧ c.toNat ≤ 57 :=
    (Bool.and_eq_true_iff.mp hc).imp of_decide_eq_true of_decide_eq_true
  have hunderscore (hc : c = '_') : c.toNat = 95 := by
    rw [hc]
    rfl
  rw [isTerminatorChar, Bool.or_eq_true, Bool.or_eq_true, beq_iff_eq] at h
  cases hd : c.isDigit with
  | true =>
    have hbounds := hdigit hd
    refine ⟨by omega, ?_⟩
    symm
    rw [Bool.not_eq_true', Bool.or_eq_false_iff, beq_eq_false_iff_ne]
    refine ⟨Bool.eq_false_iff.mpr fun hc => ?_, fun hc => ?_⟩
    · have := hupper hc
      omega
    · have := hunderscore hc
      omega
  | false =>
    rcases h with (hc | hc) | hc
    · have hbounds := hupper hc
      exact ⟨by omega, by simp [hc]⟩
    · rw [hd] at hc
      contradiction
    · have hbounds := hunderscore hc
      exact ⟨by omega, by simp [hc]⟩

theorem heredocBody?_of_name {sign quote body name : List Char} {first : Char}
    (h : body.takeWhile isTerminatorChar = first :: name) :
    heredocBody? sign quote body =
      if first.isDigit then none
      else (afterPrefix? quote (body.dropWhile isTerminatorChar)).map fun after =>
        { terminator := first :: name, opener := '<' :: sign ++ quote ++ first :: name ++ quote, after } := by
  rw [heredocBody?]
  simp only [h]
  cases afterPrefix? quote (body.dropWhile isTerminatorChar) with
  | none => simp
  | some after => rfl

theorem fromByte?_takeWhile (p : Char → Bool) (text : List Char) :
    fromByte? (byteLength (text.takeWhile p)) text = some (text.dropWhile p) :=
  fromByte?_eq_some_iff.mpr ⟨text.takeWhile p, List.takeWhile_append_dropWhile.symm, rfl⟩

theorem byteLength_opener {sign quote name : List Char} (hsign : IsMark sign) (hquote : IsMark quote)
    (hname : byteLength name = name.length) :
    '<'.utf8Size + byteLength ('<' :: sign ++ quote ++ name ++ quote) =
      2 + sign.length + name.length + 2 * quote.length := by
  have hangle : '<'.utf8Size = 1 := rfl
  simp only [List.cons_append, byteLength, byteLength_append, hangle, hsign.byteLength_eq,
    hquote.byteLength_eq, hname]
  omega

/-- The terminator is cut out where a text of characters has it, and the bytes of the opener are counted
as it is written. -/
theorem terminatorIn?_eq {quote : List Char} (hquote : IsMark quote) {sign : List Char}
    (hsign : IsMark sign) (body : List Char) :
    terminatorIn? quote body (2 + sign.length) =
      some ((heredocBody? sign quote body).map fun heredoc =>
        (heredoc.terminator, '<'.utf8Size + byteLength heredoc.opener)) := by
  have hterminator : ∀ c ∈ body.takeWhile isTerminatorChar, isTerminatorChar c = true :=
    fun c => List.mem_takeWhile_imp
  have hwidth := byteLength_eq_length fun c hc => (facts_of_isTerminatorChar (hterminator c hc)).1
  have hafter := fromByte?_takeWhile isTerminatorChar body
  cases hname : body.takeWhile isTerminatorChar with
  | nil => simp [terminatorIn?, heredocBody?, hname]
  | cons first name =>
    rw [hname] at hterminator hwidth hafter
    have hdigit := (facts_of_isTerminatorChar (hterminator first List.mem_cons_self)).2
    rw [heredocBody?_of_name hname]
    cases hcapital : first.isUpper || first == '_' with
    | false => simp [terminatorIn?, hname, hdigit, hcapital]
    | true =>
      rw [hcapital, Bool.not_true] at hdigit
      cases hquote with
      | none =>
        have hopener := byteLength_opener hsign .none hwidth
        simpa [terminatorIn?, hname, hcapital, hdigit, afterPrefix?] using hopener.symm
      | @some c hc =>
        have hopener := byteLength_opener hsign (.some hc) hwidth
        simp only [terminatorIn?, hname, List.head?_cons, Option.any_some, hcapital, hdigit, hafter, if_true,
          Bool.false_eq_true, if_false, Option.bind_eq_bind, Option.bind_some, Option.map_map]
        cases body.dropWhile isTerminatorChar with
        | nil => rfl
        | cons d rest =>
          by_cases hd : d = c
          · subst hd
            simpa [afterPrefix?] using hopener.symm
          · simp [afterPrefix?, hd, Ne.symm hd]

theorem heredocOpener?_eq (rest : List Char) :
    heredocOpener? ('<' :: '<' :: rest) =
      some ((heredoc? ('<' :: rest)).map fun heredoc =>
        (heredoc.terminator, '<'.utf8Size + byteLength heredoc.opener)) := by
  have hangles : fromByte? 1 ('<' :: '<' :: rest) = some ('<' :: rest) := fromByte?_one rfl _
  have hrest : fromByte? 2 ('<' :: '<' :: rest) = some rest := fromByte?_cons hangles
  have hsign := @cutMark?_eq '~' '-' rfl rfl rest
  have hquote := @cutMark?_eq '\'' '"' rfl rfl (splitMark '~' '-' rest).2
  rw [heredocOpener?, hrest, heredoc?_angle]
  simp only [Option.bind_eq_bind, Option.bind_some, hsign, hquote]
  exact terminatorIn?_eq (isMark_splitMark rfl rfl _) (isMark_splitMark rfl rfl _) _

/-- The opener at an angle sign of a line, by bytes, is the one that the characters after it make. -/
theorem heredocAt?_eq {line rest : List Char} {offset : Nat}
    (h : fromByte? offset line = some ('<' :: rest)) :
    heredocAt? line offset = some ((heredoc? rest).map fun heredoc =>
      (heredoc.terminator, '<'.utf8Size + byteLength heredoc.opener)) := by
  simp only [heredocAt?, h, Option.bind_eq_bind, Option.bind_some]
  cases rest with
  | nil => rfl
  | cons d rest =>
    by_cases hd : d = '<'
    · subst hd
      exact heredocOpener?_eq rest
    · have hnone : heredoc? (d :: rest) = none := by simp [heredoc?, hd]
      have hbegins : beginsWith ['<', '<'] ('<' :: d :: rest) = false := by
        simp [beginsWith, List.isPrefixOf, Ne.symm hd]
      rw [hnone, hbegins]
      rfl

end ForeignKeyLint.Ruby
