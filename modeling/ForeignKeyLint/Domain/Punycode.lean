/-!
Punycode: a text written with letters, digits and hyphens only. The plain characters of the text
come first. After the last hyphen a list of numbers tells the other characters in the order of
their code points: each number is how far to count, through the places of the text so far and the
code points, to the next character to insert. A number is a sequence of digits in base 36, the
least first, whose last digit is the first one below a threshold; thresholds adapt to the numbers
seen.
-/

namespace ForeignKeyLint.Domain.Punycode

def base : Nat := 36

/-- The first code point that is not plain. -/
def firstCode : Nat := 128

def firstBias : Nat := 72

/-- The threshold for the digit with the weight that `position` stands for, between 1 and 26. -/
def threshold (bias position : Nat) : Nat :=
  max 1 (min 26 (position - bias))

theorem threshold_pos (bias position : Nat) : 0 < threshold bias position := by
  unfold threshold; omega

/-- Scales a number down until it is small, counting the positions passed. -/
def scale (position delta : Nat) : Nat × Nat :=
  if 455 < delta then scale (position + base) (delta / 35) else (position, delta)
termination_by delta
decreasing_by omega

/-- The bias after a number, the first one or not, with which the text has `length` characters. -/
def adapt (isFirst : Bool) (delta length : Nat) : Nat :=
  let delta := if isFirst then delta / 700 else delta / 2
  let (position, delta) := scale 0 (delta + delta / length)
  position + base * delta / (delta + 38)

def digitChar (digit : Nat) : Char :=
  if digit < 26 then Char.ofNat ('a'.toNat + digit) else Char.ofNat ('0'.toNat + (digit - 26))

def digitValue? (c : Char) : Option Nat :=
  if 'a' ≤ c ∧ c ≤ 'z' then some (c.toNat - 'a'.toNat)
  else if 'A' ≤ c ∧ c ≤ 'Z' then some (c.toNat - 'A'.toNat)
  else if c.isDigit then some (c.toNat - '0'.toNat + 26)
  else none

/-- The digits of a number from the one at `position` on. -/
def number (bias position value : Nat) : List Char :=
  let least := threshold bias position
  if value < least then [digitChar value]
  else
    let rest := value - least
    digitChar (least + rest % (base - least)) ::
      number bias (position + base) (rest / (base - least))
termination_by value
decreasing_by
  have := threshold_pos bias position
  have := Nat.div_le_self (value - threshold bias position) (base - threshold bias position)
  omega

/-- How far a text has been written. -/
structure Writing where
  /-- How far to count to the next character. -/
  delta : Nat := 0
  bias : Nat := firstBias
  /-- The number of characters that have been written. -/
  written : Nat
  isFirst : Bool := true
  digits : List Char := []

/-- Counts past one character of the text on the way to those with the code point `code`, and
writes it if it is one of them. -/
def Writing.pass (code : Nat) (state : Writing) (c : Char) : Writing :=
  if c.toNat < code then { state with delta := state.delta + 1 }
  else if c.toNat = code then {
    delta := 0
    bias := adapt state.isFirst state.delta (state.written + 1)
    written := state.written + 1
    isFirst := false
    digits := state.digits ++ number state.bias base state.delta }
  else state

/-- Writes the characters of the text with the code points given, which are in increasing order and
not below `next`. -/
def Writing.run (text : List Char) (next : Nat) (state : Writing) : List Nat → Writing
  | [] => state
  | code :: codes =>
    let reached := { state with delta := state.delta + (code - next) * (state.written + 1) }
    let passed := text.foldl (Writing.pass code) reached
    Writing.run text (code + 1) { passed with delta := passed.delta + 1 } codes

/-- A text in Punycode. -/
def encode (text : List Char) : List Char :=
  let plain := text.filter fun c => c.toNat < firstCode
  let codes := ((text.map Char.toNat).filter (firstCode ≤ ·)).mergeSort.eraseDups
  let state : Writing := { written := plain.length }
  plain ++ (if plain.isEmpty then [] else ['-']) ++ (state.run text firstCode codes).digits

/-- Reads a number whose next digit is at `position` and has the weight given, and adds it to
`value`. -/
def numberFrom? (bias position weight value : Nat) : List Char → Option (Nat × List Char)
  | [] => none
  | c :: rest => do
    let digit ← digitValue? c
    let least := threshold bias position
    let value := value + digit * weight
    if digit < least then some (value, rest)
    else numberFrom? bias (position + base) (weight * (base - least)) value rest

theorem length_of_numberFrom? {bias position weight value : Nat} {text : List Char}
    {result : Nat × List Char} (h : numberFrom? bias position weight value text = some result) :
    result.2.length < text.length := by
  induction text generalizing position weight value with
  | nil => simp [numberFrom?] at h
  | cons c rest ih =>
    rw [numberFrom?] at h
    cases hdigit : digitValue? c with
    | none => simp [hdigit] at h
    | some digit =>
      simp only [hdigit, Option.bind_eq_bind, Option.bind_some] at h
      split at h
      · simp only [Option.some.injEq] at h
        simp [← h]
      · have := ih h
        simp only [List.length_cons]
        omega

/-- Inserts the characters that numbers tell into a text. The count stands at the code point `code`
and the place `place`. -/
def insertFrom? (bias code place : Nat) (isFirst : Bool) (text digits : List Char) :
    Option (List Char) :=
  match digits with
  | [] => some text
  | c :: others =>
    match _h : numberFrom? bias base 1 place (c :: others) with
    | none => none
    | some (count, rest) =>
      let length := text.length + 1
      let code := code + count / length
      let bias := adapt isFirst (count - place) length
      if code.isValidChar then
        insertFrom? bias code (count % length + 1) false
          (text.insertIdx (count % length) (Char.ofNat code)) rest
      else none
termination_by digits.length
decreasing_by exact length_of_numberFrom? _h

/-- The text that is written in Punycode, if it is well formed. -/
def decode? (written : List Char) : Option (List Char) :=
  let digits := (written.reverse.takeWhile (· != '-')).reverse
  let plain := (written.reverse.dropWhile (· != '-')).tail.reverse
  if plain.all fun c => c.toNat < firstCode then insertFrom? firstBias firstCode 0 true plain digits
  else none

end ForeignKeyLint.Domain.Punycode
