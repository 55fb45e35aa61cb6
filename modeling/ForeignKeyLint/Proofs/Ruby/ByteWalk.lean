import ForeignKeyLint.Proofs.Ruby.LiteralOffset
import ForeignKeyLint.Proofs.Ruby.Reach

/-!
A walk over code characters by byte offsets. It keeps the whole text and the byte it has come to, reads
the next character from the slice that starts there, and adds up where to go on. Its visitor keeps a
state, and may fail, as one does that cuts a slice out of the text where there is none. Main statements:
each round of a walk starts where a character stands and goes on at a later boundary of the text, and
what it visits is what a walk over characters visits.
-/

namespace ForeignKeyLint.Ruby

open Text

/-- A round of a walk: the character it looks at, the end of the literal that begins there, what follows,
and where the next round starts. -/
structure Round where
  offset : Nat
  char : Char
  literalEnd : Option Nat
  flow : Flow
  resume : Option Nat
deriving Repr, DecidableEq

/-- The context and the byte of the next round. A jump goes past the character it starts from and stays
inside the text. -/
def Flow.next? (text : List Char) (context : Context) (offset : Nat) (c : Char) :
    Flow → Option (Context × Nat)
  | .proceed => some (context.push c, offset + c.utf8Size)
  | .resumeAt target => some (.value, min (max target (offset + c.utf8Size)) (byteLength text))
  | .stop => none

theorem Flow.lt_of_next? {text rest : List Char} {context later : Context} {offset resume : Nat}
    {c : Char} {flow : Flow} (hslice : fromByte? offset text = some (c :: rest))
    (h : flow.next? text context offset c = some (later, resume)) :
    offset < resume ∧ offset < byteLength text := by
  obtain ⟨before, rfl, rfl⟩ := fromByte?_eq_some_iff.mp hslice
  have hsize := c.utf8Size_pos
  rw [byteLength_append, byteLength]
  cases flow with
  | proceed =>
    obtain ⟨-, rfl⟩ := Prod.mk.inj (Option.some.inj h)
    omega
  | resumeAt target =>
    obtain ⟨-, rfl⟩ := Prod.mk.inj (Option.some.inj h)
    rw [byteLength_append, byteLength]
    omega
  | stop => contradiction

section Walk

variable {σ : Type}

/-- What follows a character. The visitor is not asked about one that begins a literal. -/
def answer? (visit : σ → Nat → Char → Option (Flow × σ)) (offset : Nat) (c : Char) (state : σ) :
    (literalEnd : Option Nat) → Option (Flow × σ)
  | some stop => some (.resumeAt stop, state)
  | none => visit state offset c

/-- The rounds of a walk that stands at byte `offset` of the text in this context, and the last state of
its visitor. There is no result if a slice does not exist or the visitor fails. -/
def walkBytes? (visit : σ → Nat → Char → Option (Flow × σ)) (text : List Char) (context : Context)
    (offset : Nat) (state : σ) : Option (List Round × σ) :=
  match hslice : fromByte? offset text with
  | none => none
  | some [] => some ([], state)
  | some (c :: _) => do
    let after ← fromByte? (offset + c.utf8Size) text
    let literalEnd ← literalEnd? text context offset c after.head?
    let (flow, state) ← answer? visit offset c state literalEnd
    match hnext : flow.next? text context offset c with
    | none => some ([{ offset, char := c, literalEnd, flow, resume := none }], state)
    | some (context, resume) =>
      have := Flow.lt_of_next? hslice hnext
      let (rounds, last) ← walkBytes? visit text context resume state
      some ({ offset, char := c, literalEnd, flow, resume := some resume } :: rounds, last)
termination_by byteLength text - offset
decreasing_by omega

variable {visit : σ → Nat → Char → Option (Flow × σ)} {text rest literal after : List Char}
  {context later : Context} {offset target resume : Nat} {c : Char} {state next : σ} {flow : Flow}
  {literalEnd : Option Nat}

theorem walkBytes?_nil (h : fromByte? offset text = some []) :
    walkBytes? visit text context offset state = some ([], state) := by
  rw [walkBytes?]
  split <;> simp_all

/-- The round is put before what a walk does later. -/
def Round.before (round : Round) (later : Option (List Round × σ)) : Option (List Round × σ) :=
  later.map fun (rounds, last) => (round :: rounds, last)

theorem walkBytes?_of_next (h : fromByte? offset text = some (c :: rest))
    (hend : literalEnd? text context offset c rest.head? = some literalEnd)
    (hanswer : answer? visit offset c state literalEnd = some (flow, next))
    (hnext : flow.next? text context offset c = some (later, resume)) :
    walkBytes? visit text context offset state =
      Round.before { offset, char := c, literalEnd, flow, resume := some resume }
        (walkBytes? visit text later resume next) := by
  rw [walkBytes?]
  split
  · simp_all
  · simp_all
  · next d more hslice =>
    obtain ⟨rfl, rfl⟩ := List.cons.inj (Option.some.inj (hslice.symm.trans h))
    simp only [fromByte?_cons h, hend, hanswer, Option.bind_eq_bind, Option.bind_some]
    split
    · simp_all
    · next hsome =>
      obtain ⟨rfl, rfl⟩ := Prod.mk.inj (Option.some.inj (hsome.symm.trans hnext))
      rw [Round.before, Option.map_eq_bind]
      rfl

theorem walkBytes?_of_stop (h : fromByte? offset text = some (c :: rest))
    (hcode : splitLiteral? context c rest = none)
    (hvisit : visit state offset c = some (.stop, next)) :
    walkBytes? visit text context offset state =
      some ([{ offset, char := c, literalEnd := none, flow := .stop, resume := none }], next) := by
  have hend := literalEnd?_eq h context
  rw [hcode, Option.map_none] at hend
  rw [walkBytes?]
  split
  · simp_all
  · simp_all
  · next d more hslice =>
    obtain ⟨rfl, rfl⟩ := List.cons.inj (Option.some.inj (hslice.symm.trans h))
    simp [fromByte?_cons h, hend, answer?, hvisit, Flow.next?]

theorem walkBytes?_of_literal (h : fromByte? offset text = some (c :: rest))
    (hliteral : splitLiteral? context c rest = some (literal, after)) :
    walkBytes? visit text context offset state =
      let stop := offset + c.utf8Size + byteLength literal
      Round.before { offset, char := c, literalEnd := some stop, flow := .resumeAt stop, resume := some stop }
        (walkBytes? visit text .value stop state) := by
  have hend := literalEnd?_eq h context
  rw [hliteral, Option.map_some] at hend
  refine walkBytes?_of_next h hend rfl ?_
  have hlength := byteLength_of_fromByte? (fromByte?_cons h)
  rw [← splitLiteral?_append hliteral, byteLength_append] at hlength
  simp only [Flow.next?, Option.some.injEq, Prod.mk.injEq, true_and]
  omega

theorem walkBytes?_of_proceed (h : fromByte? offset text = some (c :: rest))
    (hcode : splitLiteral? context c rest = none)
    (hvisit : visit state offset c = some (.proceed, next)) :
    walkBytes? visit text context offset state =
      let resume := offset + c.utf8Size
      Round.before { offset, char := c, literalEnd := none, flow := .proceed, resume := some resume }
        (walkBytes? visit text (context.push c) resume next) := by
  have hend := literalEnd?_eq h context
  rw [hcode, Option.map_none] at hend
  exact walkBytes?_of_next h hend hvisit rfl

theorem walkBytes?_of_resumeAt (h : fromByte? offset text = some (c :: rest))
    (hcode : splitLiteral? context c rest = none)
    (hvisit : visit state offset c = some (.resumeAt target, next))
    (htarget : IsBoundary text target ∨ byteLength text ≤ target) :
    walkBytes? visit text context offset state =
      let resume := offset + c.utf8Size + byteLength (splitAtByte (offset + c.utf8Size) target rest).1
      Round.before
        { offset, char := c, literalEnd := none, flow := .resumeAt target, resume := some resume }
        (walkBytes? visit text .value resume next) := by
  have hend := literalEnd?_eq h context
  rw [hcode, Option.map_none] at hend
  refine walkBytes?_of_next h hend hvisit ?_
  rw [Flow.next?, byteLength_splitAtByte (fromByte?_cons h) htarget]

end Walk

section Advance

variable {text rest : List Char} {offset later : Nat} {rounds : List Round}

/-- The round looks at a character that stands where it starts, and goes on at a later boundary of the
text. Where it skips a literal, it goes on exactly where the literal ends. -/
structure Round.Sound (text : List Char) (round : Round) : Prop where
  stands : StandsAt text round.offset round.char
  resumes : ∀ resume ∈ round.resume,
    IsBoundary text resume ∧ round.offset < resume ∧ resume ≤ byteLength text
  skips : ∀ stop ∈ round.literalEnd, round.resume = some stop

/-- A walk advances from byte `offset` on in sound rounds, each of which starts where the one before it
goes on, until it comes to the end of the text or is stopped. -/
inductive Advances (text : List Char) : (offset : Nat) → List Round → Prop where
  | ended : Advances text (byteLength text) []
  | stopped {round : Round} (hround : round.Sound text) (hresume : round.resume = none) :
    Advances text round.offset [round]
  | next {round : Round} {rounds : List Round} {resume : Nat} (hround : round.Sound text)
    (hresume : round.resume = some resume) (hlater : Advances text resume rounds) :
    Advances text round.offset (round :: rounds)

theorem Advances.sound (h : Advances text offset rounds) : ∀ round ∈ rounds, round.Sound text := by
  induction h with
  | ended => simp
  | stopped hround _ => simpa using hround
  | next hround _ _ ih => exact List.forall_mem_cons.mpr ⟨hround, ih⟩

theorem Advances.offset_le (h : Advances text offset rounds) :
    ∀ round ∈ rounds, offset ≤ round.offset := by
  induction h with
  | ended => simp
  | stopped => simp
  | @next round rounds resume hround hresume _ ih =>
    obtain ⟨-, hlt, -⟩ := hround.resumes resume hresume
    refine List.forall_mem_cons.mpr ⟨Nat.le_refl _, fun other hother => ?_⟩
    exact Nat.le_of_lt (Nat.lt_of_lt_of_le hlt (ih other hother))

/-- No round starts where an earlier one did, or before it. -/
theorem Advances.pairwise_offset (h : Advances text offset rounds) :
    rounds.Pairwise fun first second => first.offset < second.offset := by
  induction h with
  | ended => exact .nil
  | stopped => exact List.pairwise_singleton _ _
  | @next round rounds resume hround hresume hlater ih =>
    obtain ⟨-, hlt, -⟩ := hround.resumes resume hresume
    exact .cons (fun other hother => Nat.lt_of_lt_of_le hlt (hlater.offset_le other hother)) ih

/-- The code characters among those that a walk looks at, each with its byte and with what follows it. -/
def visited (rounds : List Round) : List (Nat × Char × Flow) :=
  (rounds.filter (·.literalEnd.isNone)).map fun round => (round.offset, round.char, round.flow)

/-- The visits of a walk, each with its byte and with what follows it. -/
def answered (flow : Visit → Flow) (visits : List Visit) : List (Nat × Char × Flow) :=
  visits.map fun visit => (visit.offset, visit.char, flow visit)

/-- A visited character stands at its byte. -/
theorem exists_lead_of_mem_walkFrom {flow : Visit → Flow} {context : Context} {visit : Visit}
    (h : visit ∈ walkFrom flow context offset text) :
    ∃ lead, text = lead ++ visit.char :: visit.rest ∧ visit.offset = offset + byteLength lead := by
  fun_induction walkFrom flow context offset text with
  | case1 => simp at h
  | case2 context offset c rest literal after hliteral _ ih =>
    obtain ⟨lead, rfl, hoffset⟩ := ih h
    refine ⟨c :: (literal ++ lead), by simp [← splitLiteral?_append hliteral], ?_⟩
    rw [hoffset, byteLength, byteLength_append]
    omega
  | case3 context offset c rest _ proceeded jumped =>
    rcases List.mem_cons.mp h with rfl | h
    · exact ⟨[], rfl, rfl⟩
    · split at h
      · obtain ⟨lead, rfl, hoffset⟩ := proceeded h
        refine ⟨c :: lead, rfl, ?_⟩
        rw [hoffset, byteLength]
        omega
      · next target _ =>
        obtain ⟨lead, hafter, hoffset⟩ := jumped target _ _ rfl h
        have hsplit := splitAtByte_append (offset + c.utf8Size) target rest
        rw [hafter] at hsplit
        refine ⟨c :: ((splitAtByte (offset + c.utf8Size) target rest).1 ++ lead), ?_, ?_⟩
        · rw [List.cons_append, List.append_assoc, hsplit]
        · rw [hoffset, byteLength, byteLength_append]
          omega
      · simp at h

variable {flow other : Visit → Flow} {context : Context} {c : Char}

theorem walkFrom_of_proceed (hcode : splitLiteral? context c rest = none)
    (hflow : flow { offset, char := c, rest } = .proceed) :
    walkFrom flow context offset (c :: rest) =
      { offset, char := c, rest } :: walkFrom flow (context.push c) (offset + c.utf8Size) rest := by
  rw [walkFrom_of_code hcode, hflow]

theorem walkFrom_of_resumeAt {target : Nat} (hcode : splitLiteral? context c rest = none)
    (hflow : flow { offset, char := c, rest } = .resumeAt target) :
    walkFrom flow context offset (c :: rest) =
      let jump := splitAtByte (offset + c.utf8Size) target rest
      { offset, char := c, rest } ::
        walkFrom flow .value (offset + c.utf8Size + byteLength jump.1) jump.2 := by
  rw [walkFrom_of_code hcode, hflow]

theorem walkFrom_of_stop (hcode : splitLiteral? context c rest = none)
    (hflow : flow { offset, char := c, rest } = .stop) :
    walkFrom flow context offset (c :: rest) = [{ offset, char := c, rest }] := by
  rw [walkFrom_of_code hcode, hflow]

theorem answered_cons (visit : Visit) (visits : List Visit) :
    answered flow (visit :: visits) =
      (visit.offset, visit.char, flow visit) :: answered flow visits :=
  rfl

/-- What a walk visits depends on what its visitor says from there on only. -/
theorem answered_congr (h : ∀ visit : Visit, offset ≤ visit.offset → flow visit = other visit) :
    answered flow (walkFrom flow context offset text) =
      answered other (walkFrom other context offset text) := by
  fun_induction walkFrom flow context offset text with
  | case1 =>
    rw [walkFrom]
    rfl
  | case2 context offset c rest literal after hliteral _ ih =>
    rw [walkFrom_of_literal hliteral]
    exact ih fun visit hle => h visit (by omega)
  | case3 context offset c rest hcode proceeded jumped =>
    have hsame := h { offset, char := c, rest } (Nat.le_refl _)
    have hlater : ∀ visit : Visit, offset + c.utf8Size ≤ visit.offset → flow visit = other visit :=
      fun visit hle => h visit (by omega)
    split
    · next hflow =>
      rw [walkFrom_of_proceed hcode (hsame ▸ hflow), answered_cons, answered_cons, hsame,
        proceeded hlater]
    · next target hflow =>
      rw [walkFrom_of_resumeAt hcode (hsame ▸ hflow), answered_cons, answered_cons, hsame]
      exact congrArg _ (jumped target _ _ rfl fun visit hle => hlater visit (by omega))
    · next hflow =>
      rw [walkFrom_of_stop hcode (hsame ▸ hflow), answered_cons, answered_cons, hsame]
      rfl

end Advance

section Total

variable {σ : Type} {text rest : List Char} {context : Context} {offset : Nat} {c : Char}

/-- From wherever the visitor jumps in the text, it jumps to a boundary or past the end. -/
def LandsOnBoundaries (text : List Char) (visit : σ → Nat → Char → Flow × σ) : Prop :=
  ∀ state offset c target, StandsAt text offset c → (visit state offset c).1 = .resumeAt target →
    IsBoundary text target ∨ byteLength text ≤ target

/-- A visitor that never fails. -/
def unfailing (visit : σ → Nat → Char → Flow × σ) (state : σ) (offset : Nat) (c : Char) :
    Option (Flow × σ) :=
  some (visit state offset c)

/-- The visitor that says `answer` at byte `offset`, and elsewhere what `flow` says. -/
def answering (offset : Nat) (answer : Flow) (flow : Visit → Flow) (visit : Visit) : Flow :=
  if visit.offset = offset then answer else flow visit

theorem answered_answering {later : Nat} (h : offset < later) (answer : Flow) (flow : Visit → Flow) :
    answered (answering offset answer flow) (walkFrom (answering offset answer flow) context later text) =
      answered flow (walkFrom flow context later text) :=
  answered_congr fun visit hle => if_neg (by omega)

theorem answering_self (answer : Flow) (flow : Visit → Flow) :
    answering offset answer flow { offset, char := c, rest } = answer :=
  if_pos rfl

theorem sound_of_resume {after : List Char} {literalEnd : Option Nat} {flow : Flow} {resume : Nat}
    (h : fromByte? offset text = some (c :: rest)) (hafter : fromByte? resume text = some after)
    (hlt : offset < resume) (hskips : ∀ stop ∈ literalEnd, some resume = some stop) :
    Round.Sound text { offset, char := c, literalEnd, flow, resume := some resume } where
  stands := standsAt_of_fromByte? h
  resumes := by
    have hlength := byteLength_of_fromByte? hafter
    simp only [Option.mem_def, Option.some.injEq]
    rintro _ rfl
    exact ⟨isBoundary_of_fromByte? hafter, hlt, by omega⟩
  skips := hskips

theorem sound_of_stop {flow : Flow} (h : fromByte? offset text = some (c :: rest)) :
    Round.Sound text { offset, char := c, literalEnd := none, flow, resume := none } where
  stands := standsAt_of_fromByte? h
  resumes := by simp
  skips := by simp

/-- The walk that stands at byte `offset`, before `rest`, has a result. It advances from boundary to
boundary, and it visits what a walk over the characters visits whose visitor says the same. -/
def WalksOn (visit : σ → Nat → Char → Flow × σ) (text : List Char) (context : Context) (offset : Nat)
    (rest : List Char) (state : σ) : Prop :=
  ∃ rounds last flow,
    walkBytes? (unfailing visit) text context offset state = some (rounds, last) ∧
    Advances text offset rounds ∧
    visited rounds = answered flow (walkFrom flow context offset rest)

variable {visit : σ → Nat → Char → Flow × σ} {state next : σ} {literal after : List Char}
  {target : Nat}

theorem walksOn_nil (h : fromByte? offset text = some []) :
    WalksOn visit text context offset [] state := by
  have hend : byteLength text = offset := byteLength_of_fromByte? h
  refine ⟨[], state, fun _ => .stop, walkBytes?_nil h, hend ▸ .ended, ?_⟩
  rw [walkFrom]
  rfl

theorem walksOn_of_literal (h : fromByte? offset text = some (c :: rest))
    (hliteral : splitLiteral? context c rest = some (literal, after))
    (hafter : fromByte? (offset + c.utf8Size + byteLength literal) text = some after)
    (hlater : WalksOn visit text .value (offset + c.utf8Size + byteLength literal) after state) :
    WalksOn visit text context offset (c :: rest) state := by
  obtain ⟨rounds, last, flow, hwalk, hadvances, hvisited⟩ := hlater
  have hsize := c.utf8Size_pos
  have hround := (walkBytes?_of_literal h hliteral).trans (congrArg (Round.before _) hwalk)
  refine ⟨_, last, flow, hround, ?_, ?_⟩
  · exact .next (sound_of_resume h hafter (by omega) fun stop hstop => hstop) rfl hadvances
  · rw [walkFrom_of_literal hliteral, ← hvisited]
    rfl

theorem walksOn_of_proceed (h : fromByte? offset text = some (c :: rest))
    (hcode : splitLiteral? context c rest = none) (hanswer : visit state offset c = (.proceed, next))
    (hlater : WalksOn visit text (context.push c) (offset + c.utf8Size) rest next) :
    WalksOn visit text context offset (c :: rest) state := by
  obtain ⟨rounds, last, flow, hwalk, hadvances, hvisited⟩ := hlater
  have hlt : offset < offset + c.utf8Size := Nat.lt_add_of_pos_right c.utf8Size_pos
  have hround := (walkBytes?_of_proceed h hcode (congrArg some hanswer)).trans
    (congrArg (Round.before _) hwalk)
  refine ⟨_, last, answering offset .proceed flow, hround, ?_, ?_⟩
  · exact .next (sound_of_resume h (fromByte?_cons h) hlt (by simp)) rfl hadvances
  · rw [walkFrom_of_proceed hcode (answering_self _ _), answered_cons, answering_self,
      answered_answering hlt, ← hvisited]
    rfl

theorem walksOn_of_resumeAt (h : fromByte? offset text = some (c :: rest))
    (hcode : splitLiteral? context c rest = none)
    (hanswer : visit state offset c = (.resumeAt target, next))
    (htarget : IsBoundary text target ∨ byteLength text ≤ target) {skipped : List Char}
    (hjump : splitAtByte (offset + c.utf8Size) target rest = (skipped, after))
    (hafter : fromByte? (offset + c.utf8Size + byteLength skipped) text = some after)
    (hlater : WalksOn visit text .value (offset + c.utf8Size + byteLength skipped) after next) :
    WalksOn visit text context offset (c :: rest) state := by
  obtain ⟨rounds, last, flow, hwalk, hadvances, hvisited⟩ := hlater
  have hlt : offset < offset + c.utf8Size + byteLength skipped := by
    have hsize := c.utf8Size_pos
    omega
  have hround : walkBytes? (unfailing visit) text context offset state = _ :=
    walkBytes?_of_resumeAt h hcode (congrArg some hanswer) htarget
  have hself : answering offset (.resumeAt target) flow { offset, char := c, rest } = .resumeAt target :=
    answering_self _ _
  have hjumped := walkFrom_of_resumeAt hcode hself
  rw [hjump] at hround hjumped
  refine ⟨_, last, answering offset (.resumeAt target) flow,
    hround.trans (congrArg (Round.before _) hwalk), ?_, ?_⟩
  · exact .next (sound_of_resume h hafter hlt (by simp)) rfl hadvances
  · rw [hjumped, answered_cons, hself, answered_answering hlt, ← hvisited]
    rfl

theorem walksOn_of_stop (h : fromByte? offset text = some (c :: rest))
    (hcode : splitLiteral? context c rest = none) (hanswer : visit state offset c = (.stop, next)) :
    WalksOn visit text context offset (c :: rest) state := by
  refine ⟨_, next, fun _ => .stop, walkBytes?_of_stop h hcode (congrArg some hanswer), ?_, ?_⟩
  · exact .stopped (sound_of_stop h) rfl
  · rw [walkFrom_of_stop hcode rfl]
    rfl

theorem walksOn (hvisit : LandsOnBoundaries text visit) (h : fromByte? offset text = some rest)
    (context : Context) (state : σ) : WalksOn visit text context offset rest state := by
  -- The induction is on what is left of the text.
  induction hlength : rest.length using Nat.strong_induction_on generalizing rest offset context state with
  | _ length ih =>
    match rest with
    | [] => exact walksOn_nil h
    | c :: rest =>
      have hrest := fromByte?_cons h
      rw [List.length_cons] at hlength
      match hliteral : splitLiteral? context c rest with
      | some (literal, after) =>
        have hshorter := length_after_literal_le hliteral
        have hafter := fromByte?_add ((splitLiteral?_append hliteral).symm ▸ hrest)
        exact walksOn_of_literal h hliteral hafter (ih after.length (by omega) hafter .value state rfl)
      | none =>
        match hanswer : visit state offset c with
        | (.proceed, next) =>
          exact walksOn_of_proceed h hliteral hanswer
            (ih rest.length (by omega) hrest (context.push c) next rfl)
        | (.resumeAt target, next) =>
          have htarget := hvisit state offset c target (standsAt_of_fromByte? h) (by rw [hanswer])
          have hshorter := length_splitAtByte_le (offset + c.utf8Size) target rest
          have hafter := fromByte?_add ((splitAtByte_append (offset + c.utf8Size) target rest).symm ▸ hrest)
          exact walksOn_of_resumeAt h hliteral hanswer htarget rfl hafter
            (ih _ (by omega) hafter .value next rfl)
        | (.stop, next) => exact walksOn_of_stop h hliteral hanswer

end Total

end ForeignKeyLint.Ruby
