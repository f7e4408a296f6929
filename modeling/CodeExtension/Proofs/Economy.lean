import CodeExtension.Proofs.Legibility

/-! What a writer does not waste. A reader's run is recorded unit by unit. Over what a coherent
codec wrote, each designation in the record puts a set where it was not, each shift that is obeyed
changes which element is invoked, and no designation comes after another without a character in
between; and no byte has its eighth bit set. -/
namespace CodeExtension

/-- One unit in a reader's run: the states around it and the text it shows. -/
structure Passage where
  before : CodeState
  bytes : List UInt8
  after : CodeState
  text : List Char

namespace Passage

def designation? (p : Passage) : Option (CodeElement × GraphicSet) :=
  match p.bytes with
  | [] => none
  | byte :: rest =>
    if byte = esc then
      match Escape.read rest with
      | .complete (.designate element charset) _ => some (element, charset)
      | _ => none
    else none

def IsShift (p : Passage) : Prop := p.bytes = [shiftOut] ∨ p.bytes = [shiftIn]

/-- A unit that is a designation, or a shift that the profile obeys, makes a difference. -/
structure Tells (profile : Profile) (p : Passage) : Prop where
  designation : ∀ element charset, p.designation? = some (element, charset) →
    p.after.get element ≠ p.before.get element
  shift : profile.lockingShift = true → p.IsShift → p.after.shifted ≠ p.before.shifted

end Passage

theorem Escape.sevenBit_of_isPart {byte : UInt8} (part : isPart byte = true) : byte < 0x80 := by
  simp only [isPart, Bool.or_eq_true, decide_eq_true_eq] at part
  rcases part with (rfl | intermediate) | final
  · decide
  · exact UInt8.lt_of_le_of_lt (printable_of_part (.inl intermediate)).2 (by decide)
  · exact UInt8.lt_of_le_of_lt (printable_of_part (.inr final)).2 (by decide)

namespace Scheme

def trace (scheme : Scheme) (s : CodeState) : List UInt8 → List Passage
  | [] => []
  | byte :: rest =>
    match scheme.step s byte rest with
    | .take more state text =>
      ⟨s, byte :: rest.take more, state, text⟩ :: trace scheme state (rest.drop more)
    | .stop _ => []
termination_by input => input.length
decreasing_by simp only [List.length_drop, List.length_cons]; omega

/-- Bytes that lead a reader from one state to another and waste nothing on the way. The flags tell
at either end whether a designation still waits for a character. -/
inductive Thrifty (scheme : Scheme) : CodeState → Bool → List UInt8 → CodeState → Bool → Prop
  | nil (s : CodeState) (waiting : Bool) : Thrifty scheme s waiting [] s waiting
  | designation {s state : CodeState} {element : CodeElement} {charset : GraphicSet}
      {bytes rest : List UInt8} {due : Bool}
      (expressible : Escape.designation? element charset = some bytes)
      (supported : scheme.profile.supports element charset = true)
      (news : s.get element ≠ charset)
      (later : Thrifty scheme (s.designate element charset) true rest state due) :
      Thrifty scheme s false (bytes ++ rest) state due
  | shift {s state : CodeState} {byte : UInt8} {rest : List UInt8} {waiting due : Bool}
      (shifting : scheme.profile.lockingShift = true) (kind : byte = shiftOut ∨ byte = shiftIn)
      (news : s.shifted ≠ decide (byte = shiftOut))
      (later : Thrifty scheme (s.shift (byte = shiftOut)) waiting rest state due) :
      Thrifty scheme s waiting ([byte] ++ rest) state due
  | character {s next state : CodeState} {scalar : Char} {bytes rest : List UInt8}
      {waiting due : Bool} (unit : scheme.Takes s bytes next [scalar])
      (later : Thrifty scheme next false rest state due) :
      Thrifty scheme s waiting (bytes ++ rest) state due

/-- What the run wrote from state `s` on is thrifty. -/
structure Spares (scheme : Scheme) (s : CodeState) (waiting : Bool) (run : Run CodeState UInt8)
    (due : Bool) : Prop where
  clear : run.fault = none
  thrifty : scheme.Thrifty s waiting run.output run.state due
  writable : scheme.Writable run.state

variable {scheme : Scheme} {s state : CodeState} {byte : UInt8} {rest bytes : List UInt8}
  {more : Nat} {text : List Char} {waiting due : Bool}

section Trace

@[simp] theorem trace_nil : scheme.trace s [] = [] := by rw [trace]

theorem trace_take (unit : scheme.step s byte rest = .take more state text) :
    scheme.trace s (byte :: rest) =
      ⟨s, byte :: rest.take more, state, text⟩ :: scheme.trace state (rest.drop more) := by
  rw [trace, unit]

theorem Takes.reads_append {next : CodeState} (unit : scheme.Takes s bytes next text)
    (later : ∃ tail, scheme.decode next rest = .write tail state) :
    ∃ whole, scheme.decode s (bytes ++ rest) = .write whole state := by
  obtain ⟨tail, later⟩ := later
  refine ⟨text ++ tail, ?_⟩
  rw [unit.decode_append, Run.write_followedBy, later]
  rfl

theorem Takes.trace (unit : scheme.Takes s bytes state text) (after : List UInt8) :
    scheme.trace s (bytes ++ after) = ⟨s, bytes, state, text⟩ :: scheme.trace state after := by
  obtain ⟨byte, tail, rfl⟩ := unit.exists_cons
  rw [List.cons_append, trace_take (unit.step after), List.take_left, List.drop_left]

/-- The record of a run that meets no fault has all the bytes and all the text. -/
theorem trace_covers {input : List UInt8} (reads : scheme.decode s input = .write text state) :
    (scheme.trace s input).flatMap (·.bytes) = input ∧
      (scheme.trace s input).flatMap (·.text) = text := by
  induction s, input using scheme.decode_induction generalizing text with
  | nil s =>
    rw [decode_nil] at reads
    have empty : [] = text := congrArg Run.output reads
    simp [← empty]
  | take s bytes rest next head unit ih =>
    rw [unit.decode_append] at reads
    obtain ⟨tail, later, rfl⟩ := Run.write_followedBy_eq_write reads
    obtain ⟨behind, shown⟩ := ih later
    rw [unit.trace]
    simp only [List.flatMap_cons, behind, shown, and_self]
  | stop s input fault stops =>
    rw [stops.decode] at reads
    cases reads

end Trace

section Units

theorem designation?_of_expressible {element : CodeElement} {charset : GraphicSet}
    (expressible : Escape.designation? element charset = some bytes) (s state : CodeState)
    (text : List Char) :
    (Passage.mk s bytes state text).designation? = some (element, charset) := by
  obtain ⟨tail, rfl, complete⟩ := Escape.read_designation expressible []
  rw [List.append_nil] at complete
  simp [Passage.designation?, complete]

theorem designation?_of_shift (kind : byte = shiftOut ∨ byte = shiftIn) (s state : CodeState)
    (text : List Char) : (Passage.mk s [byte] state text).designation? = none := by
  rcases kind with rfl | rfl <;> rfl

theorem Takes.designation?_eq_none (unit : scheme.Takes s bytes state text) (shown : text ≠ []) :
    (Passage.mk s bytes state text).designation? = none := by
  have plain {byte : UInt8} (graphic : 0x20 ≤ byte ∧ byte < 0x80) : byte ≠ esc := by
    rintro rfl
    exact absurd graphic.1 (by decide)
  cases unit with
  | designation | shift => exact absurd rfl shown
  | @singleShifted byte =>
    have read : Escape.read [0x4E, byte] = .complete .singleShift 2 :=
      Escape.read_of_spells .singleShift (List.prefix_append [esc, 0x4E] [byte])
    simp [Passage.designation?, read]
  | newline => rfl
  | control low notEscape => exact if_neg notEscape
  | single graphic | double graphic => exact if_neg (plain graphic)

theorem Takes.not_isShift (unit : scheme.Takes s bytes state text) (shown : text ≠ [])
    (shifting : scheme.profile.lockingShift = true) :
    ¬(Passage.mk s bytes state text).IsShift := by
  intro shift
  obtain ⟨byte, kind, rfl⟩ : ∃ byte, (byte = shiftOut ∨ byte = shiftIn) ∧ bytes = [byte] :=
    shift.elim (fun out => ⟨shiftOut, .inl rfl, out⟩) fun back => ⟨shiftIn, .inr rfl, back⟩
  have shifts : scheme.Takes s [byte] (s.shift (byte = shiftOut)) [] := .shift shifting kind
  exact shown (Step.take.inj ((unit.step []).symm.trans (shifts.step []))).2.2

theorem tells_designation {element : CodeElement} {charset : GraphicSet}
    (expressible : Escape.designation? element charset = some bytes)
    (news : s.get element ≠ charset) :
    (Passage.mk s bytes (s.designate element charset) []).Tells scheme.profile := by
  constructor
  · intro named other found
    rw [designation?_of_expressible expressible] at found
    obtain ⟨rfl, rfl⟩ := Prod.mk.inj (Option.some.inj found)
    rw [CodeState.get_designate_same]
    exact news.symm
  · rintro - shift
    obtain ⟨tail, rfl, -⟩ := Escape.read_designation expressible []
    rcases shift with out | back
    · exact absurd (List.cons.inj out).1 (by decide)
    · exact absurd (List.cons.inj back).1 (by decide)

theorem tells_shift (kind : byte = shiftOut ∨ byte = shiftIn)
    (news : s.shifted ≠ decide (byte = shiftOut)) :
    (Passage.mk s [byte] (s.shift (byte = shiftOut)) []).Tells scheme.profile := by
  constructor
  · intro element charset found
    rw [designation?_of_shift kind] at found
    contradiction
  · intro _ _
    exact news.symm

theorem Takes.tells (unit : scheme.Takes s bytes state text) (shown : text ≠ []) :
    (Passage.mk s bytes state text).Tells scheme.profile := by
  constructor
  · intro element charset found
    rw [unit.designation?_eq_none shown] at found
    contradiction
  · intro shifting shift
    exact absurd shift (unit.not_isShift shown shifting)

end Units

namespace Thrifty

theorem append {middle : CodeState} {first second : List UInt8} {between : Bool}
    (before : scheme.Thrifty s waiting first middle between)
    (after : scheme.Thrifty middle between second state due) :
    scheme.Thrifty s waiting (first ++ second) state due := by
  induction before with
  | nil s waiting => exact after
  | designation expressible supported news later ih =>
    rw [List.append_assoc]
    exact .designation expressible supported news (ih after)
  | shift shifting kind news later ih =>
    rw [List.append_assoc]
    exact .shift shifting kind news (ih after)
  | character unit later ih =>
    rw [List.append_assoc]
    exact .character unit (ih after)

theorem reads (thrifty : scheme.Thrifty s waiting bytes state due) :
    ∃ text, scheme.decode s bytes = .write text state := by
  induction thrifty with
  | nil s waiting => exact ⟨[], decode_nil scheme s⟩
  | designation expressible supported news later ih =>
    exact (Takes.designation (.designation expressible) supported).reads_append ih
  | shift shifting kind news later ih => exact (Takes.shift shifting kind).reads_append ih
  | character unit later ih => exact unit.reads_append ih

theorem tells (thrifty : scheme.Thrifty s waiting bytes state due) :
    ∀ p ∈ scheme.trace s bytes, p.Tells scheme.profile := by
  induction thrifty with
  | nil s waiting =>
    rw [trace_nil]
    exact List.forall_mem_nil _
  | designation expressible supported news later ih =>
    rw [(Takes.designation (.designation expressible) supported).trace]
    exact List.forall_mem_cons.mpr ⟨tells_designation expressible news, ih⟩
  | shift shifting kind news later ih =>
    rw [(Takes.shift shifting kind).trace]
    exact List.forall_mem_cons.mpr ⟨tells_shift kind news, ih⟩
  | character unit later ih =>
    rw [unit.trace]
    exact List.forall_mem_cons.mpr ⟨unit.tells (List.cons_ne_nil _ _), ih⟩

/-- As long as a designation waits for a character, no other one comes. -/
theorem text_before {between later : List Passage} {q : Passage}
    (thrifty : scheme.Thrifty s true bytes state due)
    (recorded : scheme.trace s bytes = between ++ q :: later)
    (designates : q.designation? ≠ none) : ∃ p ∈ between, p.text ≠ [] := by
  generalize held : true = waiting at thrifty
  induction thrifty generalizing between with
  | nil s waiting => simp at recorded
  | designation => contradiction
  | shift shifting kind news rest ih =>
    rw [(Takes.shift shifting kind).trace] at recorded
    cases between with
    | nil =>
      obtain ⟨rfl, -⟩ := List.cons.inj recorded
      exact absurd (designation?_of_shift kind _ _ _) designates
    | cons p between =>
      obtain ⟨p, member, shown⟩ := ih (List.cons.inj recorded).2 held
      exact ⟨p, .tail _ member, shown⟩
  | character unit rest ih =>
    rw [unit.trace] at recorded
    cases between with
    | nil =>
      obtain ⟨rfl, -⟩ := List.cons.inj recorded
      exact absurd (unit.designation?_eq_none (List.cons_ne_nil _ _)) designates
    | cons p between =>
      obtain ⟨rfl, -⟩ := List.cons.inj recorded
      exact ⟨_, List.mem_cons_self, List.cons_ne_nil _ _⟩

/-- Between two designations there is a character. -/
theorem text_between {earlier between later : List Passage} {p q : Passage}
    (thrifty : scheme.Thrifty s waiting bytes state due)
    (recorded : scheme.trace s bytes = earlier ++ p :: between ++ q :: later)
    (first : p.designation? ≠ none) (second : q.designation? ≠ none) :
    ∃ r ∈ between, r.text ≠ [] := by
  induction thrifty generalizing earlier with
  | nil s waiting => simp at recorded
  | designation expressible supported news rest ih =>
    rw [(Takes.designation (.designation expressible) supported).trace] at recorded
    cases earlier with
    | nil => exact rest.text_before (List.cons.inj recorded).2 second
    | cons o earlier => exact ih (List.cons.inj recorded).2
  | shift shifting kind news rest ih =>
    rw [(Takes.shift shifting kind).trace] at recorded
    cases earlier with
    | nil =>
      obtain ⟨rfl, -⟩ := List.cons.inj recorded
      exact absurd (designation?_of_shift kind _ _ _) first
    | cons o earlier => exact ih (List.cons.inj recorded).2
  | character unit rest ih =>
    rw [unit.trace] at recorded
    cases earlier with
    | nil =>
      obtain ⟨rfl, -⟩ := List.cons.inj recorded
      exact absurd (unit.designation?_eq_none (List.cons_ne_nil _ _)) first
    | cons o earlier => exact ih (List.cons.inj recorded).2

end Thrifty

section SevenBit

variable (wellFormed : scheme.tables.WellFormed) (coherent : scheme.Coherent)

include wellFormed coherent in
theorem Takes.sevenBit (unit : scheme.Takes s bytes state text) : ∀ byte ∈ bytes, byte < 0x80 := by
  cases unit with
  | designation spelled supported =>
    exact fun byte member => Escape.sevenBit_of_isPart (spelled.isPart byte member)
  | @singleShifted byte scalar shifting graphic narrow found =>
    have shifted : ∀ other ∈ [0x4E, byte], other < 0x80 :=
      List.forall_mem_cons.mpr ⟨by decide, List.forall_mem_singleton.mpr graphic.2⟩
    exact List.forall_mem_cons.mpr ⟨by decide, shifted⟩
  | shift shifting kind =>
    exact List.forall_mem_singleton.mpr (by rcases kind with rfl | rfl <;> decide)
  | newline => exact List.forall_mem_singleton.mpr (by decide)
  | control low notEscape notLineFeed notShift =>
    exact List.forall_mem_singleton.mpr (UInt8.lt_trans low (by decide))
  | single graphic shape found => exact List.forall_mem_singleton.mpr graphic.2
  | double graphic shape found =>
    have second := graphic_of_doubleByte? wellFormed coherent shape found
    exact List.forall_mem_cons.mpr ⟨graphic.2, List.forall_mem_singleton.mpr second.2⟩

include wellFormed coherent in
theorem decode_sevenBit {input : List UInt8}
    (reads : scheme.decode s input = .write text state) : ∀ byte ∈ input, byte < 0x80 := by
  induction s, input using scheme.decode_induction generalizing text with
  | nil s => exact List.forall_mem_nil _
  | take s bytes rest next head unit ih =>
    rw [unit.decode_append] at reads
    obtain ⟨tail, later, -⟩ := Run.write_followedBy_eq_write reads
    exact List.forall_mem_append.mpr ⟨unit.sevenBit wellFormed coherent, ih later⟩
  | stop s input fault stops =>
    rw [stops.decode] at reads
    cases reads

end SevenBit

section Writing

theorem spares_skip (writable : scheme.Writable s) (waiting : Bool) :
    scheme.Spares s waiting (.skip s) waiting :=
  ⟨rfl, .nil s waiting, writable⟩

theorem Spares.andThen {run : Run CodeState UInt8} {next : CodeState → Run CodeState UInt8}
    {between : Bool} (before : scheme.Spares s waiting run between)
    (after : scheme.Spares run.state between (next run.state) due) :
    scheme.Spares s waiting (run.andThen next) due := by
  rw [Run.andThen_of_clear before.clear]
  exact ⟨after.clear, before.thrifty.append after.thrifty, after.writable⟩

theorem spares_shift (shifting : scheme.profile.lockingShift = true)
    (kind : byte = shiftOut ∨ byte = shiftIn) (news : s.shifted ≠ decide (byte = shiftOut))
    (writable : scheme.Writable s) (waiting : Bool) :
    scheme.Spares s waiting (.write [byte] (s.shift (byte = shiftOut))) waiting :=
  ⟨rfl, .shift shifting kind news (.nil _ waiting), writable.g0, fun _ => shifting⟩

theorem spares_unshift (writable : scheme.Writable s) (waiting : Bool) :
    scheme.Spares s waiting s.unshift waiting := by
  rw [CodeState.unshift]
  split
  · next shifted =>
    exact spares_shift (writable.shifted shifted) (.inr rfl) (by rw [shifted]; decide) writable
      waiting
  · exact spares_skip writable waiting

theorem spares_lockShift (shifting : scheme.profile.lockingShift = true)
    (writable : scheme.Writable s) (waiting : Bool) :
    scheme.Spares s waiting s.lockShift waiting := by
  rw [CodeState.lockShift]
  split
  · exact spares_skip writable waiting
  · next unshifted =>
    exact spares_shift shifting (.inl rfl) (by simpa using unshifted) writable waiting

theorem spares_ensure {element : CodeElement} {charset : GraphicSet}
    (writable : scheme.Writable s)
    (expressible : Escape.designation? element charset = some bytes)
    (supported : scheme.profile.supports element charset = true) :
    ∃ due, scheme.Spares s false (s.ensure element charset) due := by
  rw [CodeState.ensure]
  split
  · exact ⟨false, spares_skip writable false⟩
  · next news =>
    rw [expressible]
    refine ⟨true, rfl, ?_, writable.designate expressible⟩
    have thrifty : scheme.Thrifty s false (bytes ++ []) (s.designate element charset) true :=
      .designation expressible supported news (.nil _ true)
    rwa [List.append_nil] at thrifty

theorem spares_ensure_ascii (writable : scheme.Writable s) :
    ∃ due, scheme.Spares s false (s.ensure .g0 .ascii) due :=
  spares_ensure writable rfl (by simp [Profile.supports])

theorem Takes.spares {scalar : Char} (unit : scheme.Takes s bytes s [scalar])
    (writable : scheme.Writable s) (waiting : Bool) :
    scheme.Spares s waiting (.write bytes s) false := by
  have thrifty : scheme.Thrifty s waiting (bytes ++ []) s false :=
    .character unit (.nil s false)
  rw [List.append_nil] at thrifty
  exact ⟨rfl, thrifty, writable⟩

theorem spares_put (wellFormed : scheme.tables.WellFormed) {scalar : Char}
    (writable : scheme.Writable s) (single : s.g0.shape = .set94)
    (found : scheme.tables.encode s.g0 scalar = some (Code.ofByte byte))
    (plain : scheme.profile.Plain scalar) (waiting : Bool) :
    scheme.Spares s waiting (s.put byte) false := by
  apply (spares_unshift writable waiting).andThen
  rw [unshift_state]
  have unit := takes_plain (s := s.shift false) wellFormed rfl single found plain
  exact unit.spares writable.unshifted waiting

theorem spares_encodeAscii (wellFormed : scheme.tables.WellFormed) {scalar : Char}
    (writable : scheme.Writable s) (ascii : scalar.toNat < 0x80)
    (plain : scheme.profile.Plain scalar) :
    scheme.Spares s false (scheme.encodeAscii s scalar) false := by
  rw [encodeAscii]
  split
  · next byte offered =>
    obtain ⟨single, found⟩ := held?_eq_some writable offered
    exact spares_put wellFormed writable single found plain false
  · obtain ⟨due, ensured⟩ := spares_ensure_ascii writable
    apply ensured.andThen
    exact spares_put wellFormed ensured.writable (by rw [g0_ensure_ascii]; rfl)
      (by rw [g0_ensure_ascii]; exact Catalogue.encode_ascii_byte ascii) plain due

theorem Spares.position {charset : GraphicSet} {element : CodeElement} {scalar : Char}
    {code : Code} {run : Run CodeState UInt8} (selected : scheme.Spares s waiting run due)
    (active : run.state.active = charset) (left : charset.shape ≠ .set96)
    (notG2 : element ≠ .g2) (admits : charset.shape.Admits code)
    (found : scheme.character? charset code = some scalar) :
    scheme.Spares s waiting (run.andThen (Run.write (Code.bytes charset element code))) false := by
  apply selected.andThen
  exact (takes_position active left notG2 admits found).spares selected.writable due

/-- A position of a set that the profile places takes at most one designation. -/
theorem spares_emit {charset : GraphicSet} {scalar : Char} {code : Code}
    (writable : scheme.Writable s) (placed : scheme.profile.Places charset)
    (admits : charset.shape.Admits code) (found : scheme.character? charset code = some scalar) :
    scheme.Spares s false (scheme.emit s charset code) false := by
  rw [emit]
  rw [Profile.Places] at placed
  split
  · next unplaced => simp [unplaced] at placed
  next element designated =>
  have supported := Profile.supports_of_elementFor? designated
  rw [designated] at placed
  have possible : element = .g0 → charset.shape ≠ .set96 := by
    rintro rfl
    exact placed
  obtain ⟨bytes, expressible⟩ := designation?_eq_some possible
  cases element with
  | g0 =>
    have unshifted := spares_unshift writable false
    obtain ⟨due, ensured⟩ := spares_ensure unshifted.writable expressible supported
    have selected : scheme.Spares s false (s.select .g0 charset) due := unshifted.andThen ensured
    have active := select_active expressible (by simp) s
    exact selected.position active placed (by simp) admits found
  | g1 =>
    obtain ⟨due, ensured⟩ := spares_ensure writable expressible supported
    have selected : scheme.Spares s false (s.select .g1 charset) due :=
      ensured.andThen (spares_lockShift placed.2 ensured.writable due)
    have active := select_active expressible (by simp) s
    exact selected.position active placed.1 (by simp) admits found
  | g2 =>
    obtain ⟨due, ensured⟩ := spares_ensure writable expressible supported
    have held : (s.ensure .g2 charset).state.g2 = charset := by
      rw [ensure_state expressible]
      rfl
    have unit := takes_singleShifted placed.2 held placed.1 admits found
    rw [CodeState.select, Run.andThen_assoc]
    exact ensured.andThen (unit.spares ensured.writable due)

/-- A scalar that is written at all takes at most one designation, before its character. -/
theorem spares_encodeScalar (wellFormed : scheme.tables.WellFormed) (legible : scheme.Legible)
    {scalar : Char} (writable : scheme.Writable s) (plain : scheme.profile.Plain scalar)
    (clear : (scheme.encodeScalar s scalar).fault = none) :
    scheme.Spares s false (scheme.encodeScalar s scalar) false := by
  rw [encodeScalar] at clear ⊢
  split
  · next ascii =>
    have written := spares_encodeAscii wellFormed writable ascii plain
    obtain ⟨-, unshifted⟩ : scheme.Trails .initial s (scheme.encodeAscii s scalar) [scalar] ∧ _ :=
      trails_encodeAscii wellFormed writable ascii plain
    dsimp only
    split
    · have still : (scheme.encodeAscii s scalar).state.shift false =
          (scheme.encodeAscii s scalar).state := by
        rw [CodeState.shift, ← unshifted]
      apply written.andThen
      rw [still]
      exact spares_skip written.writable false
    · exact written
  next other =>
  rw [if_neg other] at clear
  split
  · next byte offered =>
    obtain ⟨single, found⟩ := held?_eq_some writable offered
    exact spares_put wellFormed writable single found plain false
  next absent =>
  rw [absent] at clear
  split
  · next charset code chosen =>
    obtain ⟨placed, admits, found⟩ := legible scalar charset code (Nat.not_lt.mp other) chosen
    exact spares_emit writable placed admits found
  · next missing =>
    rw [missing] at clear
    contradiction

theorem spares_reset (writable : scheme.Writable s) : ∃ due, scheme.Spares s false s.reset due := by
  have unshifted := spares_unshift writable false
  obtain ⟨due, ensured⟩ := spares_ensure_ascii unshifted.writable
  exact ⟨due, unshifted.andThen ensured⟩

end Writing

end Scheme

namespace Recovery

variable {scheme : Scheme} {s : CodeState}

/-- The mark for a scalar that cannot be written is written like any other scalar. -/
theorem spares_encodeScalar (recovery : Recovery) (wellFormed : scheme.tables.WellFormed)
    (legible : scheme.Legible) {scalar : Char} (writable : scheme.Writable s)
    (plain : scheme.profile.Plain scalar)
    (clear : (recovery.encodeScalar scheme s scalar).fault = none) :
    scheme.Spares s false (recovery.encodeScalar scheme s scalar) false := by
  rcases recovery.encodeScalar_cases scheme s scalar with same | marked | skipped
  · rw [same] at clear ⊢
    exact Scheme.spares_encodeScalar wellFormed legible writable plain clear
  · rw [marked] at clear ⊢
    have graphic : scheme.profile.Plain scalarMark := scheme.profile.plain_of_graphic (by decide)
    exact Scheme.spares_encodeScalar wellFormed legible writable graphic clear
  · rw [skipped]
    exact Scheme.spares_skip writable false

theorem spares_forEach (recovery : Recovery) (wellFormed : scheme.tables.WellFormed)
    (legible : scheme.Legible) {text : List Char} (writable : scheme.Writable s)
    (plain : ∀ scalar ∈ text, scheme.profile.Plain scalar)
    (clear : (Run.forEach (recovery.encodeScalar scheme) s text).fault = none) :
    scheme.Spares s false (Run.forEach (recovery.encodeScalar scheme) s text) false := by
  induction text generalizing s with
  | nil => exact Scheme.spares_skip writable false
  | cons scalar rest ih =>
    obtain ⟨here, others⟩ := List.forall_mem_cons.mp plain
    rw [Run.forEach] at clear ⊢
    have joined := Run.followedBy_eq_andThen clear
    rw [joined] at clear ⊢
    have first := Run.clear_of_andThen clear
    have written := recovery.spares_encodeScalar wellFormed legible writable here first
    rw [Run.andThen_of_clear first] at clear
    exact written.andThen (ih written.writable others clear)

end Recovery

/-- A codec whose tables are well formed and whose scheme is coherent writes seven-bit bytes, and
what its reader makes of them is told without waste: each designation changes the element that it
names, each shift that is obeyed changes what is invoked, and some text is shown between any two
designations. -/
theorem Codec.encode_thrifty {codec : Codec} {text : List Char} {bytes : List UInt8}
    (wellFormed : codec.scheme.tables.WellFormed) (coherent : codec.scheme.Coherent)
    (plain : ∀ scalar ∈ text, codec.scheme.profile.Plain scalar)
    (encoded : codec.encode text = .ok bytes) :
    (∀ byte ∈ bytes, byte < 0x80) ∧
    (codec.scheme.trace .initial bytes).flatMap (·.bytes) = bytes ∧
    codec.decode bytes = .ok ((codec.scheme.trace .initial bytes).flatMap (·.text)) ∧
    (∀ p ∈ codec.scheme.trace .initial bytes, p.Tells codec.scheme.profile) ∧
    ∀ earlier p between q later,
      codec.scheme.trace .initial bytes = earlier ++ p :: between ++ q :: later →
      p.designation? ≠ none → q.designation? ≠ none → ∃ r ∈ between, r.text ≠ [] := by
  obtain ⟨clear, rfl⟩ := Run.ok_of_mapError encoded
  have written := codec.recovery.spares_forEach wellFormed (coherent.legible wellFormed)
    Scheme.writable_initial plain (Run.clear_of_andThen clear)
  obtain ⟨due, reset⟩ := Scheme.spares_reset written.writable
  have thrifty := (written.andThen reset).thrifty
  obtain ⟨shown, reads⟩ := thrifty.reads
  obtain ⟨whole, same⟩ := Scheme.trace_covers reads
  refine ⟨Scheme.decode_sevenBit wellFormed coherent reads, whole, ?_, thrifty.tells, ?_⟩
  · rw [same]
    exact decode_of_reads reads
  · intro earlier p between q later recorded first second
    exact thrifty.text_between recorded first second

def Mixed.markedText : List Char := "あ漢¥a☃가é\n가".toList

def Mixed.markedBytes : List UInt8 :=
  [0x1B, 0x24, 0x42, 0x24, 0x22, 0x34, 0x41, 0x1B, 0x28, 0x4A, 0x5C, 0x61, 0x3F, 0x1B, 0x24, 0x29,
    0x43, 0x0E, 0x30, 0x21, 0x1B, 0x2E, 0x41, 0x1B, 0x4E, 0x69, 0x0F, 0x0A, 0x0E, 0x30, 0x21, 0x0F,
    0x1B, 0x28, 0x42]

/-- Five designations and two pairs of shifts. The snowman is in no set and leaves a mark, for which
the Roman set can stay. -/
theorem Mixed.encode_marked :
    (codec.withRecovery .replace).encode markedText = .ok markedBytes ∧
    (scheme.trace .initial markedBytes).filterMap (·.designation?) =
      [(.g0, .jisX0208), (.g0, .jisRoman), (.g1, .ksX1001), (.g2, .latin1), (.g0, .ascii)] ∧
    (∀ byte ∈ markedBytes, byte < 0x80) ∧
    (∀ p ∈ scheme.trace .initial markedBytes, p.Tells profile) ∧
    ∀ earlier p between q later,
      scheme.trace .initial markedBytes = earlier ++ p :: between ++ q :: later →
      p.designation? ≠ none → q.designation? ≠ none → ∃ r ∈ between, r.text ≠ [] := by
  have encoded : (codec.withRecovery .replace).encode markedText = .ok markedBytes := by
    decide +kernel
  have plain :=
    Profile.plain_of_all (by decide : markedText.all (scheme.profile.Plain ·) = true)
  obtain ⟨sevenBit, -, -, tells, spaced⟩ := Codec.encode_thrifty wellFormed coherent plain encoded
  exact ⟨encoded, by decide +kernel, sevenBit, tells, spaced⟩

end CodeExtension
