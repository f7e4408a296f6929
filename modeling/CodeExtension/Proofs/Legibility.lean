import CodeExtension.Proofs.Mappability

/-! Which codecs can read what they write. The flags that let readers shift are fields of their own,
and a scheme without defect may write SO or ESC N without having them on, or put a set where no
reader looks for it. Without substitutions a codec reads its own texts just when it puts each set
that it writes where readers find it; then it writes nothing that its profile does not honour. -/
namespace CodeExtension

/-- All bytes have seven bits, and SO and ESC N are there only if the profile gives them a
meaning. -/
structure Profile.Honours (profile : Profile) (bytes : List UInt8) : Prop where
  sevenBit : ∀ byte ∈ bytes, byte < 0x80
  lockingShift : shiftOut ∈ bytes → profile.lockingShift = true
  singleShift : Escape.singleShiftBytes <:+: bytes → profile.singleShift = true

namespace Profile

variable {profile : Profile} {byte : UInt8} {bytes rest : List UInt8}

theorem honours_nil (profile : Profile) : profile.Honours [] :=
  ⟨nofun, nofun, fun inside => nomatch List.infix_nil.mp inside⟩

theorem Honours.cons (low : byte < 0x80) (shift : byte = shiftOut → profile.lockingShift = true)
    (single : Escape.singleShiftBytes <+: byte :: rest → profile.singleShift = true)
    (later : profile.Honours rest) : profile.Honours (byte :: rest) := by
  refine ⟨List.forall_mem_cons.mpr ⟨low, later.sevenBit⟩, ?_, ?_⟩
  · intro member
    rcases List.mem_cons.mp member with here | there
    · exact shift here.symm
    · exact later.lockingShift there
  · intro inside
    rcases List.infix_cons_iff.mp inside with here | there
    · exact single here
    · exact later.singleShift there

theorem Honours.plain (low : byte < 0x80) (notEscape : byte ≠ esc)
    (shift : byte = shiftOut → profile.lockingShift = true) (later : profile.Honours rest) :
    profile.Honours (byte :: rest) := by
  refine later.cons low shift ?_
  intro opens
  exact absurd (List.cons_prefix_cons.mp opens).1.symm notEscape

theorem Honours.graphic (later : profile.Honours rest)
    (all : ∀ byte ∈ bytes, 0x20 ≤ byte ∧ byte < 0x80) : profile.Honours (bytes ++ rest) := by
  induction bytes with
  | nil => exact later
  | cons byte bytes ih =>
    obtain ⟨⟨low, high⟩, others⟩ := List.forall_mem_cons.mp all
    refine (ih others).plain high ?_ ?_
    · rintro rfl
      exact absurd low (by decide)
    · rintro rfl
      exact absurd low (by decide)

theorem Honours.escape {next : UInt8} (later : profile.Honours (next :: rest))
    (other : next ≠ 0x4E) : profile.Honours (esc :: next :: rest) := by
  refine later.cons (by decide) (fun shift => absurd shift (by decide)) ?_
  intro opens
  have second := (List.cons_prefix_cons.mp opens).2
  exact absurd (List.cons_prefix_cons.mp second).1.symm other

end Profile

theorem graphic_of_all {bytes : List UInt8}
    (all : bytes.all (fun byte => 0x20 ≤ byte ∧ byte < 0x80) = true) :
    ∀ byte ∈ bytes, 0x20 ≤ byte ∧ byte < 0x80 := by
  simpa using all

/-- A designation has an intermediate byte behind its ESC, and none but graphic ones. -/
theorem Escape.graphic_of_designation {element : CodeElement} {charset : GraphicSet}
    {bytes : List UInt8} (written : designation? element charset = some bytes) :
    ∃ first others, bytes = esc :: first :: others ∧ first ≠ 0x4E ∧
      ∀ byte ∈ first :: others, 0x20 ≤ byte ∧ byte < 0x80 := by
  cases element <;> cases charset <;> cases written <;>
    exact ⟨_, _, rfl, by decide, graphic_of_all rfl⟩

/-- So has every other spelling, but that the announcer goes before another sequence. -/
theorem Profile.Honours.spelling {profile : Profile} {element : CodeElement}
    {charset : GraphicSet} {bytes rest : List UInt8} (later : profile.Honours rest)
    (spelled : Escape.Spells (.designate element charset) bytes) :
    profile.Honours (bytes ++ rest) := by
  cases spelled with
  | designation written =>
    obtain ⟨first, others, rfl, other, graphic⟩ := Escape.graphic_of_designation written
    exact (later.graphic graphic).escape other
  | parenthesised double final =>
    have graphic : ∀ byte ∈ [0x24, 0x28, charset.finalByte], 0x20 ≤ byte ∧ byte < 0x80 := by
      cases charset <;> cases double <;> exact graphic_of_all rfl
    exact (later.graphic graphic).escape (by decide)
  | announced =>
    have announced : profile.Honours ([0x24, 0x42] ++ rest) := later.graphic (graphic_of_all rfl)
    have announcer : profile.Honours ([0x26, 0x40] ++ esc :: ([0x24, 0x42] ++ rest)) :=
      (announced.escape (by decide)).graphic (graphic_of_all rfl)
    exact announcer.escape (by decide)

namespace Scheme

variable {scheme : Scheme} {s state : CodeState} {text : List Char}

theorem doubleByte?_of_bare (bare : scheme.profile.substitutions = []) (charset : GraphicSet)
    (code : Code) : scheme.doubleByte? charset code = scheme.tables.decode charset code := by
  simp [doubleByte?, Profile.literal?, bare]

theorem character?_of_bare (bare : scheme.profile.substitutions = []) (charset : GraphicSet)
    (code : Code) : scheme.character? charset code = scheme.tables.decode charset code := by
  simp [character?, doubleByte?_of_bare bare]

/-- A unit that does not show SO is one that the profile honours. -/
theorem Takes.honours {bytes rest : List UInt8} (unit : scheme.Takes s bytes state text)
    (wellFormed : scheme.tables.WellFormed) (bare : scheme.profile.substitutions = [])
    (shown : '\u000E' ∉ text) (later : scheme.profile.Honours rest) :
    scheme.profile.Honours (bytes ++ rest) := by
  cases unit with
  | designation spelled supported => exact later.spelling spelled
  | @singleShifted byte scalar shifting graphic narrow found =>
    have both : ∀ other ∈ [0x4E, byte], 0x20 ≤ other ∧ other < 0x80 :=
      List.forall_mem_cons.mpr ⟨by decide, List.forall_mem_singleton.mpr graphic⟩
    exact (later.graphic both).cons (by decide) (fun shift => absurd shift (by decide))
      fun _ => shifting
  | shift shifting kind =>
    rcases kind with rfl | rfl <;> exact later.plain (by decide) (by decide) fun _ => shifting
  | newline => exact later.plain (by decide) (by decide) fun shift => absurd shift (by decide)
  | control low notEscape notLineFeed notShift =>
    refine later.plain (UInt8.lt_trans low (by decide)) notEscape ?_
    -- Without the locking shift SO shows as a character.
    rintro rfl
    exact absurd List.mem_cons_self shown
  | single graphic shape found => exact later.graphic (List.forall_mem_singleton.mpr graphic)
  | double graphic shape found =>
    rw [doubleByte?_of_bare bare] at found
    have second := graphic_of_position (wellFormed.admits_of_decode shape found).2
    rw [Code.cell_pair] at second
    exact later.graphic (List.forall_mem_cons.mpr ⟨graphic, List.forall_mem_singleton.mpr second⟩)

/-- What reads as a text without SO holds nothing that the profile does not honour. -/
theorem honours_of_reads (wellFormed : scheme.tables.WellFormed)
    (bare : scheme.profile.substitutions = []) {input : List UInt8}
    (reads : scheme.decode s input = .write text state) (shown : '\u000E' ∉ text) :
    scheme.profile.Honours input := by
  induction s, input using scheme.decode_induction generalizing text with
  | nil s => exact scheme.profile.honours_nil
  | take s bytes rest next head unit ih =>
    rw [unit.decode_append] at reads
    obtain ⟨tail, later, rfl⟩ := Run.write_followedBy_eq_write reads
    have behind := ih later fun there => shown (List.mem_append_right _ there)
    have here : '\u000E' ∉ head := fun here => shown (List.mem_append_left _ here)
    exact unit.honours wellFormed bare here behind
  | stop s input fault stops =>
    rw [stops.decode] at reads
    cases reads

variable {scalar : Char} {charset : GraphicSet} {code : Code} {designation : List UInt8}

theorem candidate_of_bare (bare : scheme.profile.substitutions = [])
    (chosen : scheme.position? scalar = some (charset, code)) :
    charset ∈ scheme.profile.candidates ∧ scheme.tables.encode charset scalar = some code := by
  rcases position?_cases chosen with candidate | ⟨-, sub, listed, -⟩
  · exact candidate
  · rw [bare] at listed
    contradiction

theorem legible_of_bare (wellFormed : scheme.tables.WellFormed)
    (bare : scheme.profile.substitutions = [])
    (placed : ∀ scalar charset code, 0x80 ≤ scalar.toNat →
      scheme.position? scalar = some (charset, code) → scheme.profile.Places charset) :
    scheme.Legible := by
  intro scalar charset code outside chosen
  obtain ⟨-, found⟩ := candidate_of_bare bare chosen
  refine ⟨placed scalar charset code outside chosen, wellFormed.admits_of_encode outside found, ?_⟩
  rw [character?_of_bare bare]
  exact wellFormed.oneToOne.encode_eq_some_iff.mp found

theorem ensure_initial {element : CodeElement} (other : charset ≠ .ascii)
    (expressible : Escape.designation? element charset = some designation) :
    CodeState.initial.ensure element charset =
      .write designation (CodeState.initial.designate element charset) := by
  have fresh : CodeState.initial.get element ≠ charset := by
    cases element <;> exact other.symm
  rw [CodeState.ensure, if_neg fresh, expressible]

theorem emit_initial_g1 (found : scheme.profile.elementFor? charset = some .g1)
    (other : charset ≠ .ascii) (expressible : Escape.designation? .g1 charset = some designation)
    (code : Code) : (scheme.emit .initial charset code).output =
      designation ++ shiftOut :: Code.bytes charset .g1 code := by
  rw [emit, found]
  simp only [CodeState.select, ensure_initial other expressible]
  exact List.append_assoc designation [shiftOut] _

theorem emit_initial_g2 (found : scheme.profile.elementFor? charset = some .g2)
    (other : charset ≠ .ascii) (expressible : Escape.designation? .g2 charset = some designation)
    (code : Code) : (scheme.emit .initial charset code).output =
      designation ++ Escape.singleShiftBytes ++ Code.bytes charset .g2 code := by
  rw [emit, found]
  simp only [CodeState.select, ensure_initial other expressible]
  rfl

/-- Behind a single shift no character of a double-byte set is read, whatever follows it. -/
theorem decode_double_g2 (supported : scheme.profile.supports .g2 charset = true)
    (expressible : Escape.designation? .g2 charset = some designation)
    (shifting : scheme.profile.singleShift = true) (double : charset.shape = .set94x94)
    (admits : charset.shape.Admits code) (rest : List UInt8) :
    (scheme.decode .initial (designation ++ Escape.singleShiftBytes ++
      Code.bytes charset .g2 code ++ rest)).fault =
        some (.internal designation.length charset .g2) := by
  have bytes : Code.bytes charset .g2 code = [Code.row code, Code.cell code] :=
    if_pos (by simpa using double)
  rw [double] at admits
  have stops : scheme.Stops (CodeState.initial.designate .g2 charset)
      (esc :: 0x4E :: Code.row code :: Code.cell code :: rest) (.internal 0 charset .g2) :=
    .singleShiftDouble shifting (graphic_of_position admits.1) double
  have designated := decode_designation expressible supported .initial
  rw [bytes, List.append_assoc, List.append_assoc, scheme.decode_append_of_write _ designated,
    Run.write_followedBy]
  show ((scheme.decode _ (esc :: 0x4E :: Code.row code :: Code.cell code :: rest)).fault.map _) = _
  rw [stops.decode]
  simp [Run.stop, Fault.rebase]

end Scheme

namespace Codec

variable {codec : Codec} {scalar : Char} {charset : GraphicSet} {code : Code}

/-- A scalar by itself is written from its position, with what it takes to end there. -/
theorem encode_singleton (outside : 0x80 ≤ scalar.toNat)
    (chosen : codec.scheme.position? scalar = some (charset, code))
    {element : CodeElement} (found : codec.scheme.profile.elementFor? charset = some element) :
    ∃ rest, (codec.withRecovery .strict).encode [scalar] =
      .ok ((codec.scheme.emit .initial charset code).output ++ rest) := by
  have clear := Scheme.emit_clear codec.sound found .initial code
  have alone : codec.scheme.encode .initial [scalar] = codec.scheme.emit .initial charset code := by
    rw [Scheme.encode_cons, Scheme.encodeScalar_initial outside chosen,
      Run.followedBy_of_clear clear]
    show Run.mk (_ ++ []) (codec.scheme.emit .initial charset code).state none = _
    rw [List.append_nil, ← clear]
  refine ⟨(codec.scheme.emit .initial charset code).state.reset.output, ?_⟩
  rw [encode_strict, Scheme.encodeAll, alone, Run.andThen_of_clear clear, Run.result]
  simp only [Scheme.reset_clear]
  rfl

/-- A set through which a scalar is written and read back is where readers find it. -/
theorem places_of_reads (wellFormed : codec.scheme.tables.WellFormed)
    (bare : codec.scheme.profile.substitutions = []) (outside : 0x80 ≤ scalar.toNat)
    (chosen : codec.scheme.position? scalar = some (charset, code))
    (reads : ∀ bytes, (codec.withRecovery .strict).encode [scalar] = .ok bytes →
      codec.decode bytes = .ok [scalar] ∧ codec.scheme.profile.Honours bytes) :
    codec.scheme.profile.Places charset := by
  obtain ⟨-, has⟩ := Scheme.candidate_of_bare bare chosen
  have admits := wellFormed.admits_of_encode outside has
  have other : charset ≠ .ascii := by
    rintro rfl
    rw [codec.scheme.tables.encode_ascii_outside outside] at has
    contradiction
  have written := Scheme.written_of_position? chosen
  obtain ⟨element, found⟩ := Option.ne_none_iff_exists'.mp <|
    (Scheme.defect?_eq_none_iff.mp codec.sound).2.2 charset written other
  obtain ⟨designation, expressible⟩ := Scheme.expressible_of_sound codec.sound found
  obtain ⟨rest, encoded⟩ := encode_singleton outside chosen found
  obtain ⟨decoded, honours⟩ := reads _ encoded
  rw [Profile.Places, found]
  cases element with
  | g0 => exact Escape.shape_of_designation_g0 expressible
  | g1 =>
    rw [Scheme.emit_initial_g1 found other expressible] at honours
    refine ⟨?_, honours.lockingShift (by simp)⟩
    -- Behind SO a position of the right half is written as it stands, with its eighth bit.
    intro wide
    have bytes : Code.bytes charset .g1 code = [Code.cell code] := by
      rw [Code.bytes, if_neg (by simp [wide]), if_neg (by decide)]
    rw [wide] at admits
    obtain ⟨low, high⟩ := admits
    have seven := honours.sevenBit (Code.cell code) (by simp [bytes])
    rw [UInt8.lt_iff_toNat_lt, Code.toNat_cell] at seven
    have : code.toNat % 256 < 0x80 := seven
    omega
  | g2 =>
    rw [Scheme.emit_initial_g2 found other expressible] at decoded honours
    have shifting : codec.scheme.profile.singleShift = true := by
      apply honours.singleShift
      exact ⟨designation, Code.bytes charset .g2 code ++ rest, by simp⟩
    refine ⟨?_, shifting⟩
    intro double
    have stopped := Scheme.decode_double_g2 (Profile.supports_of_elementFor? found) expressible
      shifting double admits rest
    have kept := codec.recovery.run_of_ends (by rw [stopped]; rfl)
    rw [decode, kept, Run.result_of_fault stopped] at decoded
    contradiction

/-- Exactly when a codec without substitutions reads back all it writes, and writes nothing that its
profile does not honour: each set that has the position of some scalar outside ASCII goes where
readers find it. -/
theorem decode_encode_iff_places (codec : Codec) (wellFormed : codec.scheme.tables.WellFormed)
    (bare : codec.scheme.profile.substitutions = []) :
    (∀ text bytes, (∀ scalar ∈ text, scalar ≠ '\u001B' ∧ scalar ≠ '\u000E' ∧ scalar ≠ '\u000F') →
      (codec.withRecovery .strict).encode text = .ok bytes →
      codec.decode bytes = .ok text ∧ codec.scheme.profile.Honours bytes) ↔
    ∀ scalar charset code, 0x80 ≤ scalar.toNat →
      codec.scheme.position? scalar = some (charset, code) →
      codec.scheme.profile.Places charset := by
  constructor
  · intro reads scalar charset code outside chosen
    apply places_of_reads wellFormed bare outside chosen
    intro bytes encoded
    refine reads [scalar] bytes ?_ encoded
    rw [List.forall_mem_singleton]
    refine ⟨?_, ?_, ?_⟩ <;> rintro rfl <;> exact absurd outside (by decide)
  · intro placed text bytes free encoded
    have plain : ∀ scalar ∈ text, codec.scheme.profile.Plain scalar := by
      intro scalar member
      exact ⟨(free scalar member).1, fun _ => (free scalar member).2⟩
    rw [encode_strict] at encoded
    obtain ⟨clear, rfl⟩ := Run.ok_of_mapError encoded
    have legible := Scheme.legible_of_bare wellFormed bare placed
    have reads := (legible.encodeAll_follows wellFormed Scheme.writable_initial plain clear).reads
    refine ⟨decode_of_reads reads, ?_⟩
    exact Scheme.honours_of_reads wellFormed bare reads fun member => (free _ member).2.1 rfl

end Codec

def Mixed.bare : Codec where
  scheme := ⟨{ profile with substitutions := [] }, scheme.tables⟩
  sound := by decide +kernel

theorem Mixed.placed_bare {scalar : Char} {charset : GraphicSet} {code : Code}
    (chosen : bare.scheme.position? scalar = some (charset, code)) :
    bare.scheme.profile.Places charset := by
  obtain ⟨listed, -⟩ := Scheme.candidate_of_bare rfl chosen
  exact coherent.placed charset (List.mem_append_left _ listed)

def Mixed.bareText : List Char := "a漢\n가é".toList

def Mixed.bareBytes : List UInt8 :=
  [0x61, 0x1B, 0x24, 0x42, 0x34, 0x41, 0x1B, 0x28, 0x42, 0x0A, 0x1B, 0x24, 0x29, 0x43, 0x0E, 0x30,
    0x21, 0x1B, 0x2E, 0x41, 0x1B, 0x4E, 0x69, 0x0F]

theorem Mixed.decode_encode_bare :
    (bare.withRecovery .strict).encode bareText = .ok bareBytes ∧
      bare.decode bareBytes = .ok bareText ∧ bare.scheme.profile.Honours bareBytes := by
  have encoded : (bare.withRecovery .strict).encode bareText = .ok bareBytes := by decide +kernel
  have reads := (Codec.decode_encode_iff_places bare wellFormed rfl).mpr
    fun scalar charset code _ chosen => placed_bare chosen
  exact ⟨encoded, reads bareText bareBytes (by simp [bareText]) encoded⟩

/-! A set in G1 under a profile that does not shift. -/
namespace Unshifted

def profile : Profile where
  name := "unshifted"
  designations := [⟨.ascii, .g0⟩, ⟨.ksX1001, .g1⟩]
  candidates := [.ksX1001]

def codec : Codec where
  scheme := ⟨profile, Mixed.scheme.tables⟩
  sound := by decide +kernel

def bytes : List UInt8 := [esc, 0x24, 0x29, 0x43, shiftOut, 0x30, 0x21, shiftIn]

/-- The codec writes SO and reads it as a character. -/
theorem decode_hangul :
    codec.scheme.tables.WellFormed ∧ codec.scheme.profile.substitutions = [] ∧
      (codec.withRecovery .strict).encode ['가'] = .ok bytes ∧
      codec.decode bytes = .ok ['\u000E', '0', '!', '\u000F'] ∧
      codec.decode bytes ≠ .ok ['가'] ∧ ¬codec.scheme.profile.Honours bytes := by
  have encoded : (codec.withRecovery .strict).encode ['가'] = .ok bytes := by decide +kernel
  have decoded : codec.decode bytes = .ok ['\u000E', '0', '!', '\u000F'] := by decide +kernel
  refine ⟨Mixed.wellFormed, rfl, encoded, decoded, ?_, ?_⟩
  · rw [decoded]
    decide
  · intro honours
    exact absurd (honours.lockingShift (by decide)) (by decide)

end Unshifted

end CodeExtension
