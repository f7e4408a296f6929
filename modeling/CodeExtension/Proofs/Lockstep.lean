import CodeExtension.Proofs.Coherence
import CodeExtension.Proofs.Grammar
import CodeExtension.Proofs.Parts

/-! Writer and reader in step. What a legible scheme writes for a scalar, a reader in the writer's
state reads as that scalar and ends in the writer's state; so it goes for texts and for any
sequence of calls, also when some of them fail. The reader may hold more than the writer knows of:
what others left in G1 and G2 is never read before the writer has designated a set there. -/
namespace CodeExtension

namespace CodeState

/-- The state of a reader who held `base` in G1 and G2 before the writer, now in state `s`, had
designated anything there. -/
def onto (s base : CodeState) : CodeState where
  g0 := s.g0
  g1 := if s.g1 = .ascii then base.g1 else s.g1
  g2 := if s.g2 = .ascii then base.g2 else s.g2
  shifted := s.shifted

@[simp] theorem onto_initial (s : CodeState) : s.onto .initial = s := by
  obtain ⟨g0, g1, g2, shifted⟩ := s
  simp only [onto, mk.injEq, true_and, and_true]
  exact ⟨ite_eq_right_iff.mpr Eq.symm, ite_eq_right_iff.mpr Eq.symm⟩

/-- A new writer can take over from any reader at the baseline. -/
theorem initial_onto {base : CodeState} (ended : base.atBaseline = true) :
    initial.onto base = base := by
  obtain ⟨g0, g1, g2, shifted⟩ := base
  obtain ⟨rfl, rfl⟩ : g0 = .ascii ∧ shifted = false := by simpa [atBaseline] using ended
  rfl

/-- A designation replaces what was left over, unless it is ASCII behind the shifts, which a
writer never designates. -/
theorem designate_onto {element : CodeElement} {charset : GraphicSet} (s base : CodeState)
    (shown : element = .g0 ∨ charset ≠ .ascii) :
    (s.onto base).designate element charset = (s.designate element charset).onto base := by
  cases element with
  | g0 => rfl
  | g1 =>
    have replaced : (if charset = .ascii then base.g1 else charset) = charset :=
      if_neg (shown.resolve_left nofun)
    exact congrArg (mk s.g0 · (s.onto base).g2 s.shifted) replaced.symm
  | g2 =>
    have replaced : (if charset = .ascii then base.g2 else charset) = charset :=
      if_neg (shown.resolve_left nofun)
    exact congrArg (mk s.g0 (s.onto base).g1 · s.shifted) replaced.symm

end CodeState

/-- A scalar that no reader under the profile takes for a control function: not ESC, and not SO
or SI if the profile shifts with them. -/
def Profile.Plain (profile : Profile) (scalar : Char) : Prop :=
  scalar ≠ '\u001B' ∧ (profile.lockingShift → scalar ≠ '\u000E' ∧ scalar ≠ '\u000F')

instance (profile : Profile) (scalar : Char) : Decidable (profile.Plain scalar) :=
  inferInstanceAs (Decidable (_ ∧ (_ → _)))

theorem Profile.plain_of_all {profile : Profile} {text : List Char}
    (all : text.all (profile.Plain ·) = true) : ∀ scalar ∈ text, profile.Plain scalar := by
  simpa using all

namespace Scheme

variable (scheme : Scheme)

/-- What holds of a writer at all times: G0 never holds a set that cannot be read there, and the
locking shift is in force only where it means something. -/
structure Writable (s : CodeState) : Prop where
  g0 : s.g0.shape ≠ .set96
  shifted : s.shifted = true → scheme.profile.lockingShift = true

/-- What the run wrote from state `s` on is read as `text` from there, and reading ends in the
state that the writer reached. -/
structure Follows (s : CodeState) (run : Run CodeState UInt8) (text : List Char) : Prop where
  clear : run.fault = none
  reads : scheme.decode s run.output = .write text run.state
  writable : scheme.Writable run.state

/-- The same for a reader who also holds what `base` left in G1 and G2. -/
structure Trails (base s : CodeState) (run : Run CodeState UInt8) (text : List Char) : Prop where
  clear : run.fault = none
  reads : scheme.decode (s.onto base) run.output = .write text (run.state.onto base)
  writable : scheme.Writable run.state

variable {scheme} {base s : CodeState}

theorem writable_initial : scheme.Writable .initial := ⟨nofun, nofun⟩

theorem Writable.unshifted (writable : scheme.Writable s) : scheme.Writable (s.shift false) :=
  ⟨writable.g0, nofun⟩

theorem follows_iff_trails {run : Run CodeState UInt8} {text : List Char} :
    scheme.Follows s run text ↔ scheme.Trails .initial s run text := by
  constructor
  · rintro ⟨clear, reads, writable⟩
    exact ⟨clear, by simpa using reads, writable⟩
  · rintro ⟨clear, reads, writable⟩
    exact ⟨clear, by simpa using reads, writable⟩

theorem trails_skip (writable : scheme.Writable s) : scheme.Trails base s (.skip s) [] :=
  ⟨rfl, decode_nil scheme _, writable⟩

theorem Trails.andThen {run : Run CodeState UInt8} {next : CodeState → Run CodeState UInt8}
    {first second : List Char} (before : scheme.Trails base s run first)
    (after : scheme.Trails base run.state (next run.state) second) :
    scheme.Trails base s (run.andThen next) (first ++ second) := by
  rw [Run.andThen_of_clear before.clear]
  refine ⟨after.clear, ?_, after.writable⟩
  rw [scheme.decode_append_of_write _ before.reads, Run.write_followedBy, after.reads]
  rfl

theorem follows_skip (writable : scheme.Writable s) : scheme.Follows s (.skip s) [] :=
  follows_iff_trails.mpr (trails_skip writable)

@[simp] theorem unshift_state (s : CodeState) : s.unshift.state = s.shift false := by
  obtain ⟨g0, g1, g2, shifted⟩ := s
  cases shifted <;> rfl

@[simp] theorem lockShift_state (s : CodeState) : s.lockShift.state = s.shift true := by
  obtain ⟨g0, g1, g2, shifted⟩ := s
  cases shifted <;> rfl

theorem trails_unshift (writable : scheme.Writable s) : scheme.Trails base s s.unshift [] := by
  rw [CodeState.unshift]
  split
  · next shifted =>
    have unit := Takes.shift (s := s.onto base) (writable.shifted shifted) (.inr rfl)
    exact ⟨rfl, unit.decode, writable.unshifted⟩
  · exact trails_skip writable

theorem trails_lockShift (shifting : scheme.profile.lockingShift = true)
    (writable : scheme.Writable s) : scheme.Trails base s s.lockShift [] := by
  rw [CodeState.lockShift]
  split
  · exact trails_skip writable
  · exact ⟨rfl, (Takes.shift shifting (.inl rfl)).decode, writable.g0, fun _ => shifting⟩

theorem ensure_state {element : CodeElement} {charset : GraphicSet} {bytes : List UInt8}
    (expressible : Escape.designation? element charset = some bytes) :
    (s.ensure element charset).state = s.designate element charset := by
  rw [CodeState.ensure]
  split
  · next held =>
    subst held
    exact (CodeState.designate_get s element).symm
  · rw [expressible]
    rfl

theorem g0_ensure_ascii : (s.ensure .g0 .ascii).state.g0 = .ascii := by
  rw [ensure_state rfl]
  rfl

theorem Writable.designate {element : CodeElement} {charset : GraphicSet} {bytes : List UInt8}
    (writable : scheme.Writable s)
    (expressible : Escape.designation? element charset = some bytes) :
    scheme.Writable (s.designate element charset) := by
  cases element with
  | g0 => exact ⟨Escape.shape_of_designation_g0 expressible, writable.shifted⟩
  | g1 => exact ⟨writable.g0, writable.shifted⟩
  | g2 => exact ⟨writable.g0, writable.shifted⟩

theorem decode_designation {element : CodeElement} {charset : GraphicSet} {bytes : List UInt8}
    (expressible : Escape.designation? element charset = some bytes)
    (supported : scheme.profile.supports element charset = true) (s : CodeState) :
    scheme.decode s bytes = .write [] (s.designate element charset) :=
  (Takes.designation (.designation expressible) supported).decode

theorem trails_ensure {element : CodeElement} {charset : GraphicSet} {bytes : List UInt8}
    (writable : scheme.Writable s)
    (expressible : Escape.designation? element charset = some bytes)
    (supported : scheme.profile.supports element charset = true)
    (shown : element = .g0 ∨ charset ≠ .ascii) :
    scheme.Trails base s (s.ensure element charset) [] := by
  rw [CodeState.ensure]
  split
  · exact trails_skip writable
  · rw [expressible]
    have obeyed := decode_designation expressible supported (s.onto base)
    rw [CodeState.designate_onto s base shown] at obeyed
    exact ⟨rfl, obeyed, writable.designate expressible⟩

theorem trails_ensure_ascii (writable : scheme.Writable s) :
    scheme.Trails base s (s.ensure .g0 .ascii) [] :=
  trails_ensure writable rfl (by simp [Profile.supports]) (.inl rfl)

theorem takes_plain (wellFormed : scheme.tables.WellFormed) {scalar : Char} {byte : UInt8}
    (unshifted : s.shifted = false) (single : s.g0.shape = .set94)
    (found : scheme.tables.encode s.g0 scalar = some (Code.ofByte byte))
    (plain : scheme.profile.Plain scalar) : scheme.Takes s [byte] s [scalar] := by
  have back := wellFormed.oneToOne.encode_eq_some_iff.mp found
  have place := wellFormed.encode_cases found
  rw [Code.toNat_ofByte, single] at place
  have low : byte.toNat < 0x80 := by
    rcases place with ⟨-, ascii, same⟩ | ⟨-, -, bound⟩
    · omega
    · rw [Code.toNat_ofByte] at bound
      omega
  -- A byte in the control columns stands for the control character itself.
  have control (value : Nat) (small : value < 0x20) (here : byte.toNat = value) :
      scalar = Char.ofNat value := by
    rcases place with ⟨-, -, same⟩ | ⟨-, bound, -⟩
    · rw [← here, same, Char.ofNat_toNat]
    · rw [Code.toNat_ofByte] at bound
      omega
  have notEscape : byte ≠ esc := by
    rintro rfl
    exact plain.1 (control 0x1B (by decide) rfl)
  have notShift : ¬((byte = shiftOut ∨ byte = shiftIn) ∧ scheme.profile.lockingShift) := by
    rintro ⟨rfl | rfl, shifting⟩
    · exact (plain.2 shifting).1 (control 0x0E (by decide) rfl)
    · exact (plain.2 shifting).2 (control 0x0F (by decide) rfl)
  have still : s.shift false = s := by rw [CodeState.shift, ← unshifted]
  by_cases feed : byte = lineFeed
  · subst feed
    have unit : scheme.Takes s [lineFeed] (s.shift false) ['\n'] := .newline
    rw [control 0x0A (by decide) rfl]
    rwa [still] at unit
  by_cases small : byte < 0x20
  · rw [control byte.toNat (UInt8.lt_iff_toNat_lt.mp small) rfl]
    exact .control small notEscape feed notShift
  · have active : s.active = s.g0 := by
      rw [CodeState.active, CodeState.invoked, unshifted]
      rfl
    rw [← active] at single back
    exact .single ⟨UInt8.not_lt.mp small, UInt8.lt_iff_toNat_lt.mpr low⟩ single back

theorem takes_position {charset : GraphicSet} {element : CodeElement} {scalar : Char} {code : Code}
    (active : s.active = charset) (left : charset.shape ≠ .set96) (notG2 : element ≠ .g2)
    (admits : charset.shape.Admits code) (found : scheme.character? charset code = some scalar) :
    scheme.Takes s (Code.bytes charset element code) s [scalar] := by
  subst active
  cases shape : s.active.shape with
  | set96 => exact absurd shape left
  | set94 =>
    have single : s.active.isDouble = false := by simp [GraphicSet.isDouble, shape]
    rw [shape] at admits
    have same : Code.ofByte (Code.cell code) = code :=
      Code.ofByte_cell (Nat.lt_of_le_of_lt admits.2 (by decide))
    have graphic : 0x20 ≤ Code.cell code ∧ Code.cell code < 0x80 := by
      apply graphic_of_position
      rw [← Code.toNat_ofByte (Code.cell code), same]
      exact admits
    rw [Code.bytes, single, if_neg (by simp), if_neg notG2]
    rw [character?_of_single (by simp [shape]), ← same] at found
    exact .single graphic shape found
  | set94x94 =>
    have double : s.active.isDouble = true := by simp [GraphicSet.isDouble, shape]
    rw [shape] at admits
    rw [Code.bytes, if_pos double]
    rw [character?_of_double shape, ← Code.pair_row_cell code] at found
    exact .double (graphic_of_position admits.1) shape found

/-- The byte for a single shift is made from the position it is read at, in either half. -/
theorem singleShifted_toLeft {shape : Shape} {code : Code} (narrow : shape ≠ .set94x94)
    (admits : shape.Admits code) :
    Code.singleShifted shape (Code.toLeft code) = code ∧
      0x20 ≤ Code.toLeft code ∧ Code.toLeft code < 0x80 := by
  have graphic (inside : 0x20 ≤ code.toNat % 128) :
      0x20 ≤ Code.toLeft code ∧ Code.toLeft code < 0x80 := by
    rw [UInt8.le_iff_toNat_le, UInt8.lt_iff_toNat_lt, Code.toNat_toLeft]
    exact ⟨inside, Nat.mod_lt _ (by decide)⟩
  cases shape with
  | set94 =>
    obtain ⟨low, high⟩ := admits
    exact ⟨Code.ofByte_toLeft (by omega), graphic (by omega)⟩
  | set96 =>
    obtain ⟨low, high⟩ := admits
    exact ⟨Code.ofRight_toLeft (by omega) (by omega), graphic (by omega)⟩
  | set94x94 => exact absurd rfl narrow

theorem takes_singleShifted {charset : GraphicSet} {scalar : Char} {code : Code}
    (shifting : scheme.profile.singleShift = true) (held : s.g2 = charset)
    (narrow : charset.shape ≠ .set94x94) (admits : charset.shape.Admits code)
    (found : scheme.character? charset code = some scalar) :
    scheme.Takes s (Escape.singleShiftBytes ++ Code.bytes charset .g2 code) s [scalar] := by
  subst held
  have single : s.g2.isDouble = false := by simp [GraphicSet.isDouble, narrow]
  obtain ⟨same, graphic⟩ := singleShifted_toLeft narrow admits
  rw [character?_of_single narrow, ← same] at found
  rw [Code.bytes, single, if_neg (by simp), if_pos rfl]
  exact .singleShifted shifting graphic narrow found

theorem designation?_eq_some {element : CodeElement} {charset : GraphicSet}
    (possible : element = .g0 → charset.shape ≠ .set96) :
    ∃ bytes, Escape.designation? element charset = some bytes := by
  revert possible
  cases element <;> cases charset <;> first
    | exact fun _ => ⟨_, rfl⟩
    | exact fun possible => absurd rfl (possible rfl)

theorem trails_put (wellFormed : scheme.tables.WellFormed) {scalar : Char} {byte : UInt8}
    (writable : scheme.Writable s) (single : s.g0.shape = .set94)
    (found : scheme.tables.encode s.g0 scalar = some (Code.ofByte byte))
    (plain : scheme.profile.Plain scalar) : scheme.Trails base s (s.put byte) [scalar] := by
  apply (trails_unshift writable).andThen
  rw [unshift_state]
  have unit := takes_plain (s := (s.shift false).onto base) wellFormed rfl single found plain
  exact ⟨rfl, unit.decode, writable.unshifted⟩

theorem put_state (byte : UInt8) : (s.put byte).state = s.shift false := by
  obtain ⟨g0, g1, g2, shifted⟩ := s
  cases shifted <;> rfl

/-- What `held?` offers is the byte of the scalar in a set of 94 positions. -/
theorem held?_eq_some {scalar : Char} {byte : UInt8} (writable : scheme.Writable s)
    (offered : scheme.held? s scalar = some byte) :
    s.g0.shape = .set94 ∧ scheme.tables.encode s.g0 scalar = some (Code.ofByte byte) := by
  rw [held?] at offered
  split at offered
  · contradiction
  next other =>
  obtain ⟨code, found, byte⟩ := Option.bind_eq_some_iff.mp offered
  constructor
  · cases shape : s.g0.shape with
    | set94 => rfl
    | set96 => exact absurd shape writable.g0
    | set94x94 => exact absurd (.inr (GraphicSet.isDouble_iff.mpr shape)) other
  · rw [Code.ofByte_of_byte? byte, found]

/-- A scalar of ASCII is always written, and leaves G0 invoked. -/
theorem trails_encodeAscii (wellFormed : scheme.tables.WellFormed) {scalar : Char}
    (writable : scheme.Writable s) (ascii : scalar.toNat < 0x80)
    (plain : scheme.profile.Plain scalar) :
    scheme.Trails base s (scheme.encodeAscii s scalar) [scalar] ∧
      (scheme.encodeAscii s scalar).state.shifted = false := by
  rw [encodeAscii]
  split
  · next byte offered =>
    obtain ⟨single, found⟩ := held?_eq_some writable offered
    exact ⟨trails_put wellFormed writable single found plain, by rw [put_state]; rfl⟩
  · have designated : scheme.Trails base s (s.ensure .g0 .ascii) [] := trails_ensure_ascii writable
    refine ⟨designated.andThen ?_, ?_⟩
    · exact trails_put wellFormed designated.writable (by rw [g0_ensure_ascii]; rfl)
        (by rw [g0_ensure_ascii]; exact Catalogue.encode_ascii_byte ascii) plain
    · rw [Run.andThen_of_clear designated.clear, put_state]
      rfl

/-- A position follows the selection of its set if it can be read from there. -/
theorem Trails.position {charset : GraphicSet} {element : CodeElement} {scalar : Char}
    {code : Code} {run : Run CodeState UInt8} (selected : scheme.Trails base s run [])
    (active : (run.state.onto base).active = charset) (left : charset.shape ≠ .set96)
    (notG2 : element ≠ .g2) (admits : charset.shape.Admits code)
    (found : scheme.character? charset code = some scalar) :
    scheme.Trails base s (run.andThen (Run.write (Code.bytes charset element code))) [scalar] := by
  apply selected.andThen
  exact ⟨rfl, (takes_position active left notG2 admits found).decode, selected.writable⟩

/-- A position of a set that the profile places is written as readers look for it. -/
theorem trails_emit {charset : GraphicSet} {scalar : Char} {code : Code}
    (writable : scheme.Writable s) (placed : scheme.profile.Places charset)
    (other : charset ≠ .ascii) (admits : charset.shape.Admits code)
    (found : scheme.character? charset code = some scalar) :
    scheme.Trails base s (scheme.emit s charset code) [scalar] := by
  rw [emit]
  rw [Profile.Places] at placed
  split
  · next unplaced => simp [unplaced] at placed
  next element designated =>
  have supported := Profile.supports_of_elementFor? designated
  rw [designated] at placed
  have possible : element = .g0 → charset.shape ≠ .set96 := by
    rintro rfl
    exact placed
  obtain ⟨bytes, expressible⟩ := designation?_eq_some possible
  cases element with
  | g0 =>
    have unshifted : scheme.Trails base s s.unshift [] := trails_unshift writable
    have selected : scheme.Trails base s (s.select .g0 charset) [] :=
      unshifted.andThen (trails_ensure unshifted.writable expressible supported (.inl rfl))
    refine selected.position ?_ placed nofun admits found
    rw [CodeState.select, Run.andThen_of_clear unshifted.clear, unshift_state,
      ensure_state expressible]
    rfl
  | g1 =>
    have ensured : scheme.Trails base s (s.ensure .g1 charset) [] :=
      trails_ensure writable expressible supported (.inr other)
    have selected : scheme.Trails base s (s.select .g1 charset) [] :=
      ensured.andThen (trails_lockShift placed.2 ensured.writable)
    refine selected.position ?_ placed.1 nofun admits found
    rw [CodeState.select, Run.andThen_of_clear ensured.clear, lockShift_state,
      ensure_state expressible]
    exact if_neg other
  | g2 =>
    have ensured : scheme.Trails base s (s.ensure .g2 charset) [] :=
      trails_ensure writable expressible supported (.inr other)
    have held : ((s.ensure .g2 charset).state.onto base).g2 = charset := by
      rw [ensure_state expressible]
      exact if_neg other
    -- The single shift holds for one character, so the two are read together.
    rw [CodeState.select, Run.andThen_assoc]
    apply ensured.andThen
    exact ⟨rfl, (takes_singleShifted placed.2 held placed.1 admits found).decode, ensured.writable⟩

/-- A scalar is either written so that it reads as itself or, if no set or substitution has it,
refused without a trace. -/
theorem encodeScalar_trails (wellFormed : scheme.tables.WellFormed) (legible : scheme.Legible)
    {scalar : Char} (writable : scheme.Writable s) (plain : scheme.profile.Plain scalar) :
    scheme.Trails base s (scheme.encodeScalar s scalar) [scalar] ∨
      scheme.encodeScalar s scalar = .stop s (.unmappable scalar 0) ∧ 0x80 ≤ scalar.toNat ∧
        scheme.position? scalar = none := by
  rw [encodeScalar]
  split
  · next ascii =>
    have ⟨trails, unshifted⟩ : scheme.Trails base s (scheme.encodeAscii s scalar) [scalar] ∧ _ :=
      trails_encodeAscii wellFormed writable ascii plain
    refine .inl ?_
    simp only
    split
    · -- The line feed comes after SI, so there is no shift left for it to end.
      have still : (scheme.encodeAscii s scalar).state.shift false =
          (scheme.encodeAscii s scalar).state := by
        rw [CodeState.shift, ← unshifted]
      apply trails.andThen
      rw [still]
      exact trails_skip trails.writable
    · exact trails
  next other =>
  have outside : 0x80 ≤ scalar.toNat := Nat.not_lt.mp other
  split
  · next byte offered =>
    obtain ⟨single, found⟩ := held?_eq_some writable offered
    exact .inl (trails_put wellFormed writable single found plain)
  · split
    · next charset code chosen =>
      obtain ⟨placed, admits, found⟩ := legible scalar charset code outside chosen
      refine .inl (trails_emit writable placed ?_ admits found)
      rintro rfl
      exact Nat.not_lt.mpr outside (ascii_of_character? found)
    · next absent => exact .inr ⟨rfl, outside, absent⟩

theorem encodeScalar_follows (wellFormed : scheme.tables.WellFormed) (legible : scheme.Legible)
    {scalar : Char} (writable : scheme.Writable s) (plain : scheme.profile.Plain scalar) :
    scheme.Follows s (scheme.encodeScalar s scalar) [scalar] ∨
      scheme.encodeScalar s scalar = .stop s (.unmappable scalar 0) ∧ 0x80 ≤ scalar.toNat ∧
        scheme.position? scalar = none := by
  rw [follows_iff_trails]
  exact encodeScalar_trails wellFormed legible writable plain

theorem trails_reset (writable : scheme.Writable s) : scheme.Trails base s s.reset [] := by
  have unshifted : scheme.Trails base s s.unshift [] := trails_unshift writable
  exact unshifted.andThen (trails_ensure_ascii unshifted.writable)

theorem follows_reset (writable : scheme.Writable s) : scheme.Follows s s.reset [] :=
  follows_iff_trails.mpr (trails_reset writable)

end Scheme

end CodeExtension
