import CodeExtension.Proofs.Grammar
import CodeExtension.Scheme.Reading

/-! The units of the code, said without the reader: which bytes are one unit in a given state, with
the state they lead to and the text they show, and which inputs a reader stops at. A step of the
reader is always one or the other, and all that is said of steps elsewhere is taken from here. -/
namespace CodeExtension

/-- The position that a byte after a single shift stands for. -/
def Code.singleShifted (shape : Shape) (byte : UInt8) : Code :=
  match shape with
  | .set96 => .ofRight byte
  | .set94 | .set94x94 => .ofByte byte

theorem Code.le_toNat_singleShifted {shape : Shape} {byte : UInt8} (graphic : 0x20 ≤ byte) :
    0x20 ≤ (Code.singleShifted shape byte).toNat := by
  have low : 0x20 ≤ byte.toNat := UInt8.le_iff_toNat_le.mp graphic
  cases shape <;> simp only [singleShifted, toNat_ofByte, toNat_ofRight] <;> omega

/-- A fault lies within an input of `length` bytes, and so do the bytes it covers. -/
def Fault.Fits (length : Nat) : Fault → Prop
  | .invalidByte offset count | .invalidEscape offset count => 1 ≤ count ∧ offset + count ≤ length
  | .incomplete offset | .internal offset _ _ => offset < length
  | .unmappable _ _ => False

theorem Fault.Fits.rebase {length : Nat} {fault : Fault} (fits : fault.Fits length) (base : Nat) :
    (fault.rebase base).Fits (base + length) := by
  cases fault with
  | unmappable scalar offset => exact fits
  | invalidByte offset count | invalidEscape offset count =>
    obtain ⟨positive, inside⟩ := fits
    exact ⟨positive, by omega⟩
  | incomplete offset | internal offset charset element =>
    rw [Nat.add_comm]
    exact Nat.add_lt_add_right fits base

theorem graphic_iff {byte : UInt8} :
    ¬(byte < 0x20 ∨ 0x7F < byte) ↔ 0x20 ≤ byte ∧ byte < 0x80 := by
  simp only [UInt8.lt_iff_toNat_lt, UInt8.le_iff_toNat_le]
  show ¬(byte.toNat < 0x20 ∨ 0x7F < byte.toNat) ↔ 0x20 ≤ byte.toNat ∧ byte.toNat < 0x80
  omega

namespace Scheme

/-- The bytes are one unit in state `s`, which leads to another state and shows a text. -/
inductive Takes (scheme : Scheme) (s : CodeState) : List UInt8 → CodeState → List Char → Prop
  | designation {element : CodeElement} {charset : GraphicSet} {bytes : List UInt8}
      (spelled : Escape.Spells (.designate element charset) bytes)
      (supported : scheme.profile.supports element charset = true) :
      Takes scheme s bytes (s.designate element charset) []
  | singleShifted {byte : UInt8} {scalar : Char} (shifting : scheme.profile.singleShift = true)
      (graphic : 0x20 ≤ byte ∧ byte < 0x80) (narrow : s.g2.shape ≠ .set94x94)
      (found : scheme.tables.decode s.g2 (Code.singleShifted s.g2.shape byte) = some scalar) :
      Takes scheme s [esc, 0x4E, byte] s [scalar]
  | shift {byte : UInt8} (shifting : scheme.profile.lockingShift = true)
      (kind : byte = shiftOut ∨ byte = shiftIn) :
      Takes scheme s [byte] (s.shift (byte = shiftOut)) []
  | newline : Takes scheme s [lineFeed] (s.shift false) ['\n']
  | control {byte : UInt8} (low : byte < 0x20) (notEscape : byte ≠ esc)
      (notLineFeed : byte ≠ lineFeed)
      (notShift : ¬((byte = shiftOut ∨ byte = shiftIn) ∧ scheme.profile.lockingShift)) :
      Takes scheme s [byte] s [Char.ofNat byte.toNat]
  | single {byte : UInt8} {scalar : Char} (graphic : 0x20 ≤ byte ∧ byte < 0x80)
      (shape : s.active.shape = .set94)
      (found : scheme.tables.decode s.active (Code.ofByte byte) = some scalar) :
      Takes scheme s [byte] s [scalar]
  | double {first second : UInt8} {scalar : Char} (graphic : 0x20 ≤ first ∧ first < 0x80)
      (shape : s.active.shape = .set94x94)
      (found : scheme.doubleByte? s.active (Code.pair first second) = some scalar) :
      Takes scheme s [first, second] s [scalar]

/-- A reader in state `s` stops at the head of the input. -/
inductive Stops (scheme : Scheme) (s : CodeState) : List UInt8 → Fault → Prop
  | unfinished {rest : List UInt8} (cut : Escape.read rest = .incomplete) :
      Stops scheme s (esc :: rest) (.incomplete 0)
  | refused {rest : List UInt8} {length : Nat} (refused : Escape.read rest = .invalid length) :
      Stops scheme s (esc :: rest) (.invalidEscape 0 length)
  | unsupported {element : CodeElement} {charset : GraphicSet} {rest : List UInt8} {length : Nat}
      (complete : Escape.read rest = .complete (.designate element charset) length)
      (unsupported : scheme.profile.supports element charset = false) :
      Stops scheme s (esc :: rest) (.invalidEscape 0 length)
  | unshifted {rest : List UInt8} (off : scheme.profile.singleShift = false) :
      Stops scheme s (esc :: 0x4E :: rest) (.invalidEscape 0 2)
  | singleShiftCut (shifting : scheme.profile.singleShift = true) :
      Stops scheme s [esc, 0x4E] (.incomplete 0)
  | singleShiftEmpty {byte : UInt8} {rest : List UInt8}
      (shifting : scheme.profile.singleShift = true)
      (empty : (0x20 ≤ byte ∧ byte < 0x80) → s.g2.shape ≠ .set94x94 ∧
        scheme.tables.decode s.g2 (Code.singleShifted s.g2.shape byte) = none) :
      Stops scheme s (esc :: 0x4E :: byte :: rest) (.invalidByte 0 3)
  /-- There is no room for the second byte of a double-byte set. -/
  | singleShiftDouble {byte : UInt8} {rest : List UInt8}
      (shifting : scheme.profile.singleShift = true) (graphic : 0x20 ≤ byte ∧ byte < 0x80)
      (double : s.g2.shape = .set94x94) :
      Stops scheme s (esc :: 0x4E :: byte :: rest) (.internal 0 s.g2 .g2)
  | eightBit {byte : UInt8} {rest : List UInt8} (right : 0x80 ≤ byte) :
      Stops scheme s (byte :: rest) (.invalidByte 0 1)
  | singleEmpty {byte : UInt8} {rest : List UInt8} (graphic : 0x20 ≤ byte ∧ byte < 0x80)
      (shape : s.active.shape = .set94)
      (empty : scheme.tables.decode s.active (Code.ofByte byte) = none) :
      Stops scheme s (byte :: rest) (.invalidByte 0 1)
  | wide {byte : UInt8} {rest : List UInt8} (graphic : 0x20 ≤ byte ∧ byte < 0x80)
      (shape : s.active.shape = .set96) :
      Stops scheme s (byte :: rest) (.internal 0 s.active s.invoked)
  | doubleCut {byte : UInt8} (graphic : 0x20 ≤ byte ∧ byte < 0x80)
      (shape : s.active.shape = .set94x94) : Stops scheme s [byte] (.incomplete 0)
  | doubleEmpty {first second : UInt8} {rest : List UInt8} (graphic : 0x20 ≤ first ∧ first < 0x80)
      (shape : s.active.shape = .set94x94)
      (empty : scheme.doubleByte? s.active (Code.pair first second) = none) :
      Stops scheme s (first :: second :: rest) (.invalidByte 0 2)

/-- What a step comes to is so for a reason: a unit begins the input, or the reader stops there. -/
def Justifies (scheme : Scheme) (s : CodeState) (byte : UInt8) (rest : List UInt8) : Step → Prop
  | .take more state text =>
    ∃ tail after, rest = tail ++ after ∧ tail.length = more ∧
      scheme.Takes s (byte :: tail) state text
  | .stop fault => scheme.Stops s (byte :: rest) fault

variable {scheme : Scheme} {s state : CodeState} {byte : UInt8} {rest bytes : List UInt8}
  {more : Nat} {text : List Char} {fault : Fault}

section Justification

variable (scheme s)

theorem singleShifted_justified (shifting : scheme.profile.singleShift = true)
    (tail : List UInt8) :
    scheme.Justifies s esc (0x4E :: tail) (scheme.singleShifted s tail) := by
  cases tail with
  | nil => exact .singleShiftCut shifting
  | cons byte tail =>
    -- Whatever the shape, the byte is looked up at one position.
    have looked (graphic : 0x20 ≤ byte ∧ byte < 0x80) (narrow : s.g2.shape ≠ .set94x94) :
        scheme.Justifies s esc (0x4E :: byte :: tail) (.character s 3
          (scheme.tables.decode s.g2 (Code.singleShifted s.g2.shape byte))) := by
      cases found : scheme.tables.decode s.g2 (Code.singleShifted s.g2.shape byte) with
      | none => exact .singleShiftEmpty shifting fun _ => ⟨narrow, found⟩
      | some scalar =>
        exact ⟨[0x4E, byte], tail, rfl, rfl, .singleShifted shifting graphic narrow found⟩
    simp only [singleShifted]
    split
    · next outside =>
      exact .singleShiftEmpty shifting fun graphic => absurd outside (graphic_iff.mpr graphic)
    next inside =>
    have graphic := graphic_iff.mp inside
    split
    · next shape =>
      have looked := looked graphic (by simp [shape])
      rwa [shape] at looked
    · next shape =>
      have looked := looked graphic (by simp [shape])
      rwa [shape] at looked
    · next shape => exact .singleShiftDouble shifting graphic shape

theorem escape_justified (rest : List UInt8) :
    scheme.Justifies s esc rest (scheme.escape s rest) := by
  simp only [escape]
  split
  · next cut => exact .unfinished cut
  · next refused => exact .refused refused
  · next element charset length complete =>
    split
    · next supported =>
      obtain ⟨bytes, spelled, rfl, begins⟩ := Escape.spells_of_read complete
      obtain ⟨tail, rfl, -⟩ := spelled.alone
      obtain ⟨after, rfl⟩ := (List.cons_prefix_cons.mp begins).2
      exact ⟨tail, after, rfl, rfl, .designation spelled supported⟩
    · next other => exact .unsupported complete (by simpa using other)
  · next length complete =>
    obtain ⟨rfl, tail, rfl⟩ := Escape.read_singleShift complete
    split
    · next shifting => exact scheme.singleShifted_justified s shifting tail
    · next off => exact .unshifted (by simpa using off)

theorem graphic_justified (graphic : 0x20 ≤ byte ∧ byte < 0x80) (rest : List UInt8) :
    scheme.Justifies s byte rest (scheme.graphic s byte rest) := by
  simp only [Scheme.graphic]
  split
  · next shape =>
    cases found : scheme.tables.decode s.active (Code.ofByte byte) with
    | none => exact .singleEmpty graphic shape found
    | some scalar => exact ⟨[], rest, rfl, rfl, .single graphic shape found⟩
  · next shape => exact .wide graphic shape
  next shape =>
  cases rest with
  | nil => exact .doubleCut graphic shape
  | cons second rest =>
    dsimp only
    cases found : scheme.doubleByte? s.active (Code.pair byte second) with
    | none => exact .doubleEmpty graphic shape found
    | some scalar => exact ⟨[second], rest, rfl, rfl, .double graphic shape found⟩

/-- Every step is a unit or a stop of the code. -/
theorem step_justified (byte : UInt8) (rest : List UInt8) :
    scheme.Justifies s byte rest (scheme.step s byte rest) := by
  simp only [step]
  split
  · next escaping =>
    rw [escaping]
    exact scheme.escape_justified s rest
  next notEscape =>
  split
  · next shift => exact ⟨[], rest, rfl, rfl, .shift shift.2 shift.1⟩
  next notShift =>
  split
  · next feed =>
    rw [feed]
    exact ⟨[], rest, rfl, rfl, .newline⟩
  next notLineFeed =>
  split
  · next low => exact ⟨[], rest, rfl, rfl, .control low notEscape notLineFeed notShift⟩
  next low =>
  split
  · next right => exact .eightBit right
  · next right =>
    exact scheme.graphic_justified s ⟨UInt8.not_lt.mp low, UInt8.not_le.mp right⟩ rest

end Justification

theorem takes_of_step (unit : scheme.step s byte rest = .take more state text) :
    ∃ tail after, rest = tail ++ after ∧ tail.length = more ∧
      scheme.Takes s (byte :: tail) state text := by
  have justified := scheme.step_justified s byte rest
  rwa [unit] at justified

theorem stops_of_step (stopped : scheme.step s byte rest = .stop fault) :
    scheme.Stops s (byte :: rest) fault := by
  have justified := scheme.step_justified s byte rest
  rwa [stopped] at justified

theorem step_escape (rest : List UInt8) : scheme.step s esc rest = scheme.escape s rest :=
  if_pos rfl

theorem step_of_not_control (high : 0x20 ≤ byte) (rest : List UInt8) :
    scheme.step s byte rest =
      if 0x80 ≤ byte then .stop (.invalidByte 0 1) else scheme.graphic s byte rest := by
  have notControl : ¬byte < 0x20 := UInt8.not_lt.mpr high
  have other {control : UInt8} (low : control < 0x20) : byte ≠ control := by
    rintro rfl
    exact notControl low
  have notShift : ¬((byte = shiftOut ∨ byte = shiftIn) ∧ scheme.profile.lockingShift) := by
    rintro ⟨out | back, -⟩
    · exact other (by decide) out
    · exact other (by decide) back
  rw [step, if_neg (other (by decide)), if_neg notShift, if_neg (other (by decide)),
    if_neg notControl]

theorem step_graphic (graphic : 0x20 ≤ byte ∧ byte < 0x80) (rest : List UInt8) :
    scheme.step s byte rest = scheme.graphic s byte rest := by
  rw [step_of_not_control graphic.1, if_neg (UInt8.not_le.mpr graphic.2)]

theorem step_singleShift (tail : List UInt8) :
    scheme.step s esc (0x4E :: tail) =
      if scheme.profile.singleShift = true then scheme.singleShifted s tail
      else .stop (.invalidEscape 0 2) := by
  have verdict : Escape.read (0x4E :: tail) = .complete .singleShift 2 :=
    Escape.read_append (by decide : Escape.read [0x4E] ≠ .incomplete) tail
  rw [step_escape, escape, verdict]
  rfl

theorem singleShifted_graphic (graphic : 0x20 ≤ byte ∧ byte < 0x80)
    (narrow : s.g2.shape ≠ .set94x94) (tail : List UInt8) :
    scheme.singleShifted s (byte :: tail) =
      .character s 3 (scheme.tables.decode s.g2 (Code.singleShifted s.g2.shape byte)) := by
  rw [singleShifted, if_neg (graphic_iff.mpr graphic)]
  cases shape : s.g2.shape with
  | set94 => rfl
  | set96 => rfl
  | set94x94 => exact absurd shape narrow

theorem Takes.exists_cons (unit : scheme.Takes s bytes state text) :
    ∃ byte tail, bytes = byte :: tail := by
  cases unit with
  | designation spelled _ =>
    obtain ⟨tail, rfl, -⟩ := spelled.alone
    exact ⟨esc, tail, rfl⟩
  | _ => exact ⟨_, _, rfl⟩

/-- A unit is read from its own bytes, whatever follows them. -/
theorem Takes.step {tail : List UInt8} (unit : scheme.Takes s (byte :: tail) state text)
    (rest : List UInt8) : scheme.step s byte (tail ++ rest) = .take tail.length state text := by
  cases unit with
  | designation spelled supported =>
    obtain ⟨_, same, -⟩ := spelled.alone
    obtain ⟨rfl, rfl⟩ := List.cons.inj same
    have complete : Escape.read (tail ++ rest) = _ :=
      Escape.read_of_spells spelled (List.prefix_append _ rest)
    rw [step_escape, escape, complete]
    exact if_pos supported
  | singleShifted shifting graphic narrow found =>
    show scheme.step s esc (0x4E :: _ :: rest) = _
    rw [step_singleShift, if_pos shifting, singleShifted_graphic graphic narrow, found]
    rfl
  | shift shifting kind =>
    have notEscape : byte ≠ esc := by rcases kind with rfl | rfl <;> decide
    rw [Scheme.step, if_neg notEscape, if_pos ⟨kind, shifting⟩]
    rfl
  | newline =>
    rw [Scheme.step, if_neg (by decide), if_neg fun shift => absurd shift.1 (by decide), if_pos rfl]
    rfl
  | control low notEscape notLineFeed notShift =>
    rw [Scheme.step, if_neg notEscape, if_neg notShift, if_neg notLineFeed, if_pos low]
    rfl
  | single graphic shape found =>
    simp only [step_graphic graphic, Scheme.graphic, shape, found]
    rfl
  | double graphic shape found =>
    simp only [step_graphic graphic, Scheme.graphic, shape, List.cons_append, found]
    rfl

theorem Stops.exists_cons {input : List UInt8} (stops : scheme.Stops s input fault) :
    ∃ byte rest, input = byte :: rest := by
  cases stops <;> exact ⟨_, _, rfl⟩

/-- A reader stops where the code says, and in the way it says. -/
theorem Stops.step (stops : scheme.Stops s (byte :: rest) fault) :
    scheme.step s byte rest = .stop fault := by
  cases stops with
  | unfinished cut => rw [step_escape, escape, cut]
  | refused refused => rw [step_escape, escape, refused]
  | unsupported complete unsupported =>
    rw [step_escape, escape, complete]
    exact if_neg (by simp [unsupported])
  | unshifted off => rw [step_singleShift, if_neg (by simp [off])]
  | singleShiftCut shifting =>
    rw [step_singleShift, if_pos shifting]
    rfl
  | @singleShiftEmpty byte rest shifting empty =>
    rw [step_singleShift, if_pos shifting]
    by_cases graphic : 0x20 ≤ byte ∧ byte < 0x80
    · obtain ⟨narrow, empty⟩ := empty graphic
      rw [singleShifted_graphic graphic narrow, empty]
      rfl
    · have outside : byte < 0x20 ∨ 0x7F < byte :=
        Decidable.byContradiction fun inside => graphic (graphic_iff.mp inside)
      rw [singleShifted, if_pos outside]
      rfl
  | singleShiftDouble shifting graphic double =>
    rw [step_singleShift, if_pos shifting, singleShifted, if_neg (graphic_iff.mpr graphic), double]
  | eightBit right =>
    rw [step_of_not_control (UInt8.le_trans (by decide) right), if_pos right]
  | singleEmpty graphic shape empty =>
    simp only [step_graphic graphic, Scheme.graphic, shape, empty]
    rfl
  | wide graphic shape => simp only [step_graphic graphic, Scheme.graphic, shape]
  | doubleCut graphic shape => simp only [step_graphic graphic, Scheme.graphic, shape]
  | doubleEmpty graphic shape empty =>
    simp only [step_graphic graphic, Scheme.graphic, shape, empty]
    rfl

theorem takes_iff_step {tail : List UInt8} : scheme.Takes s (byte :: tail) state text ↔
    scheme.step s byte tail = .take tail.length state text := by
  constructor
  · intro unit
    simpa using unit.step []
  · intro unit
    obtain ⟨own, after, rfl, length, taken⟩ := takes_of_step unit
    obtain rfl : after = [] := by simpa using length
    rwa [List.append_nil]

theorem stops_iff_step :
    scheme.Stops s (byte :: rest) fault ↔ scheme.step s byte rest = .stop fault :=
  ⟨Stops.step, stops_of_step⟩

theorem Stops.offset_eq_zero {input : List UInt8} (stops : scheme.Stops s input fault) :
    fault.offset = 0 := by
  cases stops <;> rfl

theorem Stops.fits {input : List UInt8} (stops : scheme.Stops s input fault) :
    fault.Fits input.length := by
  cases stops with
  | @refused rest length refused =>
    have fits := Escape.read_fits rest
    rw [refused] at fits
    exact ⟨fits.1, (Nat.zero_add length).symm ▸ fits.2⟩
  | @unsupported element charset rest length complete =>
    have fits := Escape.read_fits rest
    rw [complete] at fits
    exact ⟨Nat.le_of_succ_le fits.1, (Nat.zero_add length).symm ▸ fits.2⟩
  | unfinished | singleShiftCut | singleShiftDouble | wide | doubleCut => exact Nat.succ_pos _
  | _ => exact ⟨by omega, by simp⟩

/-- Only where the input was cut off can more of it change the verdict. -/
theorem Stops.append {input : List UInt8} (stops : scheme.Stops s input fault)
    (hard : fault.isRecoverable = false) (more : List UInt8) :
    scheme.Stops s (input ++ more) fault := by
  cases stops with
  | unfinished | singleShiftCut | doubleCut => contradiction
  | refused refused =>
    exact .refused ((Escape.read_append (by simp [refused]) more).trans refused)
  | unsupported complete unsupported =>
    exact .unsupported ((Escape.read_append (by simp [complete]) more).trans complete) unsupported
  | unshifted off => exact .unshifted off
  | singleShiftEmpty shifting empty => exact .singleShiftEmpty shifting empty
  | singleShiftDouble shifting graphic double => exact .singleShiftDouble shifting graphic double
  | eightBit right => exact .eightBit right
  | singleEmpty graphic shape empty => exact .singleEmpty graphic shape empty
  | wide graphic shape => exact .wide graphic shape
  | doubleEmpty graphic shape empty => exact .doubleEmpty graphic shape empty

end Scheme

end CodeExtension
