import CodeExtension.Run
import CodeExtension.Scheme

/-! Reading bytes. The input is taken apart into units (a control function, a control character
or a graphic character), each read in the state that the units before it left. -/
namespace CodeExtension

/-- What the unit at the head of the input comes to. -/
inductive Step where
  /-- The unit is the first byte and `more` further ones. -/
  | take (more : Nat) (state : CodeState) (text : List Char)
  | stop (fault : Fault)

/-- A unit of `length` bytes that stands for a character, if it does. -/
def Step.character (s : CodeState) (length : Nat) : Option Char → Step
  | some scalar => .take (length - 1) s [scalar]
  | none => .stop (.invalidByte 0 length)

/-- Reads unit after unit, where `step` reads the unit that begins with a given byte. -/
def Step.run (step : CodeState → UInt8 → List UInt8 → Step) (s : CodeState) :
    List UInt8 → Run CodeState Char
  | [] => .skip s
  | byte :: rest =>
    match step s byte rest with
    | .take more state text =>
      (Run.write text state).followedBy (1 + more) fun s => Step.run step s (rest.drop more)
    | .stop fault => .stop s fault
termination_by input => input.length
decreasing_by simp only [List.length_drop, List.length_cons]; omega

namespace Step

variable {step : CodeState → UInt8 → List UInt8 → Step} {s : CodeState}

@[simp] theorem run_nil : run step s [] = .skip s := by rw [run]

theorem run_take {byte : UInt8} {rest : List UInt8} {more : Nat} {state : CodeState}
    {text : List Char} (h : step s byte rest = .take more state text) :
    run step s (byte :: rest) =
      (Run.write text state).followedBy (1 + more) fun s => run step s (rest.drop more) := by
  rw [run, h]

theorem run_stop {byte : UInt8} {rest : List UInt8} {fault : Fault}
    (h : step s byte rest = .stop fault) : run step s (byte :: rest) = .stop s fault := by
  rw [run, h]

end Step

namespace Scheme

/-- Reads the byte after a single shift. A set of 96 positions is read from its right half. -/
def singleShifted (scheme : Scheme) (s : CodeState) : List UInt8 → Step
  | [] => .stop (.incomplete 0)
  | byte :: _ =>
    if byte < 0x20 ∨ 0x7F < byte then .character s 3 none
    else match s.g2.shape with
      | .set94 => .character s 3 (scheme.tables.decode s.g2 (Code.ofByte byte))
      | .set96 => .character s 3 (scheme.tables.decode s.g2 (Code.ofRight byte))
      | .set94x94 => .stop (.internal 0 s.g2 .g2)

def escape (scheme : Scheme) (s : CodeState) (rest : List UInt8) : Step :=
  match Escape.read rest with
  | .incomplete => .stop (.incomplete 0)
  | .invalid length => .stop (.invalidEscape 0 length)
  | .complete (.designate element charset) length =>
    if scheme.profile.supports element charset then
      .take (length - 1) (s.designate element charset) []
    else .stop (.invalidEscape 0 length)
  | .complete .singleShift length =>
    if scheme.profile.singleShift then scheme.singleShifted s (rest.drop (length - 1))
    else .stop (.invalidEscape 0 length)

/-- The character at a double-byte position; a substitution goes before the table. -/
def doubleByte? (scheme : Scheme) (charset : GraphicSet) (code : Code) : Option Char :=
  (scheme.profile.literal? charset code).or (scheme.tables.decode charset code)

def graphic (scheme : Scheme) (s : CodeState) (byte : UInt8) (rest : List UInt8) : Step :=
  match s.active.shape with
  | .set94 => .character s 1 (scheme.tables.decode s.active (Code.ofByte byte))
  | .set96 => .stop (.internal 0 s.active s.invoked)
  | .set94x94 =>
    match rest with
    | [] => .stop (.incomplete 0)
    | second :: _ => .character s 2 (scheme.doubleByte? s.active (Code.pair byte second))

/-- Reads one unit. SO and SI are control characters like others unless the profile shifts with
them; a line feed ends the reach of a locking shift. -/
def step (scheme : Scheme) (s : CodeState) (byte : UInt8) (rest : List UInt8) : Step :=
  if byte = esc then scheme.escape s rest
  else if (byte = shiftOut ∨ byte = shiftIn) ∧ scheme.profile.lockingShift then
    .take 0 (s.shift (byte = shiftOut)) []
  else if byte = lineFeed then .take 0 (s.shift false) ['\n']
  else if byte < 0x20 then .take 0 s [Char.ofNat byte.toNat]
  else if 0x80 ≤ byte then .stop (.invalidByte 0 1)
  else scheme.graphic s byte rest

def decode (scheme : Scheme) (s : CodeState) (input : List UInt8) : Run CodeState Char :=
  Step.run scheme.step s input

end Scheme

end CodeExtension
