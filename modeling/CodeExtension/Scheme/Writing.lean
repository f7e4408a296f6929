import CodeExtension.Run
import CodeExtension.Scheme

/-! Writing text. Each character is written through the set that G0 holds if that set is single
and has it, else through the first candidate that has it, with the designations and shifts that
this takes. -/
namespace CodeExtension

def CodeState.unshift (s : CodeState) : Run CodeState UInt8 :=
  if s.shifted then .write [shiftIn] (s.shift false) else .skip s

/-- Invokes G1 unless the locking shift is in force. -/
def CodeState.lockShift (s : CodeState) : Run CodeState UInt8 :=
  if s.shifted then .skip s else .write [shiftOut] (s.shift true)

/-- Writes a designation unless the element holds the set already. -/
def CodeState.ensure (element : CodeElement) (charset : GraphicSet) (s : CodeState) :
    Run CodeState UInt8 :=
  if s.get element = charset then .skip s
  else match Escape.designation? element charset with
    | some bytes => .write bytes (s.designate element charset)
    | none => .stop s (.internal 0 charset element)

def CodeState.put (byte : UInt8) (s : CodeState) : Run CodeState UInt8 :=
  s.unshift.andThen (Run.write [byte])

/-- Leaves ASCII in G0 and G0 invoked. -/
def CodeState.reset (s : CodeState) : Run CodeState UInt8 :=
  s.unshift.andThen (CodeState.ensure .g0 .ascii)

/-- Makes the next byte read through `element` with `charset` in it. -/
def CodeState.select (element : CodeElement) (charset : GraphicSet) (s : CodeState) :
    Run CodeState UInt8 :=
  match element with
  | .g0 => s.unshift.andThen (CodeState.ensure .g0 charset)
  | .g1 => (s.ensure .g1 charset).andThen CodeState.lockShift
  | .g2 => (s.ensure .g2 charset).andThen (Run.write Escape.singleShiftBytes)

def Code.bytes (charset : GraphicSet) (element : CodeElement) (code : Code) : List UInt8 :=
  if charset.isDouble then [Code.row code, Code.cell code]
  else if element = .g2 then [Code.toLeft code]
  else [Code.cell code]

namespace Scheme

/-- The byte for a scalar in the single-byte set that G0 holds. ASCII is left to its own rule. -/
def held? (scheme : Scheme) (s : CodeState) (scalar : Char) : Option UInt8 :=
  if s.g0 = .ascii ∨ s.g0.isDouble then none
  else (scheme.tables.encode s.g0 scalar).bind Code.byte?

/-- Writes a scalar of ASCII, going back to ASCII in G0 unless the set there has it too. -/
def encodeAscii (scheme : Scheme) (s : CodeState) (scalar : Char) : Run CodeState UInt8 :=
  match scheme.held? s scalar with
  | some byte => s.put byte
  | none => (s.ensure .g0 .ascii).andThen (CodeState.put (UInt8.ofNat scalar.toNat))

def emit (scheme : Scheme) (s : CodeState) (charset : GraphicSet) (code : Code) :
    Run CodeState UInt8 :=
  match scheme.profile.elementFor? charset with
  | none => .stop s (.internal 0 charset .g0)
  | some element =>
    (s.select element charset).andThen (Run.write (Code.bytes charset element code))

/-- The first candidate that has the scalar, with its position there, or else the position that
a substitution fixes. -/
def position? (scheme : Scheme) (scalar : Char) : Option (GraphicSet × Code) :=
  (scheme.profile.candidates.findSome? fun charset =>
    (scheme.tables.encode charset scalar).map (charset, ·)).or <|
  (scheme.profile.substitution? scalar).map fun s => (s.charset, s.code)

/-- Writes one scalar. A line feed ends the reach of a locking shift. -/
def encodeScalar (scheme : Scheme) (s : CodeState) (scalar : Char) : Run CodeState UInt8 :=
  if scalar.toNat < 0x80 then
    let run := scheme.encodeAscii s scalar
    if scalar = '\n' then run.andThen fun s => .skip (s.shift false) else run
  else match scheme.held? s scalar with
    | some byte => s.put byte
    | none =>
      match scheme.position? scalar with
      | some (charset, code) => scheme.emit s charset code
      | none => .stop s (.unmappable scalar 0)

def encode (scheme : Scheme) (s : CodeState) (text : List Char) : Run CodeState UInt8 :=
  Run.forEach scheme.encodeScalar s text

def encodeAll (scheme : Scheme) (s : CodeState) (text : List Char) : Run CodeState UInt8 :=
  (scheme.encode s text).andThen CodeState.reset

end Scheme

end CodeExtension
