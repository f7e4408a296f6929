import CodeExtension.CodeState

/-! Escape sequences: ESC, intermediate bytes that choose the code element and the shape, and a
final byte that names the set. `read` looks at what follows the ESC; the lengths it reports
count the ESC as well. -/
namespace CodeExtension

abbrev esc : UInt8 := 0x1B
abbrev shiftOut : UInt8 := 0x0E
abbrev shiftIn : UInt8 := 0x0F
abbrev lineFeed : UInt8 := 0x0A

/-- What a sequence of the grammar asks for. -/
inductive Escape where
  | designate (element : CodeElement) (charset : GraphicSet)
  | singleShift
  deriving DecidableEq

namespace Escape

inductive Reading where
  | complete (escape : Escape) (length : Nat)
  /-- The input ends inside a sequence that more bytes could complete. -/
  | incomplete
  | invalid (length : Nat)
  deriving DecidableEq

def isIntermediate (byte : UInt8) : Bool := 0x20 ≤ byte && byte ≤ 0x2F

def isFinal (byte : UInt8) : Bool := 0x30 ≤ byte && byte ≤ 0x7E

/-- More intermediate bytes than this are refused without waiting for a final byte. -/
def maxIntermediates : Nat := 4

/-- The final bytes whose double-byte sets go to G0 without a parenthesis. -/
def hasShortForm (final : UInt8) : Bool := final = 0x40 ∨ final = 0x41 ∨ final = 0x42

/-- The element and the shape that the intermediates choose: `(` `)` `*` for 94 positions, `-`
`.` for 96, and `$` before them for 94 by 94. -/
def target? (intermediates : List UInt8) (final : UInt8) : Option (CodeElement × Shape) :=
  match intermediates with
  | [0x28] => some (.g0, .set94)
  | [0x29] => some (.g1, .set94)
  | [0x2A] => some (.g2, .set94)
  | [0x2D] => some (.g1, .set96)
  | [0x2E] => some (.g2, .set96)
  | [0x24] => if hasShortForm final then some (.g0, .set94x94) else none
  | [0x24, 0x28] => some (.g0, .set94x94)
  | [0x24, 0x29] => some (.g1, .set94x94)
  | [0x24, 0x2A] => some (.g2, .set94x94)
  | _ => none

def designated? (intermediates : List UInt8) (final : UInt8) : Option Escape := do
  let (element, shape) ← target? intermediates final
  let charset ← GraphicSet.ofFinalByte? shape final
  some (.designate element charset)

/-- What has to follow the announcer ESC & @ of the 1990 edition: ESC $ B. -/
def announced : List UInt8 := [esc, 0x24, 0x42]

/-- Reads on after the announcer; the two sequences count as one designation. -/
def readAnnounced (rest : List UInt8) : Reading :=
  if announced.isPrefixOf rest then .complete (.designate .g0 .jisX0208) 6
  else if rest.isPrefixOf announced then .incomplete
  else .invalid 3

/-- Reads the sequence whose ESC stands just before `rest`. -/
def read (rest : List UInt8) : Reading :=
  let intermediates := rest.takeWhile isIntermediate
  let count := intermediates.length
  if maxIntermediates < count then .invalid (1 + maxIntermediates)
  else match rest.drop count with
    | [] => .incomplete
    | final :: tail =>
      if !isFinal final then .invalid (1 + count)
      else if intermediates = [] ∧ final = 0x4E then .complete .singleShift 2
      else if intermediates = [0x26] ∧ final = 0x40 then readAnnounced tail
      else match designated? intermediates final with
        | some escape => .complete escape (2 + count)
        | none => .invalid (2 + count)

def singleShiftBytes : List UInt8 := [esc, 0x4E]

/-- The shortest designation of a set. A set of 96 positions cannot go to G0. -/
def designation? (element : CodeElement) (charset : GraphicSet) : Option (List UInt8) :=
  let final := charset.finalByte
  match charset.shape, element with
  | .set94, .g0 => some [esc, 0x28, final]
  | .set94, .g1 => some [esc, 0x29, final]
  | .set94, .g2 => some [esc, 0x2A, final]
  | .set96, .g0 => none
  | .set96, .g1 => some [esc, 0x2D, final]
  | .set96, .g2 => some [esc, 0x2E, final]
  | .set94x94, .g0 =>
    if hasShortForm final then some [esc, 0x24, final] else some [esc, 0x24, 0x28, final]
  | .set94x94, .g1 => some [esc, 0x24, 0x29, final]
  | .set94x94, .g2 => some [esc, 0x24, 0x2A, final]

end Escape

end CodeExtension
