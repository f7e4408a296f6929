import CodeExtension.Json

/-! The spelling of text inside a JSON string. A spelling may be sound, with every escape
complete, and still not be text: its bytes need not be UTF-8 nor its surrogates paired. -/
namespace CodeExtension.Json

/-- A string is a sequence of plain bytes and of numbered sixteen-bit units. -/
inductive Piece where
  | byte (value : UInt8)
  | unit (value : Nat)

def hexDigit? (byte : UInt8) : Option Nat :=
  if 0x30 ≤ byte ∧ byte ≤ 0x39 then some (byte.toNat - 0x30)
  else if 0x41 ≤ byte ∧ byte ≤ 0x46 then some (byte.toNat - 0x41 + 10)
  else if 0x61 ≤ byte ∧ byte ≤ 0x66 then some (byte.toNat - 0x61 + 10)
  else none

/-- What a reverse solidus and this byte stand for. -/
def shortEscape? (byte : UInt8) : Option UInt8 :=
  [(quotationMark, quotationMark), (reverseSolidus, reverseSolidus), (0x2F, 0x2F), (0x62, 0x08),
    (0x66, 0x0C), (0x6E, 0x0A), (0x72, 0x0D), (0x74, 0x09)].lookup byte

/-- The pieces of a sound spelling, which has no bare control bytes or quotation marks. -/
def pieces? : List UInt8 → Option (List Piece)
  | [] => some []
  | 0x5C :: 0x75 :: a :: b :: c :: d :: rest => do
    let a ← hexDigit? a
    let b ← hexDigit? b
    let c ← hexDigit? c
    let d ← hexDigit? d
    let pieces ← pieces? rest
    some (.unit (((a * 16 + b) * 16 + c) * 16 + d) :: pieces)
  | 0x5C :: escaped :: rest => do
    let byte ← shortEscape? escaped
    let pieces ← pieces? rest
    some (.byte byte :: pieces)
  | byte :: rest =>
    if 0x20 ≤ byte ∧ byte ≠ quotationMark ∧ byte ≠ reverseSolidus then
      (pieces? rest).map (.byte byte :: ·)
    else none

def isHigh (unit : Nat) : Bool := 0xD800 ≤ unit && unit ≤ 0xDBFF

def isLow (unit : Nat) : Bool := 0xDC00 ≤ unit && unit ≤ 0xDFFF

def scalarBytes (scalar : Nat) : List UInt8 := String.utf8EncodeChar (Char.ofNat scalar)

/-- The bytes of the pieces, unless a surrogate stands alone. -/
def bytes? : List Piece → Option (List UInt8)
  | [] => some []
  | .byte value :: rest => (bytes? rest).map (value :: ·)
  | .unit unit :: rest =>
    if isHigh unit then
      match rest with
      | .unit second :: rest =>
        if isLow second then
          (bytes? rest).map
            (scalarBytes (0x10000 + (unit - 0xD800) * 0x400 + (second - 0xDC00)) ++ ·)
        else none
      | _ => none
    else if isLow unit then none
    else (bytes? rest).map (scalarBytes unit ++ ·)

def text? (spelling : List UInt8) : Option String := do
  let pieces ← pieces? spelling
  let bytes ← bytes? pieces
  String.fromUTF8? ⟨bytes.toArray⟩

/-- One character of text, spelled as shortly as JSON allows: only quotation marks, reverse
solidi and controls are escaped. -/
def spellScalar (c : Char) : List UInt8 :=
  match c with
  | '"' => [reverseSolidus, quotationMark]
  | '\\' => [reverseSolidus, reverseSolidus]
  | '\x08' => [reverseSolidus, 0x62]
  | '\x0c' => [reverseSolidus, 0x66]
  | '\n' => [reverseSolidus, 0x6E]
  | '\r' => [reverseSolidus, 0x72]
  | '\t' => [reverseSolidus, 0x74]
  | c =>
    if c.toNat < 0x20 then
      [reverseSolidus, letterU, digit 0, digit 0, digit (c.toNat / 16), hexLetter (c.toNat % 16)]
    else String.utf8EncodeChar c
where
  hexLetter (value : Nat) : UInt8 :=
    if value < 10 then digit value else UInt8.ofNat (0x61 + (value - 10))

def spell (text : List Char) : List UInt8 := text.flatMap spellScalar

def ofText (text : String) : Json := .string (spell text.toList)

def member (name : String) (value : Json) : List UInt8 × Json := (spell name.toList, value)

end CodeExtension.Json
