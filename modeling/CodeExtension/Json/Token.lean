import CodeExtension.Json.Spelling

/-! The tokens of a JSON text. -/
namespace CodeExtension.Json

inductive Token where
  | openObject
  | closeObject
  | openArray
  | closeArray
  | colon
  | comma
  | null
  | bool (value : Bool)
  | number (spelling : List UInt8)
  | string (spelling : List UInt8)

namespace Token

def isBlank (byte : UInt8) : Bool :=
  byte = 0x20 || byte = 0x09 || byte = 0x0A || byte = 0x0D

def mark? (byte : UInt8) : Option Token :=
  [(openBrace, .openObject), (closeBrace, .closeObject), (openBracket, .openArray),
    (closeBracket, .closeArray), (Json.colon, .colon), (Json.comma, .comma)].lookup byte

def isWordByte (byte : UInt8) : Bool :=
  isDigit byte || byte = plus || byte = minus || byte = point ||
    (0x41 ≤ byte && byte ≤ 0x5A) || (0x61 ≤ byte && byte ≤ 0x7A)

def word? (spelling : List UInt8) : Option Token :=
  if spelling = [0x6E, 0x75, 0x6C, 0x6C] then some .null
  else if spelling = [0x74, 0x72, 0x75, 0x65] then some (.bool true)
  else if spelling = [0x66, 0x61, 0x6C, 0x73, 0x65] then some (.bool false)
  else if isNumber spelling then some (.number spelling)
  else none

/-- How many bytes come before the closing quotation mark. -/
def stringLength : List UInt8 → Nat
  | [] => 0
  | 0x22 :: _ => 0
  | 0x5C :: _ :: rest => 2 + stringLength rest
  | _ :: rest => 1 + stringLength rest

/-- The string token whose opening quotation mark stands just before `rest`. -/
def string? (rest : List UInt8) : Option Token :=
  let length := stringLength rest
  let spelling := rest.take length
  if length < rest.length ∧ (pieces? spelling).isSome then some (.string spelling) else none

/-- The tokens of a text, unless a byte fits no token. -/
def scan : List UInt8 → Option (List Token)
  | [] => some []
  | byte :: rest =>
    if isBlank byte then scan rest
    else if byte = quotationMark then do
      let token ← string? rest
      let tokens ← scan (rest.drop (stringLength rest + 1))
      some (token :: tokens)
    else match mark? byte with
      | some token => (scan rest).map (token :: ·)
      | none => do
        let token ← word? ((byte :: rest).takeWhile isWordByte)
        let tokens ← scan (rest.drop (rest.takeWhile isWordByte).length)
        some (token :: tokens)
termination_by input => input.length
decreasing_by all_goals simp only [List.length_drop, List.length_cons]; omega

end Token

end CodeExtension.Json
