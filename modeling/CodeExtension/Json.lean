/-! JSON values as they are written. Numbers and strings keep their spelling, so that a document
may hold, in places nobody reads, numbers of any size and strings that are not text. -/
namespace CodeExtension

inductive Json where
  | null
  | bool (value : Bool)
  | number (spelling : List UInt8)
  /-- The bytes between the quotation marks. -/
  | string (spelling : List UInt8)
  | array (items : List Json)
  | object (members : List (List UInt8 × Json))

namespace Json

abbrev quotationMark : UInt8 := 0x22
abbrev reverseSolidus : UInt8 := 0x5C
abbrev comma : UInt8 := 0x2C
abbrev colon : UInt8 := 0x3A
abbrev openBracket : UInt8 := 0x5B
abbrev closeBracket : UInt8 := 0x5D
abbrev openBrace : UInt8 := 0x7B
abbrev closeBrace : UInt8 := 0x7D
abbrev minus : UInt8 := 0x2D
abbrev plus : UInt8 := 0x2B
abbrev point : UInt8 := 0x2E
abbrev letterU : UInt8 := 0x75

def isDigit (byte : UInt8) : Bool := 0x30 ≤ byte && byte ≤ 0x39

def digit (value : Nat) : UInt8 := UInt8.ofNat (0x30 + value)

/-- Whether a sign, if any, and then digits without a leading zero, a fraction and an exponent
make up the whole spelling. -/
def isNumber (spelling : List UInt8) : Bool :=
  let unsigned := match spelling with
    | 0x2D :: rest => rest
    | rest => rest
  let whole := unsigned.takeWhile isDigit
  wholePart whole && fraction (unsigned.dropWhile isDigit)
where
  wholePart : List UInt8 → Bool
    | [] => false
    | [_] => true
    | first :: _ => first ≠ digit 0
  fraction : List UInt8 → Bool
    | 0x2E :: rest => rest.takeWhile isDigit ≠ [] && exponent (rest.dropWhile isDigit)
    | rest => exponent rest
  exponent : List UInt8 → Bool
    | [] => true
    | mark :: rest => (mark = 0x65 || mark = 0x45) && digits (unsignedExponent rest)
  unsignedExponent : List UInt8 → List UInt8
    | 0x2B :: rest => rest
    | 0x2D :: rest => rest
    | rest => rest
  digits (spelling : List UInt8) : Bool := spelling ≠ [] && spelling.all isDigit

/-- The number that a spelling of digits alone stands for. -/
def natural? : Json → Option Nat
  | .number spelling =>
    if spelling.all isDigit then
      some (spelling.foldl (fun value byte => 10 * value + (byte.toNat - 0x30)) 0)
    else none
  | _ => none

def ofNat (value : Nat) : Json :=
  .number ((Nat.toDigits 10 value).map fun c => UInt8.ofNat c.toNat)

end Json

end CodeExtension
