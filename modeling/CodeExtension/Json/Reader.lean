import CodeExtension.Json.Token

/-! Reading JSON. The tokens drive a machine that keeps the arrays and objects still open. -/
namespace CodeExtension.Json

/-- An array or object that is open, with what it holds so far, last first. -/
inductive Frame where
  | array (before : List Json)
  | object (before : List (List UInt8 × Json)) (key : List UInt8)

inductive Place where
  | value
  /-- The first value of an array, or its end. -/
  | firstItem
  /-- The first key of an object, or its end. -/
  | firstKey
  | key (before : List (List UInt8 × Json))
  | colon (before : List (List UInt8 × Json)) (key : List UInt8)
  /-- What may follow a complete value. -/
  | after (value : Json)

def begin (outer : List Frame) : Token → Option (List Frame × Place)
  | .null => some (outer, .after .null)
  | .bool value => some (outer, .after (.bool value))
  | .number spelling => some (outer, .after (.number spelling))
  | .string spelling => some (outer, .after (.string spelling))
  | .openArray => some (.array [] :: outer, .firstItem)
  | .openObject => some (outer, .firstKey)
  | _ => none

def advance : List Frame → Place → Token → Option (List Frame × Place)
  | outer, .value, token => begin outer token
  | .array _ :: outer, .firstItem, .closeArray => some (outer, .after (.array []))
  | outer, .firstItem, token => begin outer token
  | outer, .firstKey, .closeObject => some (outer, .after (.object []))
  | outer, .firstKey, .string key => some (outer, .colon [] key)
  | outer, .key before, .string key => some (outer, .colon before key)
  | outer, .colon before key, .colon => some (.object before key :: outer, .value)
  | .array before :: outer, .after value, .comma => some (.array (value :: before) :: outer, .value)
  | .array before :: outer, .after value, .closeArray =>
    some (outer, .after (.array (value :: before).reverse))
  | .object before key :: outer, .after value, .comma => some (outer, .key ((key, value) :: before))
  | .object before key :: outer, .after value, .closeObject =>
    some (outer, .after (.object ((key, value) :: before).reverse))
  | _, _, _ => none

def build (outer : List Frame) (place : Place) : List Token → Option Json
  | [] =>
    match outer, place with
    | [], .after value => some value
    | _, _ => none
  | token :: rest => do
    let (outer, place) ← advance outer place token
    build outer place rest

/-- The value of a text that holds one value and nothing else. -/
def parse (input : List UInt8) : Option Json := (Token.scan input).bind (build [] .value)

end CodeExtension.Json
