import CodeExtension.Json.Reader
import CodeExtension.Json.Writer

/-! The shapes that documents are made of, each read from a JSON value. A record is an object or
the array of its fields in order; a choice is its name or an object with the name as only key. -/
namespace CodeExtension.Document

def text? : Json → Option String
  | .string spelling => Json.text? spelling
  | _ => none

def flag? : Json → Option Bool
  | .bool value => some value
  | _ => none

/-- A text of exactly one scalar. -/
def scalar? (json : Json) : Option Char := do
  match (← text? json).toList with
  | [scalar] => some scalar
  | _ => none

/-- A number below 2^16, written in digits alone. -/
def word? (json : Json) : Option UInt16 := do
  let value ← json.natural?
  if value < 65536 then some (UInt16.ofNat value) else none

def list? {α : Type} (item? : Json → Option α) : Json → Option (List α)
  | .array items => items.mapM item?
  | _ => none

def choice? {α : Type} (all : List α) (name : α → String) (json : Json) : Option α := do
  let given ← match json with
    | .string spelling => Json.text? spelling
    | .object [(key, .null)] => Json.text? key
    | _ => none
  all.find? (name · = given)

/-- The values of a record's fields, where a field that is not there has none. A repeated field
and an array that is too long are refused; members of other names are passed over. -/
def fields? (names : List String) : Json → Option (List (Option Json))
  | .object members => do
    let named ← members.mapM fun (key, value) => (Json.text? key).map (·, value)
    names.mapM fun name =>
      match named.filter (·.1 = name) with
      | [] => some none
      | [(_, value)] => some (some value)
      | _ => none
  | .array items =>
    if items.length ≤ names.length then
      some (items.map some ++ List.replicate (names.length - items.length) none)
    else none
  | _ => none

def optional {α : Type} (default : α) (value? : Json → Option α) : Option Json → Option α
  | none => some default
  | some json => value? json

def ofList {α : Type} (json : α → Json) (items : List α) : Json := .array (items.map json)

end CodeExtension.Document
