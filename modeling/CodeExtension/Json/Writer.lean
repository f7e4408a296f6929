import CodeExtension.Json.Spelling

/-! Writing JSON, on one line or with a line for each item and member. -/
namespace CodeExtension.Json

inductive Layout where
  | compact
  | indented

namespace Layout

/-- The line break before something that stands `depth` levels in, two spaces each. -/
def lineBreak (layout : Layout) (depth : Nat) : List UInt8 :=
  match layout with
  | .compact => []
  | .indented => 0x0A :: List.replicate (2 * depth) 0x20

def separator : Layout → List UInt8
  | .compact => [colon]
  | .indented => [colon, 0x20]

/-- Puts a list of written parts between brackets; an empty one has no line breaks. -/
def enclose (layout : Layout) (depth : Nat) (opening closing : UInt8) :
    List (List UInt8) → List UInt8
  | [] => [opening, closing]
  | parts =>
    let lines := parts.map (layout.lineBreak (depth + 1) ++ ·)
    opening :: [comma].intercalate lines ++ layout.lineBreak depth ++ [closing]

end Layout

def quote (spelling : List UInt8) : List UInt8 := quotationMark :: spelling ++ [quotationMark]

mutual

def render (layout : Layout) (depth : Nat) : Json → List UInt8
  | .null => [0x6E, 0x75, 0x6C, 0x6C]
  | .bool true => [0x74, 0x72, 0x75, 0x65]
  | .bool false => [0x66, 0x61, 0x6C, 0x73, 0x65]
  | .number spelling => spelling
  | .string spelling => quote spelling
  | .array items =>
    layout.enclose depth openBracket closeBracket (renderItems layout (depth + 1) items)
  | .object members =>
    layout.enclose depth openBrace closeBrace (renderMembers layout (depth + 1) members)

def renderItems (layout : Layout) (depth : Nat) : List Json → List (List UInt8)
  | [] => []
  | item :: rest => render layout depth item :: renderItems layout depth rest

def renderMembers (layout : Layout) (depth : Nat) :
    List (List UInt8 × Json) → List (List UInt8)
  | [] => []
  | (key, value) :: rest =>
    (quote key ++ layout.separator ++ render layout depth value) ::
      renderMembers layout depth rest

end

def compact (value : Json) : List UInt8 := render .compact 0 value

def pretty (value : Json) : List UInt8 := render .indented 0 value

end CodeExtension.Json
