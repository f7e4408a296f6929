import CodeExtension.Text.Graphic
import CodeExtension.Text.Extender

/-! A single character as messages show it, between apostrophes. -/
namespace CodeExtension.Text

/-- The number of a scalar in braces, in lower-case hexadecimal without padding. -/
def numbered (c : Char) : String :=
  "\\u\x7b" ++ String.ofList (Nat.toDigits 16 c.toNat) ++ "\x7d"

/-- Six characters have a short escape; a scalar that would not show on its own is numbered. -/
def escaped (c : Char) : String :=
  match c with
  | '\x00' => "\\0"
  | '\t' => "\\t"
  | '\r' => "\\r"
  | '\n' => "\\n"
  | '\'' => "\\'"
  | '\\' => "\\\\"
  | c => if isExtender c || !isGraphic c then numbered c else c.toString

def quoted (c : Char) : String := "'" ++ escaped c ++ "'"

end CodeExtension.Text
