/-! The graphic character sets that a code can designate: their shape, the final byte that names
each in a designation, and the mapping table, if any, that each is read through. -/
namespace CodeExtension

/-- The positions a set occupies: one byte over 94 or 96 positions, or two bytes over 94 by 94. -/
inductive Shape where
  | set94
  | set96
  | set94x94
  deriving DecidableEq

/-- Bytes per character. -/
def Shape.width : Shape → Nat
  | .set94 | .set96 => 1
  | .set94x94 => 2

inductive TableId where
  | jisX0208
  | jisX0212
  | ksX1001
  | gb2312
  | latinGreek
  deriving DecidableEq

namespace TableId

def all : List TableId := [.jisX0208, .jisX0212, .ksX1001, .gb2312, .latinGreek]

def name : TableId → String
  | .jisX0208 => "jisx0208"
  | .jisX0212 => "jisx0212"
  | .ksX1001 => "ksx1001"
  | .gb2312 => "gb2312"
  | .latinGreek => "iso8859-7"

def label : TableId → String
  | .jisX0208 => "JisX0208"
  | .jisX0212 => "JisX0212"
  | .ksX1001 => "KsX1001"
  | .gb2312 => "Gb2312"
  | .latinGreek => "Iso8859_7"

end TableId

/-- The sets a profile may designate. `jisC6226` is the 1978 edition of `jisX0208`, `jisRoman`
the Latin half of JIS X 0201; `latin1` and `latinGreek` are the right halves of ISO 8859-1
and ISO 8859-7. -/
inductive GraphicSet where
  | ascii
  | jisRoman
  | jisX0208
  | jisC6226
  | jisX0212
  | ksX1001
  | gb2312
  | latin1
  | latinGreek
  deriving DecidableEq

namespace GraphicSet

def all : List GraphicSet :=
  [.ascii, .jisRoman, .jisX0208, .jisC6226, .jisX0212, .ksX1001, .gb2312, .latin1, .latinGreek]

theorem mem_all (charset : GraphicSet) : charset ∈ all := by cases charset <;> decide

def shape : GraphicSet → Shape
  | .ascii | .jisRoman => .set94
  | .latin1 | .latinGreek => .set96
  | .jisX0208 | .jisC6226 | .jisX0212 | .ksX1001 | .gb2312 => .set94x94

def isDouble (charset : GraphicSet) : Bool := charset.shape = .set94x94

@[simp] theorem isDouble_iff {charset : GraphicSet} :
    charset.isDouble = true ↔ charset.shape = .set94x94 := by
  simp [isDouble]

/-- The byte that ends a designation of the set. -/
def finalByte : GraphicSet → UInt8
  | .ascii => 0x42
  | .jisRoman => 0x4A
  | .jisX0208 => 0x42
  | .jisC6226 => 0x40
  | .jisX0212 => 0x44
  | .ksX1001 => 0x43
  | .gb2312 => 0x41
  | .latin1 => 0x41
  | .latinGreek => 0x46

def ofFinalByte? (shape : Shape) (byte : UInt8) : Option GraphicSet :=
  all.find? fun charset => charset.shape = shape ∧ charset.finalByte = byte

theorem eq_of_finalByte {a b : GraphicSet} (shape : a.shape = b.shape)
    (byte : a.finalByte = b.finalByte) : a = b := by
  revert shape byte
  cases a <;> cases b <;> decide

theorem ofFinalByte?_eq_some_iff {shape : Shape} {byte : UInt8} {charset : GraphicSet} :
    ofFinalByte? shape byte = some charset ↔ charset.shape = shape ∧ charset.finalByte = byte := by
  constructor
  · intro found
    simpa using List.find?_some found
  · rintro ⟨rfl, rfl⟩
    cases found : ofFinalByte? charset.shape charset.finalByte with
    | none =>
      have absent := List.find?_eq_none.mp found charset charset.mem_all
      simp at absent
    | some other =>
      have same : other.shape = charset.shape ∧ other.finalByte = charset.finalByte := by
        simpa using List.find?_some found
      rw [eq_of_finalByte same.1 same.2]

/-- The table the set is read through. ASCII, the Roman set and Latin-1 are computed; the two
editions of JIS X 0208 share one table. -/
def table? : GraphicSet → Option TableId
  | .ascii | .jisRoman | .latin1 => none
  | .jisX0208 | .jisC6226 => some .jisX0208
  | .jisX0212 => some .jisX0212
  | .ksX1001 => some .ksX1001
  | .gb2312 => some .gb2312
  | .latinGreek => some .latinGreek

def name : GraphicSet → String
  | .ascii => "ascii"
  | .jisRoman => "jisx0201-roman"
  | .jisX0208 => "jisx0208"
  | .jisC6226 => "jisx0208-1978"
  | .jisX0212 => "jisx0212"
  | .ksX1001 => "ksx1001"
  | .gb2312 => "gb2312"
  | .latin1 => "iso8859-1"
  | .latinGreek => "iso8859-7"

def label : GraphicSet → String
  | .ascii => "Ascii"
  | .jisRoman => "JisX0201Roman"
  | .jisX0208 => "JisX0208"
  | .jisC6226 => "JisX0208_1978"
  | .jisX0212 => "JisX0212"
  | .ksX1001 => "KsX1001"
  | .gb2312 => "Gb2312"
  | .latin1 => "Iso8859_1"
  | .latinGreek => "Iso8859_7"

end GraphicSet

end CodeExtension
