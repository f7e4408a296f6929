import CodeExtension.Profile

/-! The registered members of the family: ISO-2022-JP and its two extensions, and
ISO-2022-KR. -/
namespace CodeExtension.Profile

/-- The full-width reverse solidus keeps the position of the reverse solidus. -/
def reverseSolidus : Substitution := ⟨'\uFF3C', .jisX0208, 0x2140⟩

def japaneseDesignations : List Designation :=
  [⟨.ascii, .g0⟩, ⟨.jisRoman, .g0⟩, ⟨.jisX0208, .g0⟩, ⟨.jisC6226, .g0⟩]

def japanese : Profile where
  name := "iso2022_jp"
  designations := japaneseDesignations
  candidates := [.jisX0208, .jisRoman]
  substitutions := [reverseSolidus]

/-- Adds the supplementary kanji. -/
def japanese1 : Profile where
  name := "iso2022_jp_1"
  designations := japaneseDesignations ++ [⟨.jisX0212, .g0⟩]
  candidates := [.jisX0208, .jisX0212, .jisRoman]
  substitutions := [reverseSolidus]

/-- Adds Chinese and Korean, and Latin-1 and Greek by single shift. The two sets in G2 are read
but never written. -/
def japanese2 : Profile where
  name := "iso2022_jp_2"
  designations := japaneseDesignations ++
    [⟨.jisX0212, .g0⟩, ⟨.gb2312, .g0⟩, ⟨.ksX1001, .g0⟩, ⟨.latin1, .g2⟩, ⟨.latinGreek, .g2⟩]
  candidates := [.jisX0208, .jisX0212, .ksX1001, .gb2312, .jisRoman]
  substitutions := [reverseSolidus]
  singleShift := true

def korean : Profile where
  name := "iso2022_kr"
  designations := [⟨.ascii, .g0⟩, ⟨.ksX1001, .g1⟩]
  candidates := [.ksX1001]
  lockingShift := true

def registered : List Profile := [japanese, japanese1, japanese2, korean]

/-- A name without its hyphens and underscores, in lower case and without a leading "cs". -/
def key (name : String) : List Char :=
  match (name.toList.filter fun c => c ≠ '-' ∧ c ≠ '_').map Char.toLower with
  | 'c' :: 's' :: rest => rest
  | plain => plain

def named? (name : String) : Option Profile :=
  registered.find? fun profile => key profile.name = key name

end CodeExtension.Profile
