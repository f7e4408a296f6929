import CodeExtension.Code
import CodeExtension.CodeState

/-! Profiles: what one code of the family accepts and how it writes. A profile need not make
sense; whether it can be used is decided where it meets its tables. -/
namespace CodeExtension

structure Designation where
  charset : GraphicSet
  element : CodeElement
  deriving DecidableEq

/-- A scalar written at a fixed position when no table has it, and read back from there. -/
structure Substitution where
  scalar : Char
  charset : GraphicSet
  code : Code
  deriving DecidableEq

structure Profile where
  name : String
  designations : List Designation
  /-- The sets to try for a scalar outside ASCII, in order of preference. -/
  candidates : List GraphicSet
  substitutions : List Substitution := []
  /-- Whether SO and SI invoke G1 and G0. -/
  lockingShift : Bool := false
  /-- Whether ESC N reads one byte through G2. -/
  singleShift : Bool := false
  deriving DecidableEq

namespace Profile

/-- The element a set is written through: where it is designated first. -/
def elementFor? (profile : Profile) (charset : GraphicSet) : Option CodeElement :=
  (profile.designations.find? (·.charset = charset)).map (·.element)

/-- Whether a designation is accepted. ASCII may always return to G0. -/
def supports (profile : Profile) (element : CodeElement) (charset : GraphicSet) : Bool :=
  (element = .g0 ∧ charset = .ascii) ∨ ⟨charset, element⟩ ∈ profile.designations

def substitution? (profile : Profile) (scalar : Char) : Option Substitution :=
  profile.substitutions.find? (·.scalar = scalar)

/-- Sets read through one table share their substitutions. -/
def sharesPositions (a b : GraphicSet) : Bool :=
  a = b ∨ a.table? ≠ none ∧ a.table? = b.table?

def literal? (profile : Profile) (charset : GraphicSet) (code : Code) : Option Char :=
  (profile.substitutions.find? fun s => s.code = code ∧ sharesPositions s.charset charset).map
    (·.scalar)

end Profile

end CodeExtension
