import CodeExtension.GraphicSet

/-! What a reader or writer of the code remembers between characters: the set designated into
each code element and whether the locking shift is in force. -/
namespace CodeExtension

inductive CodeElement where
  | g0
  | g1
  | g2
  deriving DecidableEq

namespace CodeElement

def all : List CodeElement := [.g0, .g1, .g2]

def name : CodeElement → String
  | .g0 => "g0"
  | .g1 => "g1"
  | .g2 => "g2"

def label : CodeElement → String
  | .g0 => "G0"
  | .g1 => "G1"
  | .g2 => "G2"

end CodeElement

/-- Every code starts with ASCII in all elements and G0 invoked. -/
structure CodeState where
  g0 : GraphicSet := .ascii
  g1 : GraphicSet := .ascii
  g2 : GraphicSet := .ascii
  shifted : Bool := false
  deriving DecidableEq

namespace CodeState

def initial : CodeState := {}

def get (s : CodeState) : CodeElement → GraphicSet
  | .g0 => s.g0
  | .g1 => s.g1
  | .g2 => s.g2

def designate (s : CodeState) (element : CodeElement) (charset : GraphicSet) : CodeState :=
  match element with
  | .g0 => { s with g0 := charset }
  | .g1 => { s with g1 := charset }
  | .g2 => { s with g2 := charset }

def shift (s : CodeState) (shifted : Bool) : CodeState := { s with shifted }

def invoked (s : CodeState) : CodeElement := if s.shifted then .g1 else .g0

def active (s : CodeState) : GraphicSet := s.get s.invoked

/-- Whether plain bytes are ASCII again; what G1 and G2 hold does not matter. -/
def atBaseline (s : CodeState) : Bool := s.g0 = .ascii ∧ s.shifted = false

@[simp] theorem get_designate_same (s : CodeState) (element : CodeElement)
    (charset : GraphicSet) : (s.designate element charset).get element = charset := by
  cases element <;> rfl

@[simp] theorem get_designate_other {element other : CodeElement} (s : CodeState)
    (charset : GraphicSet) (h : other ≠ element) :
    (s.designate element charset).get other = s.get other := by
  cases element <;> cases other <;> simp_all [designate, get]

@[simp] theorem designate_get (s : CodeState) (element : CodeElement) :
    s.designate element (s.get element) = s := by
  cases element <;> rfl

end CodeState

end CodeExtension
