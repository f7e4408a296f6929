import CodeExtension.CodeState
import CodeExtension.Text.Quoted

/-! Why a conversion stopped. Offsets count bytes when reading and scalars when writing, from
the start of what was converted. -/
namespace CodeExtension

inductive Fault where
  | unmappable (scalar : Char) (offset : Nat)
  | invalidByte (offset length : Nat)
  | invalidEscape (offset length : Nat)
  /-- The input ends inside a character or a sequence. -/
  | incomplete (offset : Nat)
  /-- The profile leads to a set that cannot be used from the element it is in. -/
  | internal (offset : Nat) (charset : GraphicSet) (element : CodeElement)
  deriving DecidableEq

namespace Fault

def offset : Fault → Nat
  | .unmappable _ offset | .invalidByte offset _ | .invalidEscape offset _ | .incomplete offset
  | .internal offset _ _ => offset

/-- The same fault in a text where the converted part starts at `base`. -/
def rebase (base : Nat) : Fault → Fault
  | .unmappable scalar offset => .unmappable scalar (offset + base)
  | .invalidByte offset length => .invalidByte (offset + base) length
  | .invalidEscape offset length => .invalidEscape (offset + base) length
  | .incomplete offset => .incomplete (offset + base)
  | .internal offset charset element => .internal (offset + base) charset element

/-- Whether more input could mend the fault. -/
def isRecoverable : Fault → Bool
  | .incomplete _ => true
  | _ => false

def isInternal : Fault → Bool
  | .internal .. => true
  | _ => false

def message : Fault → String
  | .unmappable scalar offset =>
    s!"character {Text.quoted scalar} cannot be encoded in this profile (position {offset})"
  | .invalidByte offset _ => s!"invalid byte sequence at offset {offset}"
  | .invalidEscape offset _ => s!"invalid escape sequence at offset {offset}"
  | .incomplete offset => s!"incomplete multibyte sequence at offset {offset}"
  | .internal offset charset element =>
    s!"internal error at offset {offset}: {charset.label} cannot be used from {element.label}"

@[simp] theorem offset_rebase (base : Nat) (fault : Fault) :
    (fault.rebase base).offset = fault.offset + base := by
  cases fault <;> rfl

@[simp] theorem rebase_zero (fault : Fault) : fault.rebase 0 = fault := by
  cases fault <;> rfl

@[simp] theorem rebase_rebase (a b : Nat) (fault : Fault) :
    (fault.rebase a).rebase b = fault.rebase (a + b) := by
  cases fault <;> simp [rebase, Nat.add_assoc]

@[simp] theorem isRecoverable_rebase (base : Nat) (fault : Fault) :
    (fault.rebase base).isRecoverable = fault.isRecoverable := by
  cases fault <;> rfl

@[simp] theorem isInternal_rebase (base : Nat) (fault : Fault) :
    (fault.rebase base).isInternal = fault.isInternal := by
  cases fault <;> rfl

end Fault

end CodeExtension
