import CodeExtension.Catalogue
import CodeExtension.Escape
import CodeExtension.Profile

/-! A profile together with the tables it is used with, and what can be wrong with the pair. -/
namespace CodeExtension

structure Scheme where
  profile : Profile
  tables : Catalogue

inductive Defect where
  | missingTable (id : TableId)
  /-- No escape sequence puts the set into the element. -/
  | undesignatable (charset : GraphicSet) (element : CodeElement)
  /-- The profile writes a set that it never designates. -/
  | undesignated (charset : GraphicSet)
  deriving DecidableEq

namespace Scheme

/-- The tables that the designations need and that are not loaded. -/
def missingTables (scheme : Scheme) : List TableId :=
  scheme.tables.missing (scheme.profile.designations.map (·.charset))

def written (scheme : Scheme) : List GraphicSet :=
  scheme.profile.candidates ++ scheme.profile.substitutions.map (·.charset)

/-- The first defect: a missing table, then a designation that cannot be made, then a set that is
written without being designated. ASCII is taken to need no designation. -/
def defect? (scheme : Scheme) : Option Defect :=
  (scheme.missingTables.head?.map .missingTable).or <|
  ((scheme.profile.designations.find? fun d =>
    (Escape.designation? d.element d.charset).isNone).map fun d =>
      .undesignatable d.charset d.element).or <|
  (scheme.written.find? fun charset =>
    charset ≠ .ascii ∧ (scheme.profile.elementFor? charset).isNone).map .undesignated

end Scheme

end CodeExtension
