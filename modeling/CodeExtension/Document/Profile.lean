import CodeExtension.Document
import CodeExtension.Profile

/-! Profiles as documents. -/
namespace CodeExtension

def GraphicSet.ofJson? (json : Json) : Option GraphicSet :=
  Document.choice? GraphicSet.all GraphicSet.name json

def GraphicSet.toJson (charset : GraphicSet) : Json := .ofText charset.name

def CodeElement.ofJson? (json : Json) : Option CodeElement :=
  Document.choice? CodeElement.all CodeElement.name json

def CodeElement.toJson (element : CodeElement) : Json := .ofText element.name

def Designation.ofJson? (json : Json) : Option Designation := do
  match ← Document.fields? ["charset", "register"] json with
  | [some charset, some element] =>
    some ⟨← GraphicSet.ofJson? charset, ← CodeElement.ofJson? element⟩
  | _ => none

def Designation.toJson (designation : Designation) : Json := .object [
  Json.member "charset" designation.charset.toJson,
  Json.member "register" designation.element.toJson]

def Substitution.ofJson? (json : Json) : Option Substitution := do
  match ← Document.fields? ["scalar", "charset", "code"] json with
  | [some scalar, some charset, some code] =>
    some ⟨← Document.scalar? scalar, ← GraphicSet.ofJson? charset, ← Document.word? code⟩
  | _ => none

def Substitution.toJson (substitution : Substitution) : Json := .object [
  Json.member "scalar" (.ofText substitution.scalar.toString),
  Json.member "charset" substitution.charset.toJson,
  Json.member "code" (.ofNat substitution.code.toNat)]

namespace Profile

def fieldNames : List String :=
  ["name", "designations", "candidates", "substitutions", "locking_shift", "single_shift"]

/-- Substitutions and shifts may be left out. -/
def ofJson? (json : Json) : Option Profile := do
  match ← Document.fields? fieldNames json with
  | [some name, some designations, some candidates, substitutions, lockingShift, singleShift] =>
    some {
      name := ← Document.text? name
      designations := ← Document.list? Designation.ofJson? designations
      candidates := ← Document.list? GraphicSet.ofJson? candidates
      substitutions :=
        ← Document.optional [] (Document.list? Substitution.ofJson?) substitutions
      lockingShift := ← Document.optional false Document.flag? lockingShift
      singleShift := ← Document.optional false Document.flag? singleShift }
  | _ => none

def toJson (profile : Profile) : Json := .object [
  Json.member "name" (.ofText profile.name),
  Json.member "designations" (Document.ofList Designation.toJson profile.designations),
  Json.member "candidates" (Document.ofList GraphicSet.toJson profile.candidates),
  Json.member "substitutions" (Document.ofList Substitution.toJson profile.substitutions),
  Json.member "locking_shift" (.bool profile.lockingShift),
  Json.member "single_shift" (.bool profile.singleShift)]

def parse? (input : List UInt8) : Option Profile := (Json.parse input).bind ofJson?

end Profile

end CodeExtension
