import CodeExtension.CodeTable
import CodeExtension.Document

/-! Table files: a record with the list of a table's entries. -/
namespace CodeExtension

namespace Entry

def ofJson? (json : Json) : Option Entry := do
  match ← Document.fields? ["scalar", "code"] json with
  | [some scalar, some code] =>
    some ⟨← Document.scalar? scalar, ← Document.word? code⟩
  | _ => none

def toJson (entry : Entry) : Json := .object [
  Json.member "scalar" (.ofText entry.scalar.toString),
  Json.member "code" (.ofNat entry.code.toNat)]

end Entry

namespace CodeTable

def ofJson? (json : Json) : Option CodeTable := do
  match ← Document.fields? ["entries"] json with
  | [some entries] => (Document.list? Entry.ofJson? entries).map ofEntries
  | _ => none

def toJson (table : CodeTable) : Json := .object [
  Json.member "entries" (Document.ofList Entry.toJson table.entries)]

def parse? (input : List UInt8) : Option CodeTable := (Json.parse input).bind ofJson?

end CodeTable

end CodeExtension
