import CodeExtension.Codec
import CodeExtension.Document.Profile
import CodeExtension.Document.Table
import CodeExtension.Folder

/-! Settings: the description of a codec that is kept in a document, with the files and profiles
it brings along. -/
namespace CodeExtension

structure TableSource where
  id : TableId
  path : String
  deriving DecidableEq

structure Settings where
  profile : String := "iso2022_jp_2"
  recovery : Recovery := .strict
  /-- Whether the published tables are loaded before the table files. -/
  standardTables : Bool := true
  tables : List TableSource := []
  profiles : List Profile := []
  deriving DecidableEq

namespace TableSource

def ofJson? (json : Json) : Option TableSource := do
  match ← Document.fields? ["key", "path"] json with
  | [some id, some path] =>
    some ⟨← Document.choice? TableId.all TableId.name id, ← Document.text? path⟩
  | _ => none

def toJson (source : TableSource) : Json := .object [
  Json.member "key" (.ofText source.id.name),
  Json.member "path" (.ofText source.path)]

end TableSource

namespace Settings

def fieldNames : List String := ["profile", "errors", "builtin_tables", "tables", "profiles"]

/-- Every field may be left out. -/
def ofJson? (json : Json) : Option Settings := do
  let default : Settings := {}
  match ← Document.fields? fieldNames json with
  | [profile, recovery, standardTables, tables, profiles] =>
    some {
      profile := ← Document.optional default.profile Document.text? profile
      recovery :=
        ← Document.optional default.recovery (Document.choice? Recovery.all Recovery.name) recovery
      standardTables := ← Document.optional default.standardTables Document.flag? standardTables
      tables := ← Document.optional [] (Document.list? TableSource.ofJson?) tables
      profiles := ← Document.optional [] (Document.list? Profile.ofJson?) profiles }
  | _ => none

def toJson (settings : Settings) : Json := .object [
  Json.member "profile" (.ofText settings.profile),
  Json.member "errors" (.ofText settings.recovery.name),
  Json.member "builtin_tables" (.bool settings.standardTables),
  Json.member "tables" (Document.ofList TableSource.toJson settings.tables),
  Json.member "profiles" (Document.ofList Profile.toJson settings.profiles)]

def parse (input : List UInt8) : Except Failure Settings :=
  match (Json.parse input).bind ofJson? with
  | some settings => .ok settings
  | none => .error .document

def load (folder : Folder) (path : String) : Except Failure Settings := do
  match folder.read? path with
  | none => .error .file
  | some content =>
    if (String.fromUTF8? ⟨content.toArray⟩).isSome then parse content else .error .file

/-- Writes settings to a file, one item or member to a line. -/
def save (settings : Settings) (folder : Folder) (path : String) : Except Failure Folder :=
  match folder.write? path settings.toJson.pretty with
  | some folder => .ok folder
  | none => .error .file

/-- The profile that is chosen: one of the settings' own with exactly this name, or else a
registered one. -/
def resolve (settings : Settings) : Except Failure Profile :=
  match (settings.profiles.find? (·.name = settings.profile)).or
      (Profile.named? settings.profile) with
  | some profile => .ok profile
  | none => .error (.unknownProfile settings.profile)

/-- Loads one table file. A folder can be opened as if it were a file, but holds no document. -/
def loadTable (folder : Folder) (tables : Catalogue) (source : TableSource) :
    Except Failure Catalogue :=
  match folder.read? source.path with
  | none => .error (if Location.ofPath source.path = .folder then .document else .file)
  | some content =>
    match CodeTable.parse? content with
    | some table => .ok (tables.insert source.id table)
    | none => .error .document

/-- Loads the table files in order, so that the last of a name counts. -/
def loadTables (settings : Settings) (folder : Folder) : Except Failure Catalogue :=
  settings.tables.foldlM (loadTable folder)
    (if settings.standardTables then .standard else .empty)

def codec (settings : Settings) (folder : Folder) : Except Failure Codec := do
  let profile ← settings.resolve
  let tables ← settings.loadTables folder
  let codec ← Codec.ofScheme ⟨profile, tables⟩
  return codec.withRecovery settings.recovery

end Settings

end CodeExtension
