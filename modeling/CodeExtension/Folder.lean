/-! A folder of files, each a sequence of bytes under a name, and the paths that lead into it.
Nothing is known of what lies outside but that there are folders above. -/
namespace CodeExtension

inductive Location where
  /-- A name in the folder, whether or not a file has it. -/
  | file (name : String)
  /-- The folder itself or one above it. -/
  | folder
  | nowhere
  deriving DecidableEq

namespace Location

/-- The most bytes that a name and a path may have. -/
def maxName : Nat := 255
def maxPath : Nat := 4095

/-- Follows the components of a path from the folder, or else from one above it. A name ends the
path: no file has anything below it and there is no other folder. -/
def follow (inside : Bool) : List String → Location
  | [] => .folder
  | component :: rest =>
    if component = "" ∨ component = "." then follow inside rest
    else if component = ".." then follow false rest
    else if inside ∧ rest = [] ∧ component.utf8ByteSize ≤ maxName then .file component
    else .nowhere

def ofPath (path : String) : Location :=
  if path = "" ∨ maxPath < path.utf8ByteSize ∨ '\x00' ∈ path.toList then .nowhere
  else follow (path.toList.head? ≠ some '/') (path.splitOn "/")

end Location

structure Folder where
  files : List (String × List UInt8) := []

namespace Folder

def read? (folder : Folder) (path : String) : Option (List UInt8) :=
  match Location.ofPath path with
  | .file name => folder.files.lookup name
  | .folder | .nowhere => none

def write? (folder : Folder) (path : String) (content : List UInt8) : Option Folder :=
  match Location.ofPath path with
  | .file name => some ⟨(name, content) :: folder.files⟩
  | .folder | .nowhere => none

end Folder

end CodeExtension
