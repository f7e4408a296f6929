import CodeExtension.Fault
import CodeExtension.Scheme

/-! Why setting up or using a codec failed. -/
namespace CodeExtension

inductive Failure where
  | fault (cause : Fault)
  | unknownProfile (name : String)
  | defective (profile : String) (defect : Defect)
  /-- A file cannot be read or written. -/
  | file
  /-- A document is not what it should be. -/
  | document
  deriving DecidableEq

def Defect.message (profile : String) : Defect → String
  | .missingTable id => s!"Profile {profile} needs table {id.label}, which is not loaded"
  | .undesignatable charset element =>
    s!"Invalid profile {profile}: {charset.label} cannot be designated into {element.label}"
  | .undesignated charset =>
    s!"Invalid profile {profile}: {charset.label} is encoded but never designated"

/-- The text of a failure, except where it is up to the system that reported it. -/
def Failure.message? : Failure → Option String
  | .fault cause => some cause.message
  | .unknownProfile name => some s!"Unknown encoding profile: {name}"
  | .defective profile defect => some (defect.message profile)
  | .file | .document => none

end CodeExtension
