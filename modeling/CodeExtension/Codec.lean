import CodeExtension.Failure
import CodeExtension.Profile.Registered
import CodeExtension.Scheme.Reading
import CodeExtension.Scheme.Writing
import CodeExtension.Standard

/-! Codecs: schemes without defect, with a choice of what to do about text that cannot be written
and bytes that cannot be read. -/
namespace CodeExtension

inductive Recovery where
  /-- The first fault is the result. -/
  | strict
  /-- A mark takes the place of what is at fault. -/
  | replace
  /-- What is at fault is left out. -/
  | ignore
  deriving DecidableEq

namespace Recovery

def all : List Recovery := [.strict, .replace, .ignore]

def name : Recovery → String
  | .strict => "strict"
  | .replace => "replace"
  | .ignore => "ignore"

/-- The marks for an unmappable scalar and for bytes that cannot be read. -/
def scalarMark : Char := '?'
def bytesMark : Char := '\uFFFD'

/-- Writes a scalar, and if it is refused goes on from there as the choice of recovery says. -/
def encodeScalar (recovery : Recovery) (scheme : Scheme) (s : CodeState) (scalar : Char) :
    Run CodeState UInt8 :=
  let run := scheme.encodeScalar s scalar
  let kept := Run.write run.output run.state
  match run.fault, recovery with
  | some (.unmappable ..), .replace => kept.andThen fun s => scheme.encodeScalar s scalarMark
  | some (.unmappable ..), .ignore => kept
  | _, _ => run

/-- Passes over what a malformed unit covers: as many bytes as its fault says, or all the rest
if the input ends inside it. -/
def forgive (s : CodeState) (rest : List UInt8) (mark : List Char) : Step → Step
  | .stop (.invalidByte _ length) | .stop (.invalidEscape _ length) => .take (length - 1) s mark
  | .stop (.incomplete _) => .take rest.length s mark
  | step => step

/-- Reads a unit, or what the choice of recovery puts in its place. -/
def step (recovery : Recovery) (scheme : Scheme) (s : CodeState) (byte : UInt8)
    (rest : List UInt8) : Step :=
  match recovery with
  | .strict => scheme.step s byte rest
  | .replace => forgive s rest [bytesMark] (scheme.step s byte rest)
  | .ignore => forgive s rest [] (scheme.step s byte rest)

end Recovery

structure Codec where
  scheme : Scheme
  recovery : Recovery := .strict
  sound : scheme.defect? = none

namespace Codec

def ofScheme (scheme : Scheme) : Except Failure Codec :=
  match sound : scheme.defect? with
  | none => .ok { scheme, sound }
  | some defect => .error (.defective scheme.profile.name defect)

def named (name : String) : Except Failure Codec :=
  match Profile.named? name with
  | some profile => ofScheme ⟨profile, .standard⟩
  | none => .error (.unknownProfile name)

def withRecovery (codec : Codec) (recovery : Recovery) : Codec := { codec with recovery }

def encode (codec : Codec) (text : List Char) : Except Failure (List UInt8) :=
  ((Run.forEach (codec.recovery.encodeScalar codec.scheme) .initial text).andThen
    CodeState.reset).result.mapError .fault

def decode (codec : Codec) (input : List UInt8) : Except Failure (List Char) :=
  (Step.run (codec.recovery.step codec.scheme) .initial input).result.mapError .fault

end Codec

end CodeExtension
