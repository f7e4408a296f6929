import CodeExtension.Proofs.Coherence
import CodeExtension.Proofs.Parts

/-! Adding to a profile. A profile can be given more designations, and the single shift, without
changing what its readers already understand: which designations are accepted decides only where a
reader stops, while the shifts and substitutions decide what bytes mean. So an input that reads to
its end under a profile reads the same under any that extends it. -/
namespace CodeExtension

namespace Profile

/-- Whatever `small` accepts, `large` accepts, and what gives bytes their meaning is the same in
both. Names and candidates may differ. -/
structure Extends (large small : Profile) : Prop where
  designations : small.designations ⊆ large.designations
  substitutions : large.substitutions = small.substitutions
  lockingShift : large.lockingShift = small.lockingShift
  singleShift : small.singleShift = true → large.singleShift = true

theorem extends_japanese : japanese1.Extends japanese ∧ japanese2.Extends japanese1 :=
  ⟨⟨by decide, rfl, rfl, by decide⟩, ⟨by decide, rfl, rfl, by decide⟩⟩

variable {large small : Profile}

theorem Extends.supports (wider : large.Extends small) {element : CodeElement}
    {charset : GraphicSet} (supported : small.supports element charset = true) :
    large.supports element charset = true := by
  have cases : element = .g0 ∧ charset = .ascii ∨ ⟨charset, element⟩ ∈ small.designations := by
    simpa [Profile.supports] using supported
  rcases cases with ascii | listed
  · simp [Profile.supports, ascii]
  · simp [Profile.supports, wider.designations listed]

end Profile

namespace Scheme

variable {large small : Profile} {tables : Catalogue} {s state : CodeState} {bytes : List UInt8}
  {text : List Char}

theorem Takes.of_extends (wider : large.Extends small)
    (unit : (Scheme.mk small tables).Takes s bytes state text) :
    (Scheme.mk large tables).Takes s bytes state text := by
  cases unit with
  | designation spelled supported => exact .designation spelled (wider.supports supported)
  | singleShifted shifting graphic narrow found =>
    -- Which character G2 has is up to the tables alone.
    exact .singleShifted (wider.singleShift shifting) graphic narrow found
  | shift shifting kind => exact .shift (wider.lockingShift.trans shifting) kind
  | newline => exact .newline
  | control low notEscape notLineFeed notShift =>
    rw [← wider.lockingShift] at notShift
    exact .control low notEscape notLineFeed notShift
  | single graphic shape found => exact .single graphic shape found
  | double graphic shape found =>
    refine .double graphic shape ?_
    simpa only [doubleByte?, Profile.literal?, wider.substitutions] using found

/-- An input that reads to its end under a profile reads to the same text and the same state under
every profile that extends it, whatever state the reader starts in. -/
theorem decode_of_extends (wider : large.Extends small) (tables : Catalogue) (s : CodeState)
    {input : List UInt8} (clear : ((Scheme.mk small tables).decode s input).fault = none) :
    (Scheme.mk large tables).decode s input = (Scheme.mk small tables).decode s input := by
  induction s, input using (Scheme.mk small tables).decode_induction with
  | nil s => rw [decode_nil, decode_nil]
  | take s bytes rest state text unit ih =>
    rw [unit.decode_append, Run.write_followedBy] at clear
    have later := ih (Option.map_eq_none_iff.mp clear)
    rw [unit.decode_append, (unit.of_extends wider).decode_append, Run.write_followedBy,
      Run.write_followedBy, later]
  | stop s input fault stops =>
    rw [stops.decode] at clear
    contradiction

end Scheme

/-- A stream that begins in the older edition of the kanji and is announced in the newer one. -/
theorem Mixed.decode_extended :
    let input :=
      [0x24, 0x22, 0x1B, 0x28, 0x4A, 0x5C, 0x1B, 0x26, 0x40, 0x1B, 0x24, 0x42, 0x21, 0x40]
    let plain := (Scheme.mk .japanese scheme.tables).decode { g0 := .jisC6226 } input
    plain.fault = none ∧ plain.output = "あ¥＼".toList ∧ plain.state = { g0 := .jisX0208 } ∧
      (Scheme.mk .japanese1 scheme.tables).decode { g0 := .jisC6226 } input = plain ∧
      (Scheme.mk .japanese2 scheme.tables).decode { g0 := .jisC6226 } input = plain := by
  intro input plain
  have clear : plain.fault = none := by decide +kernel
  have first := Scheme.decode_of_extends Profile.extends_japanese.1 scheme.tables _ clear
  have still : ((Scheme.mk .japanese1 scheme.tables).decode { g0 := .jisC6226 } input).fault =
      none := by
    rw [first]
    exact clear
  have second := Scheme.decode_of_extends Profile.extends_japanese.2 scheme.tables _ still
  exact ⟨clear, by decide +kernel, by decide +kernel, first, second.trans first⟩

end CodeExtension
