import CodeExtension.Proofs.Lockstep

/-! The editions of JIS X 0208. Both are double-byte sets with one table and one list of
substitutions, so a reader that holds one of them in G0 cannot be told by its text or its faults
from a reader that holds the other, whatever it goes on to read. It follows that a stream may
designate the kanji in any of the ways there are. -/
namespace CodeExtension

namespace GraphicSet

def IsEdition (charset : GraphicSet) : Prop := charset = .jisX0208 ∨ charset = .jisC6226

def SameUpToEdition (a b : GraphicSet) : Prop := a = b ∨ a.IsEdition ∧ b.IsEdition

variable {a b : GraphicSet}

/-- Only what is the same of both editions counts. -/
theorem SameUpToEdition.congr {α : Type} {f : GraphicSet → α} (same : a.SameUpToEdition b)
    (blind : f .jisX0208 = f .jisC6226) : f a = f b := by
  rcases same with rfl | ⟨rfl | rfl, rfl | rfl⟩ <;> simp [blind]

theorem SameUpToEdition.shape (same : a.SameUpToEdition b) : a.shape = b.shape :=
  same.congr rfl

theorem SameUpToEdition.decode (same : a.SameUpToEdition b) (tables : Catalogue) :
    tables.decode a = tables.decode b :=
  same.congr rfl

theorem SameUpToEdition.literal? (same : a.SameUpToEdition b) (profile : Profile) :
    profile.literal? a = profile.literal? b := by
  apply same.congr
  have shared (charset : GraphicSet) : Profile.sharesPositions charset .jisX0208 =
      Profile.sharesPositions charset .jisC6226 := by
    cases charset <;> rfl
  funext code
  simp only [Profile.literal?, shared]

theorem SameUpToEdition.eq (same : a.SameUpToEdition b) (single : a.shape ≠ .set94x94) :
    a = b := by
  rcases same with same | ⟨rfl | rfl, -⟩
  · exact same
  · exact absurd rfl single
  · exact absurd rfl single

end GraphicSet

structure CodeState.SameUpToEdition (a b : CodeState) : Prop where
  g0 : a.g0.SameUpToEdition b.g0
  g1 : a.g1 = b.g1
  g2 : a.g2 = b.g2
  shifted : a.shifted = b.shifted

namespace CodeState.SameUpToEdition

variable {a b : CodeState}

theorem invoked (same : a.SameUpToEdition b) : a.invoked = b.invoked := by
  simp [CodeState.invoked, same.shifted]

theorem get (same : a.SameUpToEdition b) (element : CodeElement) :
    (a.get element).SameUpToEdition (b.get element) := by
  cases element with
  | g0 => exact same.g0
  | g1 => exact .inl same.g1
  | g2 => exact .inl same.g2

theorem active (same : a.SameUpToEdition b) : a.active.SameUpToEdition b.active := by
  simpa only [CodeState.active, same.invoked] using same.get b.invoked

theorem shift (same : a.SameUpToEdition b) (shifted : Bool) :
    (a.shift shifted).SameUpToEdition (b.shift shifted) :=
  ⟨same.g0, same.g1, same.g2, rfl⟩

theorem designate (same : a.SameUpToEdition b) (element : CodeElement) (charset : GraphicSet) :
    (a.designate element charset).SameUpToEdition (b.designate element charset) := by
  cases element with
  | g0 => exact ⟨.inl rfl, same.g1, same.g2, same.shifted⟩
  | g1 => exact ⟨same.g0, rfl, same.g2, same.shifted⟩
  | g2 => exact ⟨same.g0, same.g1, rfl, same.shifted⟩

end CodeState.SameUpToEdition

structure Run.SameUpToEdition (a b : Run CodeState Char) : Prop where
  output : a.output = b.output
  state : a.state.SameUpToEdition b.state
  fault : a.fault = b.fault

namespace Scheme

variable {scheme : Scheme} {a b : CodeState} {input bytes : List UInt8} {fault : Fault}

theorem doubleByte?_sameUpToEdition (same : a.active.SameUpToEdition b.active) :
    scheme.doubleByte? a.active = scheme.doubleByte? b.active := by
  funext code
  simp only [doubleByte?, same.literal?, same.decode]

/-- Both readers take the same units, which show the same text and keep the states alike. -/
theorem Takes.sameUpToEdition {state : CodeState} {text : List Char}
    (unit : scheme.Takes a bytes state text) (same : a.SameUpToEdition b) :
    ∃ other, scheme.Takes b bytes other text ∧ state.SameUpToEdition other := by
  cases unit with
  | designation spelled supported =>
    exact ⟨_, .designation spelled supported, same.designate _ _⟩
  | singleShifted shifting graphic narrow found =>
    rw [same.g2] at narrow found
    exact ⟨b, .singleShifted shifting graphic narrow found, same⟩
  | shift shifting kind => exact ⟨_, .shift shifting kind, same.shift _⟩
  | newline => exact ⟨_, .newline, same.shift false⟩
  | control low notEscape notLineFeed notShift =>
    exact ⟨b, .control low notEscape notLineFeed notShift, same⟩
  | single graphic shape found =>
    rw [same.active.shape] at shape
    rw [same.active.decode] at found
    exact ⟨b, .single graphic shape found, same⟩
  | double graphic shape found =>
    rw [same.active.shape] at shape
    rw [doubleByte?_sameUpToEdition same.active] at found
    exact ⟨b, .double graphic shape found, same⟩

theorem Stops.sameUpToEdition (stops : scheme.Stops a input fault) (same : a.SameUpToEdition b) :
    scheme.Stops b input fault := by
  have active := same.active
  cases stops with
  | unfinished cut => exact .unfinished cut
  | refused refused => exact .refused refused
  | unsupported complete unsupported => exact .unsupported complete unsupported
  | unshifted off => exact .unshifted off
  | singleShiftCut shifting => exact .singleShiftCut shifting
  | singleShiftEmpty shifting empty =>
    rw [same.g2] at empty
    exact .singleShiftEmpty shifting empty
  | singleShiftDouble shifting graphic double =>
    rw [same.g2] at double ⊢
    exact .singleShiftDouble shifting graphic double
  | eightBit right => exact .eightBit right
  | singleEmpty graphic shape empty =>
    rw [active.shape] at shape
    rw [active.decode] at empty
    exact .singleEmpty graphic shape empty
  | wide graphic shape =>
    -- The fault names the set, which is not an edition.
    have same' : a.active = b.active := active.eq (by simp [shape])
    rw [same'] at shape ⊢
    rw [same.invoked]
    exact .wide graphic shape
  | doubleCut graphic shape =>
    rw [active.shape] at shape
    exact .doubleCut graphic shape
  | doubleEmpty graphic shape empty =>
    rw [active.shape] at shape
    rw [doubleByte?_sameUpToEdition active] at empty
    exact .doubleEmpty graphic shape empty

/-- Readers whose states differ at most in the edition read every input alike. -/
theorem decode_sameUpToEdition (scheme : Scheme) (same : a.SameUpToEdition b)
    (input : List UInt8) :
    (scheme.decode a input).SameUpToEdition (scheme.decode b input) := by
  induction a, input using scheme.decode_induction generalizing b with
  | nil a =>
    rw [decode_nil, decode_nil]
    exact ⟨rfl, same, rfl⟩
  | take a bytes rest state text unit ih =>
    obtain ⟨other, unit', after⟩ := unit.sameUpToEdition same
    obtain ⟨output, state, fault⟩ := ih after
    rw [unit.decode_append, unit'.decode_append, Run.write_followedBy, Run.write_followedBy]
    exact ⟨by rw [output], state, by rw [fault]⟩
  | stop a input fault stops =>
    rw [stops.decode, (stops.sameUpToEdition same).decode]
    exact ⟨rfl, same, rfl⟩

end Scheme

/-- The ways to put JIS X 0208 into G0: either edition, with or without a parenthesis, and the
newer one announced. -/
def Escape.kanjiSpellings : List (List UInt8) :=
  [[esc, 0x24, 0x42], [esc, 0x24, 0x40], [esc, 0x24, 0x28, 0x42], [esc, 0x24, 0x28, 0x40],
    [esc, 0x26, 0x40, esc, 0x24, 0x42]]

/-- There are no others. -/
theorem Escape.mem_kanjiSpellings_iff {bytes : List UInt8} :
    bytes ∈ kanjiSpellings ↔ ∃ edition : GraphicSet, edition.IsEdition ∧
      Spells (.designate .g0 edition) bytes := by
  constructor
  · intro listed
    simp only [kanjiSpellings, List.mem_cons, List.not_mem_nil, or_false] at listed
    rcases listed with rfl | rfl | rfl | rfl | rfl
    · exact ⟨.jisX0208, .inl rfl, .designation rfl⟩
    · exact ⟨.jisC6226, .inr rfl, .designation rfl⟩
    · exact ⟨.jisX0208, .inl rfl, .parenthesised rfl (by decide)⟩
    · exact ⟨.jisC6226, .inr rfl, .parenthesised rfl (by decide)⟩
    · exact ⟨.jisX0208, .inl rfl, .announced⟩
  · rintro ⟨edition, rfl | rfl, spelled⟩
    · cases spelled with
      | designation written =>
        cases written
        decide
      | parenthesised => decide
      | announced => decide
    · cases spelled with
      | designation written =>
        cases written
        decide
      | parenthesised => decide

namespace Scheme

variable {scheme : Scheme} {s : CodeState} {before bytes : List UInt8}

theorem decode_designated {edition : GraphicSet}
    (clear : (scheme.decode s before).fault = none)
    (spelled : Escape.Spells (.designate .g0 edition) bytes)
    (supported : scheme.profile.supports .g0 edition = true) :
    scheme.decode s (before ++ bytes) = .write (scheme.decode s before).output
      ((scheme.decode s before).state.designate .g0 edition) := by
  have reads := Run.eq_write_of_clear clear
  rw [scheme.decode_append_of_write s reads, Run.write_followedBy,
    (Takes.designation spelled supported).decode]
  simp [Run.write]

/-- Where a profile accepts both editions of JIS X 0208, the sequences that designate them may
stand for each other. Whatever was read before and whatever follows, the text is the same; so is
the fault, if there is one, as far into what follows; and the states can differ only in the
edition that G0 holds. -/
theorem decode_respelled (scheme : Scheme) (s : CodeState)
    (newer : scheme.profile.supports .g0 .jisX0208 = true)
    (older : scheme.profile.supports .g0 .jisC6226 = true)
    {before first second : List UInt8} (clear : (scheme.decode s before).fault = none)
    (one : first ∈ Escape.kanjiSpellings) (other : second ∈ Escape.kanjiSpellings)
    (after : List UInt8) :
    let a := scheme.decode s (before ++ first ++ after)
    let b := scheme.decode s (before ++ second ++ after)
    a.output = b.output ∧
    a.fault.map (·.rebase second.length) = b.fault.map (·.rebase first.length) ∧
    a.state.SameUpToEdition b.state := by
  have supported {edition : GraphicSet} (isEdition : edition.IsEdition) :
      scheme.profile.supports .g0 edition = true := by
    rcases isEdition with rfl | rfl
    · exact newer
    · exact older
  obtain ⟨edition, isEdition, spelled⟩ := Escape.mem_kanjiSpellings_iff.mp one
  obtain ⟨edition', isEdition', spelled'⟩ := Escape.mem_kanjiSpellings_iff.mp other
  have reads := decode_designated clear spelled (supported isEdition)
  have reads' := decode_designated clear spelled' (supported isEdition')
  have same : ((scheme.decode s before).state.designate .g0 edition).SameUpToEdition
      ((scheme.decode s before).state.designate .g0 edition') :=
    ⟨.inr ⟨isEdition, isEdition'⟩, rfl, rfl, rfl⟩
  obtain ⟨output, state, fault⟩ := scheme.decode_sameUpToEdition same after
  rw [scheme.decode_append_of_write s reads, scheme.decode_append_of_write s reads']
  simp only [Run.write_followedBy]
  refine ⟨by rw [output], ?_, state⟩
  -- Both faults lie as far behind their sequence.
  simp only [fault, Option.map_map, Function.comp_def, Fault.rebase_rebase, List.length_append,
    Nat.add_assoc, Nat.add_comm first.length]

end Scheme

/-- After some Roman text, the older edition in the short form against the newer one announced,
three bytes longer. What follows ends in half a character. -/
theorem Mixed.decode_announced :
    let scheme : Scheme := ⟨.japanese, scheme.tables⟩
    let before := [0x1B, 0x28, 0x4A, 0x5C]
    let after := [0x24, 0x22, 0x21, 0x40, 0x34]
    let a := scheme.decode .initial (before ++ [0x1B, 0x24, 0x40] ++ after)
    let b := scheme.decode .initial (before ++ [0x1B, 0x26, 0x40, 0x1B, 0x24, 0x42] ++ after)
    (scheme.decode .initial before).fault = none ∧ a.output = "¥あ＼".toList ∧
      a.fault = some (.incomplete 11) ∧ b.fault = some (.incomplete 14) ∧
      a.output = b.output ∧ a.fault.map (·.rebase 6) = b.fault.map (·.rebase 3) ∧
      a.state.SameUpToEdition b.state := by
  intro scheme before after a b
  have clear : (scheme.decode .initial before).fault = none := by decide +kernel
  exact ⟨clear, by decide +kernel, by decide +kernel, by decide +kernel,
    scheme.decode_respelled .initial (by decide) (by decide) clear (by decide) (by decide) after⟩

end CodeExtension
