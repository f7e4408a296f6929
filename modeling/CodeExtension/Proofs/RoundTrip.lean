import CodeExtension.Proofs.Recovery
import CodeExtension.Proofs.Session
import CodeExtension.Proofs.Soundness

/-! The round trip of a codec. What a coherent codec writes reads as the text it was given, unless
that text has control functions of the code in it: these no reader passes on. -/
namespace CodeExtension

theorem Profile.plain_of_graphic (profile : Profile) {scalar : Char}
    (graphic : 0x20 ≤ scalar.toNat) : profile.Plain scalar := by
  constructor
  · rintro rfl
    exact absurd graphic (by decide)
  · intro
    constructor <;> rintro rfl <;> exact absurd graphic (by decide)

/-- A control byte that does not shift stands for a scalar that is no control function. -/
theorem Profile.plain_of_control (profile : Profile) {byte : UInt8}
    (notEscape : byte ≠ esc)
    (notShift : ¬((byte = shiftOut ∨ byte = shiftIn) ∧ profile.lockingShift)) :
    profile.Plain (Char.ofNat byte.toNat) := by
  have differs {other : UInt8} (different : byte ≠ other) {scalar : Char}
      (stands : scalar.toNat = other.toNat) : Char.ofNat byte.toNat ≠ scalar := by
    rintro rfl
    rw [toNat_ofNat_low byte.toNat_lt] at stands
    exact different (UInt8.toNat.inj stands)
  refine ⟨differs notEscape rfl, fun shifting => ⟨?_, ?_⟩⟩
  · exact differs (fun out => notShift ⟨.inl out, shifting⟩) rfl
  · exact differs (fun back => notShift ⟨.inr back, shifting⟩) rfl

theorem Roman.graphic_of_decode {byte : UInt8} {scalar : Char} (outside : 0x20 ≤ byte.toNat)
    (found : Roman.decode byte = some scalar) : 0x20 ≤ scalar.toNat := by
  rcases encode_cases (encode_of_decode found) with ⟨rfl, -⟩ | ⟨rfl, -⟩ | ⟨-, -, ascii, rfl⟩
  · decide
  · decide
  · rwa [toNat_asciiByte ascii] at outside

namespace Catalogue

theorem WellFormed.graphic_of_decode {tables : Catalogue} {charset : GraphicSet} {code : Code}
    {scalar : Char} (wellFormed : tables.WellFormed) (outside : 0x20 ≤ code.toNat)
    (found : tables.decode charset code = some scalar) : 0x20 ≤ scalar.toNat := by
  cases backed : charset.table? with
  | some id =>
    obtain ⟨table, loaded, found⟩ := (decode_table_iff backed).mp found
    have := wellFormed.scalars id table loaded scalar code found
    omega
  | none =>
    cases charset with
    | ascii =>
      obtain ⟨-, same⟩ := decode_ascii_iff.mp found
      rwa [← same]
    | jisRoman =>
      obtain ⟨byte, rfl, roman⟩ := decode_jisRoman_iff.mp found
      rw [Code.toNat_ofByte] at outside
      exact Roman.graphic_of_decode outside roman
    | latin1 =>
      obtain ⟨-, same⟩ := decode_latin1_iff.mp found
      rwa [← same]
    | _ => cases backed

theorem WellFormed.graphic_of_byte {tables : Catalogue} {charset : GraphicSet} {byte : UInt8}
    {scalar : Char} (wellFormed : tables.WellFormed) (graphic : 0x20 ≤ byte)
    (found : tables.decode charset (.ofByte byte) = some scalar) : 0x20 ≤ scalar.toNat := by
  refine wellFormed.graphic_of_decode ?_ found
  rw [Code.toNat_ofByte]
  exact UInt8.le_iff_toNat_le.mp graphic

end Catalogue

namespace Run

variable {σ α : Type} {run : Run σ α} {next : σ → Run σ α}

theorem clear_of_andThen (clear : (run.andThen next).fault = none) : run.fault = none := by
  cases stopped : run.fault with
  | none => rfl
  | some fault => rwa [andThen_of_fault stopped, stopped] at clear

/-- Where nothing is at fault, it does not matter how far on the next part starts. -/
theorem followedBy_eq_andThen {width : Nat} (clear : (run.followedBy width next).fault = none) :
    run.followedBy width next = run.andThen next := by
  cases stopped : run.fault with
  | none =>
    rw [followedBy_of_clear stopped] at clear ⊢
    rw [andThen_of_clear stopped, Option.map_eq_none_iff.mp clear]
    rfl
  | some fault => simp [andThen, followedBy, stopped]

end Run

namespace Scheme

variable {scheme : Scheme} {base s : CodeState}

theorem doubleByte?_graphic (wellFormed : scheme.tables.WellFormed) (coherent : scheme.Coherent)
    {charset : GraphicSet} {first second : UInt8} {scalar : Char} (graphic : 0x20 ≤ first)
    (found : scheme.doubleByte? charset (.pair first second) = some scalar) :
    0x20 ≤ scalar.toNat := by
  have low : 0x20 ≤ first.toNat := UInt8.le_iff_toNat_le.mp graphic
  rcases Option.or_eq_some_iff.mp found with literal | ⟨-, entry⟩
  · obtain ⟨sub, listed, -, -, rfl⟩ := Profile.literal?_eq_some literal
    have := (coherent.substituted sub listed).1
    omega
  · refine wellFormed.graphic_of_decode ?_ entry
    rw [Code.toNat_pair]
    omega

theorem Takes.plain {bytes : List UInt8} {state : CodeState} {text : List Char}
    (unit : scheme.Takes s bytes state text) (wellFormed : scheme.tables.WellFormed)
    (coherent : scheme.Coherent) : ∀ scalar ∈ text, scheme.profile.Plain scalar := by
  have shown {scalar : Char} (graphic : 0x20 ≤ scalar.toNat) :
      ∀ other ∈ [scalar], scheme.profile.Plain other :=
    List.forall_mem_singleton.mpr (scheme.profile.plain_of_graphic graphic)
  cases unit with
  | designation | shift => exact List.forall_mem_nil _
  | singleShifted shifting graphic narrow found =>
    exact shown (wellFormed.graphic_of_decode (Code.le_toNat_singleShifted graphic.1) found)
  | newline => exact List.forall_mem_singleton.mpr ⟨by decide, fun _ => by decide⟩
  | control low notEscape notLineFeed notShift =>
    exact List.forall_mem_singleton.mpr (scheme.profile.plain_of_control notEscape notShift)
  | single graphic shape found => exact shown (wellFormed.graphic_of_byte graphic.1 found)
  | double graphic shape found =>
    exact shown (doubleByte?_graphic wellFormed coherent graphic.1 found)

theorem step_text_plain (wellFormed : scheme.tables.WellFormed) (coherent : scheme.Coherent)
    {byte : UInt8} {rest : List UInt8} {more : Nat} {state : CodeState} {text : List Char}
    (unit : scheme.step s byte rest = .take more state text) :
    ∀ scalar ∈ text, scheme.profile.Plain scalar := by
  obtain ⟨tail, after, -, -, taken⟩ := takes_of_step unit
  exact taken.plain wellFormed coherent

theorem Legible.encode_trails (legible : scheme.Legible) (wellFormed : scheme.tables.WellFormed)
    (writable : scheme.Writable s) {text : List Char}
    (plain : ∀ scalar ∈ text, scheme.profile.Plain scalar)
    (clear : (scheme.encode s text).fault = none) :
    scheme.Trails base s (scheme.encode s text) text := by
  induction text generalizing s with
  | nil => exact trails_skip writable
  | cons scalar rest ih =>
    have split : scheme.encode s (scalar :: rest) =
        (scheme.encodeScalar s scalar).followedBy 1 fun s => scheme.encode s rest := rfl
    rw [split] at clear ⊢
    rcases encodeScalar_trails wellFormed legible writable (plain scalar List.mem_cons_self) with
      trails | ⟨refused, -⟩
    · rw [Run.followedBy_eq_andThen clear]
      refine trails.andThen (ih trails.writable ?_ ?_)
      · exact fun other member => plain other (.tail scalar member)
      · rw [Run.followedBy_of_clear trails.clear] at clear
        exact Option.map_eq_none_iff.mp clear
    · rw [refused] at clear
      contradiction

theorem Legible.encodeAll_trails (legible : scheme.Legible)
    (wellFormed : scheme.tables.WellFormed) (writable : scheme.Writable s) {text : List Char}
    (plain : ∀ scalar ∈ text, scheme.profile.Plain scalar)
    (clear : (scheme.encodeAll s text).fault = none) :
    scheme.Trails base s (scheme.encodeAll s text) text ∧
      (scheme.encodeAll s text).state.atBaseline = true := by
  have written : (scheme.encode s text).fault = none := Run.clear_of_andThen clear
  have trails : scheme.Trails base s (scheme.encode s text) text :=
    legible.encode_trails wellFormed writable plain written
  constructor
  · have whole := trails.andThen (trails_reset trails.writable)
    rwa [List.append_nil] at whole
  · rw [encodeAll, Run.andThen_of_clear written]
    exact reset_atBaseline _

theorem Legible.encodeAll_follows (legible : scheme.Legible)
    (wellFormed : scheme.tables.WellFormed) (writable : scheme.Writable s) {text : List Char}
    (plain : ∀ scalar ∈ text, scheme.profile.Plain scalar)
    (clear : (scheme.encodeAll s text).fault = none) :
    scheme.Follows s (scheme.encodeAll s text) text :=
  follows_iff_trails.mpr (legible.encodeAll_trails wellFormed writable plain clear).1

theorem encodeAll_follows (wellFormed : scheme.tables.WellFormed) (coherent : scheme.Coherent)
    (writable : scheme.Writable s) {text : List Char}
    (plain : ∀ scalar ∈ text, scheme.profile.Plain scalar)
    (clear : (scheme.encodeAll s text).fault = none) :
    scheme.Follows s (scheme.encodeAll s text) text :=
  (coherent.legible wellFormed).encodeAll_follows wellFormed writable plain clear

end Scheme

namespace Step

variable {step : CodeState → UInt8 → List UInt8 → Step} {property : Char → Prop}

theorem run_output (shown : ∀ s byte rest more state text,
      step s byte rest = .take more state text → ∀ scalar ∈ text, property scalar)
    (s : CodeState) (input : List UInt8) :
    ∀ scalar ∈ (run step s input).output, property scalar := by
  induction s, input using run.induct step with
  | case1 s =>
    rw [run_nil]
    exact List.forall_mem_nil _
  | case2 s byte rest more state text unit ih =>
    rw [run_take unit, Run.write_followedBy]
    intro scalar member
    rcases List.mem_append.mp member with here | later
    · exact shown s byte rest more state text unit scalar here
    · exact ih state scalar later
  | case3 s byte rest fault stopped =>
    rw [run_stop stopped]
    exact List.forall_mem_nil _

end Step

namespace Recovery

theorem encodeScalar_strict (scheme : Scheme) :
    strict.encodeScalar scheme = scheme.encodeScalar := by
  funext s scalar
  simp only [encodeScalar]
  split <;> first | rfl | contradiction

theorem forgive_take {s state : CodeState} {rest : List UInt8} {mark text : List Char} {unit : Step}
    {more : Nat} (forgiven : forgive s rest mark unit = .take more state text) :
    unit = .take more state text ∨ text = mark := by
  cases unit with
  | take count next shown => exact .inl forgiven
  | stop fault =>
    right
    cases fault with
    | unmappable scalar offset => contradiction
    | internal offset charset element => contradiction
    | _ => exact (Step.take.inj forgiven).2.2.symm

variable {scheme : Scheme}

/-- No step shows a control function, and the mark for bytes that cannot be read is none. -/
theorem step_text_plain (recovery : Recovery) (wellFormed : scheme.tables.WellFormed)
    (coherent : scheme.Coherent) {s state : CodeState} {byte : UInt8} {rest : List UInt8}
    {more : Nat} {text : List Char}
    (unit : recovery.step scheme s byte rest = .take more state text) :
    ∀ scalar ∈ text, scheme.profile.Plain scalar := by
  cases recovery with
  | strict => exact Scheme.step_text_plain wellFormed coherent unit
  | replace =>
    rcases forgive_take unit with read | rfl
    · exact Scheme.step_text_plain wellFormed coherent read
    · intro scalar member
      obtain rfl := List.mem_singleton.mp member
      exact scheme.profile.plain_of_graphic (by decide)
  | ignore =>
    rcases forgive_take unit with read | rfl
    · exact Scheme.step_text_plain wellFormed coherent read
    · exact List.forall_mem_nil _

/-- Where there is nothing to forgive, all three read the same. -/
theorem run_of_ends (recovery : Recovery) {s : CodeState} {input : List UInt8}
    (ends : (scheme.decode s input).fault.bind (Fault.resumption? input.length) = none) :
    Step.run (recovery.step scheme) s input = scheme.decode s input := by
  cases recovery with
  | strict => rfl
  | replace => exact (Scheme.run_forgive _ s input).trans (Scheme.resume_of_none ends)
  | ignore => exact (Scheme.run_forgive _ s input).trans (Scheme.resume_of_none ends)

theorem run_of_clear (recovery : Recovery) {s : CodeState} {input : List UInt8}
    (clear : (scheme.decode s input).fault = none) :
    Step.run (recovery.step scheme) s input = scheme.decode s input := by
  apply recovery.run_of_ends
  rw [clear]
  rfl

end Recovery

theorem Run.ok_of_mapError {σ α : Type} {run : Run σ α} {output : List α}
    (fine : run.result.mapError Failure.fault = .ok output) :
    run.fault = none ∧ run.output = output := by
  apply result_eq_ok_iff.mp
  cases result : run.result with
  | error fault =>
    rw [result] at fine
    contradiction
  | ok other =>
    rw [result] at fine
    obtain rfl : other = output := Except.ok.inj fine
    rfl

namespace Codec

variable {codec : Codec} {text : List Char} {bytes : List UInt8}

theorem encode_strict (codec : Codec) (text : List Char) :
    (codec.withRecovery .strict).encode text =
      (codec.scheme.encodeAll .initial text).result.mapError .fault := by
  simp only [encode, withRecovery, Recovery.encodeScalar_strict]
  rfl

/-- Where a reader meets no fault, there is nothing for a recovery to do. -/
theorem decode_of_reads {state : CodeState}
    (reads : codec.scheme.decode .initial bytes = .write text state) :
    codec.decode bytes = .ok text := by
  rw [decode, codec.recovery.run_of_clear (by rw [reads]; rfl), reads]
  rfl

/-- What was written strictly reads as what was given, just when that has no control functions. -/
theorem decode_encode_iff (wellFormed : codec.scheme.tables.WellFormed)
    (coherent : codec.scheme.Coherent)
    (encoded : (codec.withRecovery .strict).encode text = .ok bytes) :
    codec.decode bytes = .ok text ↔ ∀ scalar ∈ text, codec.scheme.profile.Plain scalar := by
  constructor
  · intro decoded
    obtain ⟨-, rfl⟩ := Run.ok_of_mapError decoded
    apply Step.run_output
    intro s byte rest more state text unit
    exact codec.recovery.step_text_plain wellFormed coherent unit
  · intro plain
    rw [encode_strict] at encoded
    obtain ⟨clear, rfl⟩ := Run.ok_of_mapError encoded
    have follows :=
      Scheme.encodeAll_follows wellFormed coherent Scheme.writable_initial plain clear
    exact decode_of_reads follows.reads

end Codec

def Mixed.codec : Codec where
  scheme := scheme
  sound := by decide +kernel

def Mixed.text : List Char := "aあ漢\n¥가é＼b".toList

def Mixed.bytes : List UInt8 :=
  [0x61, 0x1B, 0x24, 0x42, 0x24, 0x22, 0x34, 0x41, 0x1B, 0x28, 0x42, 0x0A, 0x1B, 0x28, 0x4A, 0x5C,
    0x1B, 0x24, 0x29, 0x43, 0x0E, 0x30, 0x21, 0x1B, 0x2E, 0x41, 0x1B, 0x4E, 0x69, 0x0F, 0x1B, 0x24,
    0x42, 0x21, 0x40, 0x1B, 0x28, 0x42, 0x62]

/-- A text through all three elements, and the escape character by itself. -/
theorem Mixed.decode_encode :
    (codec.withRecovery .strict).encode text = .ok bytes ∧ codec.decode bytes = .ok text ∧
      (codec.withRecovery .strict).encode ['\u001B'] = .ok [esc] ∧
      codec.decode [esc] ≠ .ok ['\u001B'] := by
  have encoded : (codec.withRecovery .strict).encode text = .ok bytes := by decide +kernel
  have escape : (codec.withRecovery .strict).encode ['\u001B'] = .ok [esc] := by decide +kernel
  refine ⟨encoded, ?_, escape, ?_⟩
  · have plain := Profile.plain_of_all (by decide : text.all (scheme.profile.Plain ·) = true)
    exact (Codec.decode_encode_iff wellFormed coherent encoded).mpr plain
  · intro decoded
    have plain := (Codec.decode_encode_iff wellFormed coherent escape).mp decoded
    exact (plain '\u001B' List.mem_cons_self).1 rfl

end CodeExtension
