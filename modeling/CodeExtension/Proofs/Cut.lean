import CodeExtension.Proofs.Parts
import CodeExtension.Proofs.Soundness

/-! Faults as clean cuts. Where a fault stops a reader, the bytes before it count as if they had
come alone and the rest can be read on from there; where a writer meets a scalar it cannot write,
that scalar leaves no trace. All this holds for any profile, whether it makes sense or not, and for
any state to start in. -/
namespace CodeExtension

namespace Run

variable {σ α : Type}

theorem forEach_append {ι : Type} (convert : σ → ι → Run σ α) (state : σ) (first second : List ι) :
    forEach convert state (first ++ second) =
      (forEach convert state first).followedBy first.length fun state =>
        forEach convert state second := by
  induction first generalizing state with
  | nil => exact (skip_andThen state fun state => forEach convert state second).symm
  | cons item rest ih =>
    rw [List.cons_append, forEach, forEach, List.length_cons, followedBy_assoc]
    simp only [ih]

end Run

theorem Fault.Fits.offset_lt {length : Nat} {fault : Fault} (fits : fault.Fits length) :
    fault.offset < length := by
  cases fault with
  | unmappable scalar offset => exact fits.elim
  | invalidByte offset count =>
    obtain ⟨positive, inside⟩ := fits
    show offset < length
    omega
  | invalidEscape offset count =>
    obtain ⟨positive, inside⟩ := fits
    show offset < length
    omega
  | incomplete offset => exact fits
  | internal offset charset element => exact fits

namespace Scheme

/-- A fault of a reader lies inside the input, with the bytes it covers. What comes before it reads
alone, to the text and the state that the fault left behind; and whatever follows the input, to
read on from there, over what was not read and with offsets counted from the fault, is to read the
whole at once. -/
theorem decode_clean_cut (scheme : Scheme) (s : CodeState) {input : List UInt8} {fault : Fault}
    (stopped : (scheme.decode s input).fault = some fault) :
    let run := scheme.decode s input
    let cut := fault.offset
    cut < input.length ∧
    (∀ offset length, fault = .invalidByte offset length ∨ fault = .invalidEscape offset length →
      1 ≤ length ∧ offset + length ≤ input.length) ∧
    scheme.decode s (input.take cut) = .write run.output run.state ∧
    ∀ more, scheme.decode s (input ++ more) =
      (Run.write run.output run.state).followedBy cut fun s =>
        scheme.decode s (input.drop cut ++ more) := by
  intro run cut
  have fits := scheme.decode_fault_fits s stopped
  have place : run.reach input.length = cut := by
    rw [Run.reach, stopped]
  refine ⟨fits.offset_lt, ?_, ?_, ?_⟩
  · rintro offset length (rfl | rfl)
    · exact fits
    · exact fits
  · obtain ⟨-, before, -⟩ := scheme.decode_divides s input
    rwa [← place]
  · intro more
    rw [← place]
    exact scheme.decode_append s input more

end Scheme

/-- A cut inside the designation of a set into G1, and the rest of it. -/
theorem Mixed.decode_resumed :
    let input := [0x24, 0x22, 0x1B, 0x24]
    let run := scheme.decode { g0 := .jisX0208 } input
    run.fault = some (.incomplete 2) ∧ run.output = ['あ'] ∧
      scheme.decode { g0 := .jisX0208 } [0x24, 0x22] = .write run.output run.state ∧
      scheme.decode { g0 := .jisX0208 } [0x24, 0x22, 0x1B, 0x24, 0x29, 0x43, 0x0E, 0x30, 0x21] =
        (Run.write run.output run.state).followedBy 2 fun s =>
          scheme.decode s [0x1B, 0x24, 0x29, 0x43, 0x0E, 0x30, 0x21] := by
  intro input run
  have stopped : run.fault = some (.incomplete 2) := by decide +kernel
  obtain ⟨-, -, before, resumes⟩ := Scheme.decode_clean_cut scheme { g0 := .jisX0208 } stopped
  exact ⟨stopped, by decide +kernel, before, resumes [0x29, 0x43, 0x0E, 0x30, 0x21]⟩

namespace Scheme

variable {scheme : Scheme} {s : CodeState} {scalar : Char}

/-- A text that is not written to its end is written up to a scalar that is refused. -/
theorem encode_of_refused {text : List Char} {position : Nat}
    (stopped : (scheme.encode s text).fault = some (.unmappable scalar position)) :
    ∃ before after, text = before ++ scalar :: after ∧ before.length = position ∧
      scheme.encode s before =
        .write (scheme.encode s text).output (scheme.encode s text).state := by
  obtain ⟨before, item, after, rfl, clear, same⟩ := Run.forEach_divides stopped
  have whole : scheme.encode s (before ++ item :: after) = _ :=
    same.trans (Run.followedBy_of_clear clear _ _)
  have clear : (scheme.encode s before).fault = none := clear
  rw [whole] at stopped ⊢
  obtain ⟨cause, found, rebased⟩ := Option.map_eq_some_iff.mp stopped
  cases cause with
  | unmappable other offset =>
    have refused := encodeScalar_of_refused found
    rw [refused] at found
    obtain ⟨rfl, rfl⟩ := Fault.unmappable.inj (Option.some.inj found)
    obtain ⟨rfl, place⟩ := Fault.unmappable.inj rebased
    refine ⟨before, after, rfl, (Nat.zero_add _).symm.trans place, ?_⟩
    simp only [refused, Run.stop, List.append_nil]
    exact Run.eq_write_of_clear clear
  | _ => cases rebased

/-- A scalar that cannot be written stands where the fault says. What comes before it is written
alone to the bytes and the state that the fault left behind; and to go on with what comes after it
is to write the text without it at once. -/
theorem encode_clean_cut (scheme : Scheme) (s : CodeState) {text : List Char} {scalar : Char}
    {position : Nat}
    (stopped : (scheme.encode s text).fault = some (.unmappable scalar position)) :
    let run := scheme.encode s text
    position < text.length ∧ text[position]? = some scalar ∧
    scheme.encode s (text.take position) = .write run.output run.state ∧
    scheme.encode s (text.eraseIdx position) =
      (Run.write run.output run.state).followedBy position fun s =>
        scheme.encode s (text.drop (position + 1)) := by
  intro run
  obtain ⟨before, after, rfl, rfl, alone⟩ := encode_of_refused stopped
  refine ⟨?_, ?_, ?_, ?_⟩
  · rw [List.length_append, List.length_cons]
    omega
  · simp
  · rw [List.take_left]
    exact alone
  · have without : (before ++ scalar :: after).eraseIdx before.length = before ++ after := by
      rw [List.eraseIdx_append_of_length_le (Nat.le_refl _), Nat.sub_self]
      rfl
    have behind : (before ++ scalar :: after).drop (before.length + 1) = after := by
      rw [← List.drop_drop, List.drop_left]
      rfl
    rw [without, behind, ← alone]
    exact Run.forEach_append scheme.encodeScalar s before after

end Scheme

/-- A snowman amid a text that starts with the locking shift in force and the Roman set in G0. -/
theorem Mixed.encode_snowman :
    let s : CodeState := { g0 := .jisRoman, shifted := true }
    let run := scheme.encode s "가あ☃¥".toList
    run.fault = some (.unmappable '☃' 2) ∧
      run.output = [0x1B, 0x24, 0x29, 0x43, 0x30, 0x21, 0x0F, 0x1B, 0x24, 0x42, 0x24, 0x22] ∧
      scheme.encode s "가あ".toList = .write run.output run.state ∧
      scheme.encode s "가あ¥".toList =
        (Run.write run.output run.state).followedBy 2 fun s => scheme.encode s ['¥'] := by
  intro s run
  have stopped : run.fault = some (.unmappable '☃' 2) := by decide +kernel
  obtain ⟨-, -, before, goesOn⟩ := Scheme.encode_clean_cut scheme s stopped
  exact ⟨stopped, by decide +kernel, before, goesOn⟩

end CodeExtension
