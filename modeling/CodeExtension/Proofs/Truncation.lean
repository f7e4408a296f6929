import CodeExtension.Proofs.Chunking
import CodeExtension.Proofs.Concatenation

/-! Inputs that end too soon. A reader of a part of an input shows a part of its text, the more the
longer the part is; and where the whole input has no fault, a part has none that more bytes would
not mend. So a cut anywhere in what a codec wrote is told from damage. -/
namespace CodeExtension

theorem Run.Soft.cases {σ α : Type} {run : Run σ α} (soft : run.Soft) :
    run.fault = none ∨ ∃ offset, run.fault = some (.incomplete offset) := by
  cases stopped : run.fault with
  | none => exact .inl rfl
  | some fault =>
    have kind := soft fault stopped
    cases fault with
    | incomplete offset => exact .inr ⟨offset, rfl⟩
    | _ => contradiction

namespace Scheme

variable (scheme : Scheme) (s : CodeState) {cut input : List UInt8}

theorem decode_output_prefix (begun : cut <+: input) :
    (scheme.decode s cut).output <+: (scheme.decode s input).output := by
  obtain ⟨rest, rfl⟩ := begun
  rw [decode_append, Run.write_followedBy]
  exact List.prefix_append _ _

/-- A part of an input without fault lacks nothing but the rest. -/
theorem decode_soft_of_prefix (clear : (scheme.decode s input).fault = none)
    (begun : cut <+: input) : (scheme.decode s cut).Soft := by
  rcases (scheme.decode s cut).soft_or_hard with soft | ⟨fault, stopped, hard⟩
  · exact soft
  · obtain ⟨rest, rfl⟩ := begun
    rw [scheme.decode_append_of_hard s stopped hard, stopped] at clear
    contradiction

end Scheme

namespace Codec

variable {codec : Codec} {text : List Char} {bytes : List UInt8}

/-- Wherever what was written is cut off, a reader finds at most that something is missing, has
read the beginning of the text, and has read no less of it than from any earlier cut. -/
theorem decode_truncated (wellFormed : codec.scheme.tables.WellFormed)
    (coherent : codec.scheme.Coherent) (plain : ∀ scalar ∈ text, codec.scheme.profile.Plain scalar)
    (encoded : (codec.withRecovery .strict).encode text = .ok bytes) {cut : List UInt8}
    (begun : cut <+: bytes) :
    let run := codec.scheme.decode .initial cut
    (run.fault = none ∨ ∃ offset, run.fault = some (.incomplete offset)) ∧
    run.output <+: text ∧
    ∀ earlier, earlier <+: cut → (codec.scheme.decode .initial earlier).output <+: run.output := by
  intro run
  obtain ⟨state, reads, -⟩ := selfContained_of_encode wellFormed coherent plain encoded .initial rfl
  refine ⟨?_, ?_, ?_⟩
  · have clear : (codec.scheme.decode .initial bytes).fault = none := by rw [reads]; rfl
    exact (codec.scheme.decode_soft_of_prefix .initial clear begun).cases
  · have shown := codec.scheme.decode_output_prefix .initial begun
    rwa [reads] at shown
  · intro earlier sooner
    exact codec.scheme.decode_output_prefix .initial sooner

end Codec

/-- A cut between a single shift and its byte. -/
theorem Mixed.decode_cut :
    let run := codec.scheme.decode .initial (bytes.take 28)
    run.output = "aあ漢\n¥가".toList ∧ run.fault = some (.incomplete 26) ∧ run.output <+: text ∧
      (codec.scheme.decode .initial (bytes.take 5)).output <+: run.output := by
  have encoded : (codec.withRecovery .strict).encode text = .ok bytes := by decide +kernel
  have plain := Profile.plain_of_all (by decide : text.all (scheme.profile.Plain ·) = true)
  obtain ⟨-, shown, earlier⟩ :=
    Codec.decode_truncated wellFormed coherent plain encoded (List.take_prefix 28 bytes)
  exact ⟨by decide +kernel, by decide +kernel, shown, earlier _ (by decide)⟩

end CodeExtension
