import Mathlib.Data.List.Forall2
import CodeExtension.Proofs.RoundTrip

/-! Texts written apart and read together. Each text is written from the initial state, while the
reader of the whole still holds in G1 and G2 what earlier ones left there. As every text ends at
the baseline and designates what it uses, the reader of the pieces in a row has the texts in a
row. -/
namespace CodeExtension

namespace Scheme

/-- The bytes are read as the text wherever plain bytes are ASCII, and leave them so. -/
def SelfContained (scheme : Scheme) (text : List Char) (bytes : List UInt8) : Prop :=
  ∀ base : CodeState, base.atBaseline = true →
    ∃ next, scheme.decode base bytes = .write text next ∧ next.atBaseline = true

variable {scheme : Scheme}

theorem SelfContained.append {first second : List Char} {bytes more : List UInt8}
    (before : scheme.SelfContained first bytes) (after : scheme.SelfContained second more) :
    scheme.SelfContained (first ++ second) (bytes ++ more) := by
  intro base ended
  obtain ⟨middle, reads, baseline⟩ := before base ended
  obtain ⟨next, follows, back⟩ := after middle baseline
  refine ⟨next, ?_, back⟩
  rw [scheme.decode_append_of_write base reads, Run.write_followedBy, follows]
  rfl

theorem selfContained_flatten {texts : List (List Char)} {pieces : List (List UInt8)}
    (each : List.Forall₂ scheme.SelfContained texts pieces) :
    scheme.SelfContained texts.flatten pieces.flatten := by
  induction each with
  | nil => exact fun base ended => ⟨base, scheme.decode_nil base, ended⟩
  | cons here _ later => exact here.append later

end Scheme

namespace Codec

variable {codec : Codec}

theorem selfContained_of_encode (wellFormed : codec.scheme.tables.WellFormed)
    (coherent : codec.scheme.Coherent) {text : List Char} {bytes : List UInt8}
    (plain : ∀ scalar ∈ text, codec.scheme.profile.Plain scalar)
    (encoded : (codec.withRecovery .strict).encode text = .ok bytes) :
    codec.scheme.SelfContained text bytes := by
  intro base ended
  rw [encode_strict] at encoded
  obtain ⟨clear, rfl⟩ := Run.ok_of_mapError encoded
  obtain ⟨trails, back⟩ : codec.scheme.Trails base .initial _ text ∧ _ :=
    (coherent.legible wellFormed).encodeAll_trails wellFormed Scheme.writable_initial plain clear
  have reads := trails.reads
  rw [CodeState.initial_onto ended] at reads
  exact ⟨_, reads, back⟩

/-- Pieces that were written strictly, each on its own, read in a row as their texts in a row, and
the reader is at the baseline after each of them. -/
theorem decode_flatten (wellFormed : codec.scheme.tables.WellFormed)
    (coherent : codec.scheme.Coherent) {texts : List (List Char)} {pieces : List (List UInt8)}
    (plain : ∀ text ∈ texts, ∀ scalar ∈ text, codec.scheme.profile.Plain scalar)
    (encoded : List.Forall₂ (fun text bytes => (codec.withRecovery .strict).encode text = .ok bytes)
      texts pieces) :
    codec.decode pieces.flatten = .ok texts.flatten ∧
      ∀ count, ∃ state, codec.scheme.decode .initial (pieces.take count).flatten =
        .write (texts.take count).flatten state ∧ state.atBaseline = true := by
  have each : List.Forall₂ codec.scheme.SelfContained texts pieces := by
    rw [List.forall₂_iff_zip] at encoded ⊢
    refine ⟨encoded.1, fun paired => ?_⟩
    have listed := (List.of_mem_zip paired).1
    exact selfContained_of_encode wellFormed coherent (plain _ listed) (encoded.2 paired)
  constructor
  · obtain ⟨state, reads, -⟩ := Scheme.selfContained_flatten each .initial rfl
    exact decode_of_reads reads
  · intro count
    exact Scheme.selfContained_flatten (List.forall₂_take count each) .initial rfl

end Codec

def Mixed.texts : List (List Char) := ["가é".toList, "b漢".toList, "é\n가".toList]

def Mixed.pieces : List (List UInt8) :=
  [[0x1B, 0x24, 0x29, 0x43, 0x0E, 0x30, 0x21, 0x1B, 0x2E, 0x41, 0x1B, 0x4E, 0x69, 0x0F],
    [0x62, 0x1B, 0x24, 0x42, 0x34, 0x41, 0x1B, 0x28, 0x42],
    [0x1B, 0x2E, 0x41, 0x1B, 0x4E, 0x69, 0x0A, 0x1B, 0x24, 0x29, 0x43, 0x0E, 0x30, 0x21, 0x0F]]

/-- The third piece designates again what the first left in G1 and G2. -/
theorem Mixed.decode_pieces :
    List.Forall₂ (fun text bytes => (codec.withRecovery .strict).encode text = .ok bytes)
        texts pieces ∧
      codec.decode pieces.flatten = .ok "가éb漢é\n가".toList ∧
      ∃ state, codec.scheme.decode .initial (pieces.take 2).flatten = .write "가éb漢".toList state ∧
        state.atBaseline = true ∧ state.g1 = .ksX1001 ∧ state.g2 = .latin1 := by
  have encoded : List.Forall₂
      (fun text bytes => (codec.withRecovery .strict).encode text = .ok bytes) texts pieces :=
    .cons (by decide +kernel) (.cons (by decide +kernel) (.cons (by decide +kernel) .nil))
  have plain : ∀ text ∈ texts, ∀ scalar ∈ text, scheme.profile.Plain scalar := by
    have all : ∀ text ∈ texts, text.all (scheme.profile.Plain ·) = true := by decide
    exact fun text listed => Profile.plain_of_all (all text listed)
  obtain ⟨whole, parts⟩ := Codec.decode_flatten wellFormed coherent plain encoded
  refine ⟨encoded, whole, ?_⟩
  obtain ⟨state, reads, ended⟩ := parts 2
  have held : (codec.scheme.decode .initial (pieces.take 2).flatten).state.g1 = .ksX1001 ∧
      (codec.scheme.decode .initial (pieces.take 2).flatten).state.g2 = .latin1 := by
    decide +kernel
  rw [reads] at held
  exact ⟨state, reads, ended, held⟩

end CodeExtension
