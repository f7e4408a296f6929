import CodeExtension.Proofs.Locality

/-! Writing back what was read. Bytes can spell a text in many ways. Where every set that can be
read has its positions among the candidates, a text that was read from any of these spellings can
be written, and the writer's spelling reads as the same text. -/
namespace CodeExtension

namespace Profile

/-- Whether all that is read through the set can be written: it is ASCII or shares its positions
with a candidate. -/
def covers (profile : Profile) (charset : GraphicSet) : Bool :=
  charset = .ascii ∨ ∃ candidate ∈ profile.candidates, sharesPositions charset candidate

theorem covers_of_knows {profile : Profile} {charset : GraphicSet}
    (all : ∀ d ∈ profile.designations, profile.covers d.charset = true)
    (known : profile.Knows charset) : profile.covers charset = true := by
  rcases known with rfl | ⟨d, listed, rfl⟩
  · simp [covers]
  · exact all d listed

/-- All registered profiles but one write whatever they read, and need only double-byte tables for
it. -/
theorem covers_of_writing : ∀ profile ∈ [japanese, japanese1, korean], profile ∈ registered ∧
    (∀ d ∈ profile.designations, profile.covers d.charset = true) ∧
    ∀ d ∈ profile.designations, d.charset.shape ≠ .set96 := by
  decide

theorem placed_of_registered : ∀ profile ∈ registered,
    ∀ charset ∈ profile.candidates ++ profile.substitutions.map (·.charset),
      profile.Places charset := by
  decide

theorem substitution_of_registered : ∀ profile ∈ registered,
    ∀ sub ∈ profile.substitutions, sub = reverseSolidus := by
  decide

end Profile

namespace Catalogue

/-- The double-byte tables of a catalogue. -/
def doubleByte (tables : Catalogue) : Catalogue where
  find? id := if id.shape = .set94x94 then tables.find? id else none

variable {tables : Catalogue}

theorem find?_of_doubleByte {id : TableId} {table : CodeTable}
    (found : tables.doubleByte.find? id = some table) : tables.find? id = some table := by
  simp only [doubleByte] at found
  split at found
  · exact found
  · contradiction

theorem WellFormed.doubleByte (wellFormed : tables.WellFormed) :
    tables.doubleByte.WellFormed where
  oneToOne id table found := wellFormed.oneToOne id table (find?_of_doubleByte found)
  scalars id table found := wellFormed.scalars id table (find?_of_doubleByte found)
  codes id table found := wellFormed.codes id table (find?_of_doubleByte found)

theorem tableFor?_doubleByte {charset : GraphicSet} (wide : charset.shape ≠ .set96) :
    tables.doubleByte.tableFor? charset = tables.tableFor? charset := by
  cases charset <;> first | rfl | contradiction

end Catalogue

namespace Scheme

variable {scheme : Scheme} {charset : GraphicSet} {code : Code} {scalar : Char}

theorem coherent_of_registered (registered : scheme.profile ∈ Profile.registered)
    (solidus : ∀ scalar, scheme.tables.decode .jisX0208 0x2140 = some scalar →
      scalar = '\uFF3C') :
    scheme.Coherent where
  placed := Profile.placed_of_registered _ registered
  substituted sub listed := by
    rw [Profile.substitution_of_registered _ registered sub listed]
    decide
  unambiguous first here second there _ _ := by
    rw [Profile.substitution_of_registered _ registered first here,
      Profile.substitution_of_registered _ registered second there]
  agreeing sub listed scalar found := by
    rw [Profile.substitution_of_registered _ registered sub listed] at found ⊢
    exact solidus scalar found

theorem mappable_of_character? (oneToOne : scheme.tables.OneToOne)
    (covered : scheme.profile.covers charset = true)
    (found : scheme.character? charset code = some scalar) : scheme.mappable scalar = true := by
  have cases : charset = .ascii ∨ ∃ candidate ∈ scheme.profile.candidates,
      Profile.sharesPositions charset candidate = true := by
    simpa [Profile.covers] using covered
  rcases cases with rfl | ⟨candidate, listed, shared⟩
  · exact mappable_iff.mpr (.inl (ascii_of_character? found))
  -- A substitution is found again by its scalar, an entry by its candidate.
  have substituted (literal : scheme.profile.literal? charset code = some scalar) :
      scheme.mappable scalar = true := by
    obtain ⟨sub, listed, -, -, same⟩ := Profile.literal?_eq_some literal
    have found : (scheme.profile.substitution? scalar).isSome = true :=
      List.find?_isSome.mpr ⟨sub, listed, by simp [same]⟩
    simp [mappable, found]
  have entered (entry : scheme.tables.decode charset code = some scalar) :
      scheme.mappable scalar = true := by
    have back := oneToOne.encode_eq_some_iff.mpr entry
    rw [Catalogue.encode_of_sharesPositions shared] at back
    exact mappable_of_candidate listed (by rw [back]; rfl)
  by_cases double : charset.shape = .set94x94
  · rw [character?_of_double double] at found
    rcases Option.or_eq_some_iff.mp found with literal | ⟨-, entry⟩
    · exact substituted literal
    · exact entered entry
  · rw [character?_of_single double] at found
    exact entered found

/-- A text that was read and can be written is read again from what is written. -/
theorem follows_of_read (wellFormed : scheme.tables.WellFormed) (coherent : scheme.Coherent)
    (sound : scheme.defect? = none) {input : List UInt8} {text : List Char}
    (read : (scheme.decode .initial input).output = text)
    (known : ∀ scalar ∈ text, scheme.mappable scalar = true) :
    scheme.Follows .initial (scheme.encodeAll .initial text) text := by
  have plain : ∀ scalar ∈ text, scheme.profile.Plain scalar := by
    rw [← read]
    apply Step.run_output
    intro s byte rest more state shown unit
    exact step_text_plain wellFormed coherent unit
  have double : ∀ sub ∈ scheme.profile.substitutions, sub.charset.isDouble = true := by
    intro sub listed
    exact GraphicSet.isDouble_iff.mpr (coherent.substituted sub listed).2.1
  have clear : (scheme.encodeAll .initial text).fault = none :=
    Run.andThen_clear (encode_of_mappable sound double _ known) (reset_clear _)
  exact encodeAll_follows wellFormed coherent writable_initial plain clear

/-- Only the double-byte tables have to be well formed where no others are used. -/
theorem follows_of_writing
    (writing : scheme.profile ∈ [Profile.japanese, Profile.japanese1, Profile.korean])
    (wellFormed : scheme.tables.doubleByte.WellFormed)
    (solidus : ∀ scalar, scheme.tables.decode .jisX0208 0x2140 = some scalar →
      scalar = '\uFF3C')
    (sound : scheme.defect? = none) {input : List UInt8} {text : List Char}
    (read : (scheme.decode .initial input).output = text) :
    scheme.Follows .initial (scheme.encodeAll .initial text) text := by
  obtain ⟨profile, tables⟩ := scheme
  obtain ⟨registered, covered, narrow⟩ := Profile.covers_of_writing profile writing
  have agree : tables.AgreeUnder tables.doubleByte profile := by
    rintro charset (rfl | ⟨d, listed, rfl⟩)
    · rfl
    · exact (Catalogue.tableFor?_doubleByte (narrow d listed)).symm
  have coherent : (Scheme.mk profile tables.doubleByte).Coherent := by
    refine coherent_of_registered registered fun scalar found => solidus scalar ?_
    rwa [Catalogue.decode_congr (Catalogue.tableFor?_doubleByte (by decide))] at found
  rw [decode_congr agree Profile.permits_initial input] at read
  have known : ∀ scalar ∈ text, (Scheme.mk profile tables.doubleByte).mappable scalar = true := by
    rw [← read]
    intro scalar member
    obtain ⟨charset, known, code, found⟩ := decode_shows Profile.permits_initial input scalar member
    exact mappable_of_character? wellFormed.oneToOne (Profile.covers_of_knows covered known) found
  have follows := follows_of_read wellFormed coherent
    ((defect?_congr agree).symm.trans sound) read known
  rw [← encodeAll_congr agree sound settled_initial] at follows
  exact follows.congr agree Profile.permits_initial

end Scheme

namespace Codec

variable {codec : Codec} {text : List Char}

theorem encode_of_follows
    (follows : codec.scheme.Follows .initial (codec.scheme.encodeAll .initial text) text) :
    ∃ bytes, (codec.withRecovery .strict).encode text = .ok bytes ∧
      codec.decode bytes = .ok text := by
  refine ⟨(codec.scheme.encodeAll .initial text).output, ?_, decode_of_reads follows.reads⟩
  rw [encode_strict, Run.result_eq_ok_iff.mpr ⟨follows.clear, rfl⟩]
  rfl

/-- Under the profiles that write all they read, every text that is read strictly can be written,
and what is written reads as the text and is what writing it again gives. -/
theorem encode_canonical
    (writing : codec.scheme.profile ∈ [Profile.japanese, Profile.japanese1, Profile.korean])
    (wellFormed : codec.scheme.tables.doubleByte.WellFormed)
    (solidus : ∀ scalar, codec.scheme.tables.decode .jisX0208 0x2140 = some scalar →
      scalar = '\uFF3C')
    {input : List UInt8} (decoded : (codec.withRecovery .strict).decode input = .ok text) :
    ∃ bytes, (codec.withRecovery .strict).encode text = .ok bytes ∧
      codec.decode bytes = .ok text ∧
      (codec.decode bytes).bind (codec.withRecovery .strict).encode = .ok bytes := by
  obtain ⟨-, read⟩ := Run.ok_of_mapError decoded
  obtain ⟨bytes, encoded, back⟩ := encode_of_follows
    (Scheme.follows_of_writing writing wellFormed solidus codec.sound read)
  refine ⟨bytes, encoded, back, ?_⟩
  rw [back]
  exact encoded

end Codec

namespace Kana

/-- The older edition of the kanji, the announced one and the one with four bytes, and no return to
ASCII. -/
def spelling : List UInt8 :=
  [0x1B, 0x24, 0x40, 0x24, 0x22, 0x1B, 0x28, 0x4A, 0x5C, 0x1B, 0x26, 0x40, 0x1B, 0x24, 0x42, 0x34,
    0x41, 0x1B, 0x24, 0x28, 0x42, 0x21, 0x40]

def canonical : List UInt8 :=
  [0x1B, 0x24, 0x42, 0x24, 0x22, 0x1B, 0x28, 0x4A, 0x5C, 0x1B, 0x24, 0x42, 0x34, 0x41, 0x21, 0x40,
    0x1B, 0x28, 0x42]

theorem encode_spelling :
    (codec.withRecovery .strict).decode spelling = .ok "あ¥漢＼".toList ∧
      (codec.withRecovery .strict).encode "あ¥漢＼".toList = .ok canonical ∧
      codec.decode canonical = .ok "あ¥漢＼".toList ∧
      (codec.decode canonical).bind (codec.withRecovery .strict).encode = .ok canonical := by
  have decoded : (codec.withRecovery .strict).decode spelling = .ok "あ¥漢＼".toList := by
    decide +kernel
  have solidus (scalar : Char)
      (found : codec.scheme.tables.decode .jisX0208 0x2140 = some scalar) : scalar = '\uFF3C' := by
    have absent : codec.scheme.tables.decode .jisX0208 0x2140 = none := by decide +kernel
    rw [absent] at found
    contradiction
  have writing : codec.scheme.profile ∈ [Profile.japanese, Profile.japanese1, Profile.korean] :=
    .head _
  obtain ⟨bytes, encoded, back⟩ :=
    Codec.encode_canonical writing Mixed.wellFormed.doubleByte solidus decoded
  obtain rfl : canonical = bytes := by
    have same : (codec.withRecovery .strict).encode "あ¥漢＼".toList = .ok canonical := by
      decide +kernel
    exact Except.ok.inj (same.symm.trans encoded)
  exact ⟨decoded, encoded, back⟩

end Kana

end CodeExtension
