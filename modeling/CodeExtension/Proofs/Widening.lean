import CodeExtension.Proofs.Extension
import CodeExtension.Proofs.Preference

/-! Adding to what a profile writes. New candidates can be put in the middle of the list, before
others and before the substitutions. A text that was written without them is written as before,
byte for byte, unless one of them has a scalar that fell to what now comes after it; for the two
extensions of ISO-2022-JP there are three scalars to look at. -/
namespace CodeExtension

namespace Profile

/-- `large` tries the sets `added` between the candidates `first` and `last` of `small`, and writes
those of `small` through the elements they had. -/
structure Inserts (large small : Profile) (first added last : List GraphicSet) : Prop where
  without : small.candidates = first ++ last
  within : large.candidates = first ++ added ++ last
  substitutions : large.substitutions = small.substitutions
  elements : ∀ charset ∈ small.candidates ++ small.substitutions.map (·.charset),
    large.elementFor? charset = small.elementFor? charset

theorem inserts_japanese1 : japanese1.Inserts japanese [.jisX0208] [.jisX0212] [.jisRoman] :=
  ⟨rfl, rfl, rfl, by decide⟩

theorem inserts_japanese2 :
    japanese2.Inserts japanese1 [.jisX0208, .jisX0212] [.ksX1001, .gb2312] [.jisRoman] :=
  ⟨rfl, rfl, rfl, by decide⟩

end Profile

namespace Scheme

variable {large small : Profile} {first added last : List GraphicSet} {tables : Catalogue}
  {s : CodeState} {scalar : Char} {text : List Char}

/-- Where `small` writes a scalar outside ASCII without any of `first`, no set of `added` has it. -/
def Undisturbed (small : Profile) (tables : Catalogue) (first added : List GraphicSet) : Prop :=
  ∀ scalar : Char, 0x80 ≤ scalar.toNat →
    (Scheme.mk small tables).position? scalar ≠ none →
    (∀ charset ∈ first, tables.encode charset scalar = none) →
    ∀ charset ∈ added, tables.encode charset scalar = none

theorem position?_of_inserts (inserts : large.Inserts small first added last)
    (undisturbed : Undisturbed small tables first added) (outside : 0x80 ≤ scalar.toNat)
    (place : (Scheme.mk small tables).position? scalar ≠ none) :
    (Scheme.mk large tables).position? scalar = (Scheme.mk small tables).position? scalar := by
  have between := undisturbed scalar outside place
  simp only [position?, Profile.substitution?, inserts.without, inserts.within,
    inserts.substitutions, List.findSome?_append]
  cases early : first.findSome? fun charset => (tables.encode charset scalar).map (charset, ·) with
  | some found => rfl
  | none =>
    have absent : added.findSome? (fun charset => (tables.encode charset scalar).map (charset, ·)) =
        none := by
      simpa using between (by simpa using early)
    simp only [absent, Option.none_or]

theorem encodeScalar_of_inserts (inserts : large.Inserts small first added last)
    (undisturbed : Undisturbed small tables first added)
    (clear : ((Scheme.mk small tables).encodeScalar s scalar).fault = none) :
    (Scheme.mk large tables).encodeScalar s scalar =
      (Scheme.mk small tables).encodeScalar s scalar := by
  -- What G0 offers is a matter of the tables.
  have held : (Scheme.mk large tables).held? s scalar = (Scheme.mk small tables).held? s scalar :=
    rfl
  have ascii : (Scheme.mk large tables).encodeAscii s scalar =
      (Scheme.mk small tables).encodeAscii s scalar := rfl
  rcases (Scheme.mk small tables).encodeScalar_cases s scalar with ⟨-, low | offered⟩ |
    ⟨outside, none, ⟨charset, code, chosen, written⟩ | ⟨-, refused⟩⟩
  · simp only [encodeScalar, if_pos low, ascii]
  · obtain ⟨byte, offered⟩ := Option.ne_none_iff_exists'.mp offered
    simp only [encodeScalar, ascii, held, offered]
  · have same := position?_of_inserts inserts undisturbed outside (by simp [chosen])
    have element := inserts.elements charset (written_of_position? chosen)
    rw [written]
    simp only [encodeScalar, if_neg (Nat.not_lt.mpr outside), held, none, same, chosen, emit,
      element]
  · simp [refused, Run.stop] at clear

theorem encode_of_inserts (inserts : large.Inserts small first added last)
    (undisturbed : Undisturbed small tables first added)
    (clear : ((Scheme.mk small tables).encode s text).fault = none) :
    (Scheme.mk large tables).encode s text = (Scheme.mk small tables).encode s text := by
  induction text generalizing s with
  | nil => rfl
  | cons scalar rest ih =>
    rw [encode_cons] at clear
    have here : ((Scheme.mk small tables).encodeScalar s scalar).fault = none := by
      cases stopped : ((Scheme.mk small tables).encodeScalar s scalar).fault with
      | none => rfl
      | some fault => simp [Run.followedBy, stopped] at clear
    rw [Run.followedBy_of_clear here] at clear
    have later := ih (Option.map_eq_none_iff.mp clear)
    have same := encodeScalar_of_inserts inserts undisturbed here
    rw [encode_cons, encode_cons, same, Run.followedBy_of_clear here, Run.followedBy_of_clear here,
      later]

theorem encodeAll_of_inserts (inserts : large.Inserts small first added last)
    (undisturbed : Undisturbed small tables first added)
    (clear : ((Scheme.mk small tables).encodeAll s text).fault = none) :
    (Scheme.mk large tables).encodeAll s text = (Scheme.mk small tables).encodeAll s text := by
  have written := encode_of_inserts inserts undisturbed (Run.clear_of_andThen clear)
  rw [encodeAll, encodeAll, written]

theorem missingTables_eq_nil_iff {scheme : Scheme} : scheme.missingTables = [] ↔
    ∀ d ∈ scheme.profile.designations, ∀ id, d.charset.table? = some id →
      scheme.tables.contains id = true := by
  rw [missingTables, Catalogue.missing, List.eq_nil_iff_forall_not_mem]
  simp only [List.mem_eraseDups, List.mem_filter, List.mem_filterMap, List.mem_map]
  constructor
  · intro none d listed id backed
    by_contra absent
    exact none id ⟨⟨d.charset, ⟨d, listed, rfl⟩, backed⟩, by simpa using absent⟩
  · rintro all id ⟨⟨_, ⟨d, listed, rfl⟩, backed⟩, absent⟩
    simp [all d listed id backed] at absent

/-- The tables and sequences that a profile can do with are enough for one that it extends. -/
theorem sound_of_extends (wider : large.Extends small)
    (sound : (Scheme.mk large tables).defect? = none)
    (designated : ∀ charset ∈ small.candidates ++ small.substitutions.map (·.charset),
      small.elementFor? charset ≠ none) : (Scheme.mk small tables).defect? = none := by
  obtain ⟨loaded, expressible, -⟩ := defect?_eq_none_iff.mp sound
  refine defect?_eq_none_iff.mpr ⟨?_, ?_, fun charset written _ => designated charset written⟩
  · apply missingTables_eq_nil_iff.mpr
    intro d listed
    exact missingTables_eq_nil_iff.mp loaded d (wider.designations listed)
  · intro d listed
    exact expressible d (wider.designations listed)

/-- The Roman set comes last under the Japanese profiles, and it and the substitution have three
scalars outside ASCII between them. -/
theorem undisturbed_of_apart (without : small.candidates = first ++ [.jisRoman])
    (substitutions : small.substitutions = [Profile.reverseSolidus])
    (apart : ∀ scalar ∈ ['\u00A5', '\u203E', '\uFF3C'],
      (∃ charset ∈ first, tables.encode charset scalar ≠ none) ∨
        ∀ charset ∈ added, tables.encode charset scalar = none) :
    Undisturbed small tables first added := by
  intro scalar outside place absent
  obtain ⟨⟨charset, code⟩, chosen⟩ := Option.ne_none_iff_exists'.mp place
  have known : scalar ∈ ['\u00A5', '\u203E', '\uFF3C'] := by
    rcases position?_cases chosen with ⟨listed, found⟩ | ⟨-, sub, listed, -, same, -⟩
    · rw [without] at listed
      rcases List.mem_append.mp listed with early | roman
      · simp [absent charset early] at found
      · obtain rfl := List.mem_singleton.mp roman
        obtain ⟨byte, has, -⟩ := Option.map_eq_some_iff.mp found
        rcases Roman.encode_outside outside has with rfl | rfl <;> simp
    · rw [substitutions] at listed
      obtain rfl := List.mem_singleton.mp listed
      simp [← same, Profile.reverseSolidus]
  rcases apart scalar known with ⟨early, member, has⟩ | none
  · exact absurd (absent early member) has
  · exact none

end Scheme

namespace Codec

variable {large small : Profile} {first added last : List GraphicSet} {tables : Catalogue}
  {text : List Char} {bytes : List UInt8}

theorem sound_of_ofScheme {scheme : Scheme} {codec : Codec}
    (accepted : ofScheme scheme = .ok codec) : scheme.defect? = none := by
  rw [ofScheme] at accepted
  split at accepted
  · next sound => exact sound
  · contradiction

theorem encode_ofScheme {scheme : Scheme} (sound : scheme.defect? = none) (text : List Char) :
    (ofScheme scheme).bind (·.encode text) =
      (scheme.encodeAll .initial text).result.mapError .fault := by
  rw [ofScheme_of_sound sound]
  exact encode_strict { scheme, sound } text

theorem encode_of_inserts (inserts : large.Inserts small first added last)
    (undisturbed : Scheme.Undisturbed small tables first added)
    (sound : (Scheme.mk large tables).defect? = none)
    (written : (ofScheme ⟨small, tables⟩).bind (·.encode text) = .ok bytes) :
    (ofScheme ⟨large, tables⟩).bind (·.encode text) = .ok bytes := by
  cases accepted : ofScheme ⟨small, tables⟩ with
  | error failure => simp [accepted, Except.bind] at written
  | ok codec =>
    rw [encode_ofScheme (sound_of_ofScheme accepted)] at written
    obtain ⟨clear, -⟩ := Run.ok_of_mapError written
    rw [encode_ofScheme sound, Scheme.encodeAll_of_inserts inserts undisturbed clear, written]

/-- The extensions of ISO-2022-JP write the texts of what they extend byte for byte, if each of the
three scalars that it has in the Roman set or by substitution is in JIS X 0208 or in none of the
sets that are added. -/
theorem encode_of_wider {codec : Codec} (accepted : ofScheme ⟨.japanese2, tables⟩ = .ok codec)
    (apart : ∀ scalar ∈ ['\u00A5', '\u203E', '\uFF3C'],
      tables.encode .jisX0208 scalar ≠ none ∨
        ∀ charset ∈ [.jisX0212, .ksX1001, .gb2312], tables.encode charset scalar = none)
    (text : List Char) (bytes : List UInt8) :
    let written (profile : Profile) := (ofScheme ⟨profile, tables⟩).bind (·.encode text)
    (written .japanese = .ok bytes →
      written .japanese1 = .ok bytes ∧ written .japanese2 = .ok bytes) ∧
    (written .japanese1 = .ok bytes → written .japanese2 = .ok bytes) := by
  intro written
  have sound := sound_of_ofScheme accepted
  have narrower : (Scheme.mk .japanese1 tables).defect? = none :=
    Scheme.sound_of_extends Profile.extends_japanese.2 sound (by decide)
  have first : Scheme.Undisturbed .japanese tables [.jisX0208] [.jisX0212] := by
    apply Scheme.undisturbed_of_apart rfl rfl
    intro scalar member
    rcases apart scalar member with kanji | none
    · exact .inl ⟨_, by simp, kanji⟩
    · exact .inr fun charset listed => none charset (by simp_all)
  have second : Scheme.Undisturbed .japanese1 tables [.jisX0208, .jisX0212]
      [.ksX1001, .gb2312] := by
    apply Scheme.undisturbed_of_apart rfl rfl
    intro scalar member
    rcases apart scalar member with kanji | none
    · exact .inl ⟨_, by simp, kanji⟩
    · exact .inr fun charset listed => none charset (.tail _ listed)
  have extended : written .japanese1 = .ok bytes → written .japanese2 = .ok bytes :=
    encode_of_inserts Profile.inserts_japanese2 second sound
  refine ⟨fun fine => ?_, extended⟩
  have same := encode_of_inserts Profile.inserts_japanese1 first narrower fine
  exact ⟨same, extended same⟩

end Codec

/-- Kanji that are in two of the sets, and the scalars that come after the kanji. -/
theorem Overlap.encode_wider :
    let tables := codec.scheme.tables
    let written (profile : Profile) :=
      (Codec.ofScheme ⟨profile, tables⟩).bind (·.encode "漢¥\n＼".toList)
    let bytes := [0x1B, 0x24, 0x42, 0x34, 0x41, 0x1B, 0x28, 0x4A, 0x5C, 0x0A, 0x1B, 0x24, 0x42,
      0x21, 0x40, 0x1B, 0x28, 0x42]
    written .japanese = .ok bytes ∧ written .japanese1 = .ok bytes ∧
      written .japanese2 = .ok bytes := by
  intro tables written bytes
  have plain : written .japanese = .ok bytes := by decide +kernel
  have sound : (Scheme.mk .japanese2 tables).defect? = none := by decide +kernel
  have absent : ['\u00A5', '\u203E', '\uFF3C'].all (fun scalar =>
      [.jisX0212, .ksX1001, .gb2312].all (tables.encode · scalar = none)) = true := by
    decide +kernel
  obtain ⟨wider, -⟩ := Codec.encode_of_wider (Codec.ofScheme_of_sound sound)
    (fun scalar member => .inr (by simpa using List.all_eq_true.mp absent scalar member))
    "漢¥\n＼".toList bytes
  exact ⟨plain, wider plain⟩

end CodeExtension
