import Mathlib
import CodeExtension.Catalogue

/-! Looking up in both directions. ASCII, the Roman set and Latin-1 have one position for each of
their scalars and one scalar at each of their positions; the other sets have what their tables
have, and nothing while these are not loaded. So the two directions of a catalogue are inverse to
each other in every set just when those of its tables are. -/
namespace CodeExtension

theorem toNat_ofNat_low {n : Nat} (low : n < 0x100) : (Char.ofNat n).toNat = n := by
  have valid : n.isValidChar := .inl (by omega)
  rw [Char.toNat_ofNat, if_pos valid]

theorem toNat_asciiByte {scalar : Char} (ascii : scalar.toNat < 0x80) :
    (UInt8.ofNat scalar.toNat).toNat = scalar.toNat := by
  rw [UInt8.toNat_ofNat']
  omega

theorem toNat_latinCode {scalar : Char} (latin : scalar.toNat ≤ 0xFF) :
    (UInt16.ofNat scalar.toNat).toNat = scalar.toNat := by
  rw [UInt16.toNat_ofNat']
  omega

theorem latinCode_eq_iff {scalar : Char} (latin : scalar.toNat ≤ 0xFF) {code : Code} :
    UInt16.ofNat scalar.toNat = code ↔ code.toNat = scalar.toNat := by
  rw [← UInt16.toNat_inj, toNat_latinCode latin, eq_comm]

theorem latinScalar_eq_iff {code : Code} (latin : code.toNat ≤ 0xFF) {scalar : Char} :
    Char.ofNat code.toNat = scalar ↔ code.toNat = scalar.toNat := by
  rw [← Char.toNat_inj, toNat_ofNat_low (Nat.lt_succ_of_le latin)]

namespace Roman

/-- The Roman set has two scalars outside ASCII and those of ASCII, less the two whose places
these take, where ASCII has them. -/
theorem encode_cases {scalar : Char} {byte : UInt8} (found : encode scalar = some byte) :
    (scalar = '\u00A5' ∧ byte = 0x5C) ∨ (scalar = '\u203E' ∧ byte = 0x7E) ∨
    (scalar ≠ '\\' ∧ scalar ≠ '~' ∧ scalar.toNat < 0x80 ∧ byte = UInt8.ofNat scalar.toNat) := by
  simp only [encode] at found
  split at found
  · next yen => exact .inl ⟨yen, (Option.some.inj found).symm⟩
  split at found
  · next overline => exact .inr (.inl ⟨overline, (Option.some.inj found).symm⟩)
  split at found
  · contradiction
  next other =>
  split at found
  · next ascii =>
    exact .inr (.inr ⟨fun same => other (.inl same), fun same => other (.inr same), ascii,
      (Option.some.inj found).symm⟩)
  · contradiction

theorem decode_of_encode {scalar : Char} {byte : UInt8} (found : encode scalar = some byte) :
    decode byte = some scalar := by
  rcases encode_cases found with ⟨rfl, rfl⟩ | ⟨rfl, rfl⟩ | ⟨notSolidus, notTilde, ascii, rfl⟩
  · rfl
  · rfl
  · have value := toNat_asciiByte ascii
    have first : UInt8.ofNat scalar.toNat ≠ 0x5C := by
      intro same
      rw [same] at value
      exact notSolidus (Char.toNat_inj.mp value.symm)
    have second : UInt8.ofNat scalar.toNat ≠ 0x7E := by
      intro same
      rw [same] at value
      exact notTilde (Char.toNat_inj.mp value.symm)
    have low : UInt8.ofNat scalar.toNat < 0x80 := by
      rw [UInt8.lt_iff_toNat_lt, value]
      exact ascii
    rw [decode, if_neg first, if_neg second, if_pos low, value, Char.ofNat_toNat]

theorem encode_of_decode {scalar : Char} {byte : UInt8} (found : decode byte = some scalar) :
    encode scalar = some byte := by
  simp only [decode] at found
  split at found
  · next yen =>
    obtain rfl := Option.some.inj found
    exact congrArg some yen.symm
  next notYen =>
  split at found
  · next overline =>
    obtain rfl := Option.some.inj found
    exact congrArg some overline.symm
  next notOverline =>
  split at found
  · next low =>
    obtain rfl := Option.some.inj found
    have value : (Char.ofNat byte.toNat).toNat = byte.toNat := toNat_ofNat_low byte.toNat_lt
    have low : byte.toNat < 0x80 := UInt8.lt_iff_toNat_lt.mp low
    have differs {other : Char} (different : byte.toNat ≠ other.toNat) :
        Char.ofNat byte.toNat ≠ other := by
      rintro rfl
      exact different value.symm
    have notSolidus : byte.toNat ≠ '\\'.toNat := fun same => notYen (UInt8.toNat.inj same)
    have notTilde : byte.toNat ≠ '~'.toNat := fun same => notOverline (UInt8.toNat.inj same)
    have below {other : Char} (outside : 0x80 ≤ other.toNat) : Char.ofNat byte.toNat ≠ other :=
      differs (by omega)
    rw [encode, if_neg (below (by decide)), if_neg (below (by decide)),
      if_neg (not_or.mpr ⟨differs notSolidus, differs notTilde⟩), value, if_pos low,
      UInt8.ofNat_toNat]
  · contradiction

theorem encode_eq_some_iff {scalar : Char} {byte : UInt8} :
    encode scalar = some byte ↔ decode byte = some scalar :=
  ⟨decode_of_encode, encode_of_decode⟩

end Roman

namespace CodeTable

def OneToOne (table : CodeTable) : Prop :=
  ∀ scalar code, table.encode scalar = some code ↔ table.decode code = some scalar

/-- Among entries with distinct keys, the first with a key is the only one. -/
theorem find?_key_eq_some_iff {κ : Type} [DecidableEq κ] {key : Entry → κ} {entries : List Entry}
    (distinct : (entries.map key).Nodup) {k : κ} {entry : Entry} :
    entries.find? (fun other => key other = k) = some entry ↔ entry ∈ entries ∧ key entry = k := by
  constructor
  · intro found
    exact ⟨List.mem_of_find?_eq_some found, by simpa using List.find?_some found⟩
  · rintro ⟨listed, rfl⟩
    cases found : entries.find? (fun other => key other = key entry) with
    | none =>
      have absent := List.find?_eq_none.mp found entry listed
      simp at absent
    | some other =>
      have same : key other = key entry := by simpa using List.find?_some found
      rw [List.inj_on_of_nodup_map distinct (List.mem_of_find?_eq_some found) listed same]

theorem encode_ofEntries_eq_some_iff {entries : List Entry}
    (distinct : (entries.map (·.scalar)).Nodup) {scalar : Char} {code : Code} :
    (ofEntries entries).encode scalar = some code ↔ ⟨scalar, code⟩ ∈ entries := by
  simp only [encode_ofEntries, Option.map_eq_some_iff, find?_key_eq_some_iff distinct]
  constructor
  · rintro ⟨entry, ⟨listed, rfl⟩, rfl⟩
    exact listed
  · intro listed
    exact ⟨⟨scalar, code⟩, ⟨listed, rfl⟩, rfl⟩

theorem decode_ofEntries_eq_some_iff {entries : List Entry}
    (distinct : (entries.map (·.code)).Nodup) {scalar : Char} {code : Code} :
    (ofEntries entries).decode code = some scalar ↔ ⟨scalar, code⟩ ∈ entries := by
  simp only [decode_ofEntries, Option.map_eq_some_iff, find?_key_eq_some_iff distinct]
  constructor
  · rintro ⟨entry, ⟨listed, rfl⟩, rfl⟩
    exact listed
  · intro listed
    exact ⟨⟨scalar, code⟩, ⟨listed, rfl⟩, rfl⟩

theorem oneToOne_of_distinct {entries : List Entry}
    (scalars : (entries.map (·.scalar)).Nodup) (codes : (entries.map (·.code)).Nodup) :
    (ofEntries entries).OneToOne := by
  intro scalar code
  rw [encode_ofEntries_eq_some_iff scalars, decode_ofEntries_eq_some_iff codes]

end CodeTable

def Catalogue.OneToOne (tables : Catalogue) : Prop :=
  ∀ id table, tables.find? id = some table → ∀ scalar code,
    table.encode scalar = some code ↔ table.decode code = some scalar

namespace Catalogue

variable {tables : Catalogue} {charset : GraphicSet} {scalar : Char} {code : Code}

theorem encode_eq_table (backed : charset.table? ≠ none) :
    tables.encode charset scalar = (tables.tableFor? charset).bind (·.encode scalar) := by
  cases charset with
  | ascii => exact absurd rfl backed
  | jisRoman => exact absurd rfl backed
  | latin1 => exact absurd rfl backed
  | _ => rfl

theorem decode_eq_table (backed : charset.table? ≠ none) :
    tables.decode charset code = (tables.tableFor? charset).bind (·.decode code) := by
  cases charset with
  | ascii => exact absurd rfl backed
  | jisRoman => exact absurd rfl backed
  | latin1 => exact absurd rfl backed
  | _ => rfl

/-! What each set has, in either direction. -/

theorem encode_ascii_iff : tables.encode .ascii scalar = some code ↔
    scalar.toNat < 0x80 ∧ code.toNat = scalar.toNat := by
  simp only [encode, Option.ite_none_right_eq_some, Option.some.injEq]
  exact and_congr_right fun ascii => latinCode_eq_iff (by omega)

theorem encode_ascii_byte (ascii : scalar.toNat < 0x80) :
    tables.encode .ascii scalar = some (Code.ofByte (UInt8.ofNat scalar.toNat)) :=
  encode_ascii_iff.mpr ⟨ascii, by rw [Code.toNat_ofByte, toNat_asciiByte ascii]⟩

theorem decode_ascii_iff : tables.decode .ascii code = some scalar ↔
    scalar.toNat < 0x80 ∧ code.toNat = scalar.toNat := by
  simp only [decode, Option.ite_none_right_eq_some, Option.some.injEq, UInt16.lt_iff_toNat_lt,
    UInt16.reduceToNat]
  rw [and_congr_right fun low => latinScalar_eq_iff (by omega)]
  omega

theorem encode_latin1_iff : tables.encode .latin1 scalar = some code ↔
    (0xA0 ≤ scalar.toNat ∧ scalar.toNat ≤ 0xFF) ∧ code.toNat = scalar.toNat := by
  simp only [encode, Option.ite_none_right_eq_some, Option.some.injEq]
  exact and_congr_right fun right => latinCode_eq_iff right.2

theorem decode_latin1_iff : tables.decode .latin1 code = some scalar ↔
    (0xA0 ≤ scalar.toNat ∧ scalar.toNat ≤ 0xFF) ∧ code.toNat = scalar.toNat := by
  simp only [decode, Option.ite_none_right_eq_some, Option.some.injEq, UInt16.le_iff_toNat_le,
    UInt16.reduceToNat]
  rw [and_congr_right fun right => latinScalar_eq_iff right.2]
  omega

theorem encode_jisRoman_iff : tables.encode .jisRoman scalar = some code ↔
    ∃ byte, Code.ofByte byte = code ∧ Roman.encode scalar = some byte := by
  simp only [encode, Option.map_eq_some_iff, and_comm]

theorem decode_jisRoman_iff : tables.decode .jisRoman code = some scalar ↔
    ∃ byte, Code.ofByte byte = code ∧ Roman.decode byte = some scalar := by
  simp only [decode, Option.bind_eq_some_iff]
  constructor
  · rintro ⟨byte, single, found⟩
    exact ⟨byte, Code.ofByte_of_byte? single, found⟩
  · rintro ⟨byte, rfl, found⟩
    exact ⟨byte, Code.byte?_ofByte byte, found⟩

theorem encode_table_iff {id : TableId} (backed : charset.table? = some id) :
    tables.encode charset scalar = some code ↔
      ∃ table, tables.find? id = some table ∧ table.encode scalar = some code := by
  rw [encode_eq_table (by simp [backed]), tableFor?, backed, Option.bind_some,
    Option.bind_eq_some_iff]

theorem decode_table_iff {id : TableId} (backed : charset.table? = some id) :
    tables.decode charset code = some scalar ↔
      ∃ table, tables.find? id = some table ∧ table.decode code = some scalar := by
  rw [decode_eq_table (by simp [backed]), tableFor?, backed, Option.bind_some,
    Option.bind_eq_some_iff]

theorem OneToOne.encode_eq_some_iff (oneToOne : tables.OneToOne) :
    tables.encode charset scalar = some code ↔ tables.decode charset code = some scalar := by
  cases backed : charset.table? with
  | some id =>
    rw [encode_table_iff backed, decode_table_iff backed]
    exact exists_congr fun table => and_congr_right fun loaded =>
      oneToOne id table loaded scalar code
  | none =>
    cases charset with
    | ascii => rw [encode_ascii_iff, decode_ascii_iff]
    | jisRoman => simp only [encode_jisRoman_iff, decode_jisRoman_iff, Roman.encode_eq_some_iff]
    | latin1 => rw [encode_latin1_iff, decode_latin1_iff]
    | _ => cases backed

end Catalogue

theorem GraphicSet.exists_of_table (id : TableId) : ∃ charset : GraphicSet,
    charset.table? = some id := by
  cases id with
  | jisX0208 => exact ⟨.jisX0208, rfl⟩
  | jisX0212 => exact ⟨.jisX0212, rfl⟩
  | ksX1001 => exact ⟨.ksX1001, rfl⟩
  | gb2312 => exact ⟨.gb2312, rfl⟩
  | latinGreek => exact ⟨.latinGreek, rfl⟩

namespace Catalogue

/-- The loaded tables are one-to-one just when looking up is, in every set: computed, read through
a table, or without the table it needs. -/
theorem oneToOne_iff_lookups (tables : Catalogue) : tables.OneToOne ↔
    ∀ charset scalar code,
      tables.encode charset scalar = some code ↔ tables.decode charset code = some scalar := by
  constructor
  · intro oneToOne charset scalar code
    exact oneToOne.encode_eq_some_iff
  · intro inverse id table loaded scalar code
    obtain ⟨charset, backed⟩ := GraphicSet.exists_of_table id
    have lookup := inverse charset scalar code
    rw [encode_table_iff backed, decode_table_iff backed] at lookup
    simpa [loaded] using lookup

/-- A table of two kanji, and no other table. -/
def kanji : Catalogue :=
  empty.insert .jisX0208 (CodeTable.ofEntries [⟨'漢', 0x3441⟩, ⟨'字', 0x3B7A⟩])

/-- The older edition has them where the table of the newer one has them. -/
theorem lookups_kanji : kanji.OneToOne ∧ kanji.encode .jisC6226 '漢' = some 0x3441 ∧
    kanji.decode .jisC6226 0x3441 = some '漢' := by
  have oneToOne : kanji.OneToOne := by
    intro id table loaded
    by_cases same : id = .jisX0208
    · subst same
      obtain rfl := Option.some.inj ((find?_insert_same ..).symm.trans loaded)
      exact CodeTable.oneToOne_of_distinct (by decide) (by decide)
    · have absent := (find?_insert_other empty _ same).symm.trans loaded
      cases absent
  have found : kanji.encode .jisC6226 '漢' = some 0x3441 := by
    have backed : GraphicSet.table? .jisC6226 = some .jisX0208 := rfl
    refine (encode_table_iff backed).mpr ⟨_, find?_insert_same .., ?_⟩
    simp [CodeTable.encode_ofEntries]
  exact ⟨oneToOne, found, ((oneToOne_iff_lookups kanji).mp oneToOne _ _ _).mp found⟩

end Catalogue

end CodeExtension
