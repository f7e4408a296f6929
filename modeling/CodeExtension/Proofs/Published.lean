import CodeExtension.Proofs.Chart
import CodeExtension.Proofs.Recoding

/-! The published tables under ISO-2022-JP-2. All five are one-to-one, and the profile writes what
it reads through them with nine exceptions. It reads Latin-1 and Greek in G2 but leaves their
scalars to the double-byte sets, and these nine are in none of those: a text with one of them can
be read and not be written. -/
namespace CodeExtension

namespace Standard

def byTable {α : Type} (jisX0208 jisX0212 ksX1001 gb2312 latinGreek : α) : TableId → α
  | .jisX0208 => jisX0208
  | .jisX0212 => jisX0212
  | .ksX1001 => ksX1001
  | .gb2312 => gb2312
  | .latinGreek => latinGreek

def columns : TableId → List Column :=
  byTable jisX0208Columns jisX0212Columns ksX1001Columns gb2312Columns latinGreekColumns

theorem table_eq (id : TableId) : table id = .ofColumns (columns id) := by
  cases id <;> rfl

/-- The scalars of Latin-1 and Greek that no double-byte set has, the yen sign apart. -/
def unwritten : List Char :=
  ['\u00A0', '\u00A2', '\u00A3', '\u00AB', '\u00AC', '\u00B5', '\u00BB', '\u037A', '\u20AF']

def unwrittenBits : Nat := unwritten.foldr (fun scalar bits => bits ||| 1 <<< scalar.toNat) 0

theorem testBit_unwrittenBits {scalar : Char} :
    unwrittenBits.testBit scalar.toNat = true ↔ scalar ∈ unwritten := by
  rw [unwrittenBits]
  induction unwritten with
  | nil => simp
  | cons first rest ih =>
    rw [List.foldr_cons, Column.testBit_mark, ih, List.mem_cons, Char.toNat_inj, or_comm]

/-- What is to hold of the sets of numbers that the tables have. None is in ASCII or a surrogate;
and the numbers that are read through G2 are those of the double-byte tables and the yen sign, or
else unwritten. -/
def Consistent (bits : TableId → Nat) : Prop :=
  let written := bits .jisX0208 ||| bits .jisX0212 ||| bits .ksX1001 ||| bits .gb2312 ||| 1 <<< 0xA5
  let read := bits .latinGreek ||| bitRange 0xA0 96
  (∀ id ∈ TableId.all, bits id &&& (bitRange 0 0x80 ||| bitRange 0xD800 0x800) = 0) ∧
    read ||| written = written ||| unwrittenBits ∧ written &&& unwrittenBits = 0

instance (bits : TableId → Nat) : Decidable (Consistent bits) :=
  inferInstanceAs (Decidable (_ ∧ _ ∧ _))

/-- All five charts are gone through once, the sets of their numbers judged together at the end. -/
theorem scanned :
    Column.scan jisX0208Columns (fun a => Column.scan jisX0212Columns (fun b =>
      Column.scan ksX1001Columns (fun c => Column.scan gb2312Columns (fun d =>
        Column.scan latinGreekColumns (fun e => Consistent (byTable a b c d e)) 0) 0) 0) 0) 0 =
      true := by
  decide +kernel

theorem exists_consistent : ∃ bits, Consistent bits ∧
    ∀ id, (Column.numbers (columns id)).Nodup ∧
      ∀ n, (bits id).testBit n = true ↔ n ∈ Column.numbers (columns id) := by
  obtain ⟨distinctA, a, scannedA, membersA⟩ := Column.numbers_of_scan scanned
  obtain ⟨distinctB, b, scannedB, membersB⟩ := Column.numbers_of_scan scannedA
  obtain ⟨distinctC, c, scannedC, membersC⟩ := Column.numbers_of_scan scannedB
  obtain ⟨distinctD, d, scannedD, membersD⟩ := Column.numbers_of_scan scannedC
  obtain ⟨distinctE, e, consistent, membersE⟩ := Column.numbers_of_scan scannedD
  refine ⟨byTable a b c d e, of_decide_eq_true consistent, ?_⟩
  intro id
  cases id with
  | jisX0208 => exact ⟨distinctA, membersA⟩
  | jisX0212 => exact ⟨distinctB, membersB⟩
  | ksX1001 => exact ⟨distinctC, membersC⟩
  | gb2312 => exact ⟨distinctD, membersD⟩
  | latinGreek => exact ⟨distinctE, membersE⟩

theorem distinct (id : TableId) : (Column.numbers (columns id)).Nodup := by
  obtain ⟨bits, -, each⟩ := exists_consistent
  exact (each id).1

theorem scalars (id : TableId) :
    ∀ n ∈ Column.numbers (columns id), 0x80 ≤ n ∧ n.isValidChar := by
  obtain ⟨bits, ⟨allowed, -⟩, each⟩ := exists_consistent
  intro n member
  have listed : id ∈ TableId.all := by cases id <;> decide
  have outside := not_testBit_of_and (allowed id listed) (((each id).2 n).mpr member)
  rw [Nat.testBit_or, Bool.or_eq_false_iff, ← Bool.not_eq_true, ← Bool.not_eq_true,
    testBit_bitRange, testBit_bitRange] at outside
  have small := Column.lt_of_mem_numbers member
  refine ⟨by omega, ?_⟩
  show n < 0xD800 ∨ 0xDFFF < n ∧ n < 0x110000
  omega

theorem apart (id : TableId) : (columns id).IsChain Column.Before := by
  cases id <;> decide +kernel

theorem fits (id : TableId) : ∀ column ∈ columns id, column.fits id.shape = true := by
  cases id <;> decide +kernel

theorem not_unwritten_of_number {scalar : Char} {id : TableId} (double : id.shape = .set94x94)
    (member : scalar.toNat ∈ Column.numbers (columns id)) : scalar ∉ unwritten := by
  obtain ⟨bits, ⟨-, -, disjoint⟩, each⟩ := exists_consistent
  have found := ((each id).2 scalar.toNat).mpr member
  have inside : (bits .jisX0208 ||| bits .jisX0212 ||| bits .ksX1001 ||| bits .gb2312 |||
      1 <<< 0xA5).testBit scalar.toNat = true := by
    simp only [Nat.testBit_or, Bool.or_eq_true]
    cases id with
    | jisX0208 => simp [found]
    | jisX0212 => simp [found]
    | ksX1001 => simp [found]
    | gb2312 => simp [found]
    | latinGreek => contradiction
  rw [← testBit_unwrittenBits, not_testBit_of_and disjoint inside]
  exact Bool.false_ne_true

/-- All else that is read through G2 is in a double-byte table or is the yen sign. -/
theorem number_of_not_unwritten {scalar : Char}
    (read : scalar.toNat ∈ Column.numbers (columns .latinGreek) ∨
      0xA0 ≤ scalar.toNat ∧ scalar.toNat ≤ 0xFF)
    (written : scalar ∉ unwritten) :
    scalar = '\u00A5' ∨
      ∃ id, id.shape = .set94x94 ∧ scalar.toNat ∈ Column.numbers (columns id) := by
  obtain ⟨bits, ⟨-, covered, -⟩, each⟩ := exists_consistent
  have inside : (bits .latinGreek ||| bitRange 0xA0 96).testBit scalar.toNat = true := by
    rw [Nat.testBit_or, Bool.or_eq_true, testBit_bitRange]
    refine read.imp ((each .latinGreek).2 scalar.toNat).mpr fun latin => ⟨latin.1, ?_⟩
    omega
  have either : (bits .jisX0208 ||| bits .jisX0212 ||| bits .ksX1001 ||| bits .gb2312 |||
      1 <<< 0xA5 ||| unwrittenBits).testBit scalar.toNat = true := by
    rw [← covered, Nat.testBit_or, inside, Bool.true_or]
  rw [Nat.testBit_or, Bool.or_eq_true, testBit_unwrittenBits] at either
  have found := either.resolve_right written
  rw [Column.testBit_mark] at found
  simp only [Nat.testBit_or, Bool.or_eq_true, (each _).2] at found
  rcases found with (((member | member) | member) | member) | yen
  · exact .inr ⟨.jisX0208, rfl, member⟩
  · exact .inr ⟨.jisX0212, rfl, member⟩
  · exact .inr ⟨.ksX1001, rfl, member⟩
  · exact .inr ⟨.gb2312, rfl, member⟩
  · exact .inl (Char.toNat_inj.mp yen)

end Standard

namespace Catalogue

theorem standard_eq : standard = ⟨fun id => some (.ofColumns (Standard.columns id))⟩ := by
  rw [standard]
  simp only [Standard.table_eq]

theorem wellFormed_standard : standard.WellFormed := by
  rw [standard_eq]
  exact wellFormed_ofColumns Standard.distinct Standard.scalars Standard.apart Standard.fits

theorem tableFor?_standard {charset : GraphicSet} {id : TableId}
    (backed : charset.table? = some id) :
    standard.tableFor? charset = some (.ofColumns (Standard.columns id)) := by
  rw [tableFor?, backed, standard_eq]
  rfl

theorem isSome_encode_standard {charset : GraphicSet} {id : TableId} {scalar : Char}
    (backed : charset.table? = some id) :
    (standard.encode charset scalar).isSome = true ↔
      scalar.toNat ∈ Column.numbers (Standard.columns id) := by
  rw [encode_eq_table (by simp [backed]), tableFor?_standard backed, Option.bind_some,
    CodeTable.isSome_encode_ofColumns (Standard.distinct id) (Standard.scalars id)]

theorem decode_standard_solidus : standard.decode .jisX0208 0x2140 = some '\uFF3C' := by
  rw [decode_eq_table (by decide), tableFor?_standard rfl, Option.bind_some, CodeTable.ofColumns,
    CodeTable.decode_ofEntries_eq_some_iff
      (Column.nodup_codes (Standard.apart .jisX0208) (Standard.fits .jisX0208))]
  refine List.mem_flatMap.mpr ⟨_, .tail _ (.tail _ (.head _)), ?_⟩
  decide

end Catalogue

theorem Scheme.coherent_of_published {scheme : Scheme}
    (registered : scheme.profile ∈ Profile.registered) (published : scheme.tables = .standard) :
    scheme.Coherent := by
  refine coherent_of_registered registered ?_
  intro scalar found
  rw [published] at found
  exact Option.some.inj (found.symm.trans Catalogue.decode_standard_solidus)

/-! The codec of ISO-2022-JP-2. -/
namespace Published

def scheme : Scheme := ⟨.japanese2, .standard⟩

theorem coherent : scheme.Coherent :=
  Scheme.coherent_of_published (by decide) rfl

variable {scalar : Char}

theorem mappable_of_number {id : TableId} (double : id.shape = .set94x94)
    (member : scalar.toNat ∈ Column.numbers (Standard.columns id)) :
    scheme.mappable scalar = true := by
  have candidate : ∃ charset ∈ scheme.profile.candidates, charset.table? = some id := by
    cases id with
    | latinGreek => contradiction
    | _ => decide
  obtain ⟨charset, listed, backed⟩ := candidate
  exact Scheme.mappable_of_candidate listed ((Catalogue.isSome_encode_standard backed).mpr member)

theorem not_mappable_of_unwritten (member : scalar ∈ Standard.unwritten) :
    scheme.mappable scalar = false := by
  have all : Standard.unwritten.all (fun scalar => 0x80 ≤ scalar.toNat ∧
      Roman.encode scalar = none ∧ scheme.profile.substitution? scalar = none) = true := by
    decide
  obtain ⟨high, notRoman, notSubstituted⟩ :=
    of_decide_eq_true (List.all_eq_true.mp all scalar member)
  have absent : ∀ charset ∈ scheme.profile.candidates,
      scheme.tables.encode charset scalar = none := by
    intro charset listed
    have kind : charset = .jisRoman ∨
        ∃ id, charset.table? = some id ∧ id.shape = .set94x94 := by
      revert listed
      cases charset <;> decide
    rcases kind with rfl | ⟨id, backed, double⟩
    · simp [Catalogue.encode, notRoman]
    · by_contra present
      have has := Option.isSome_iff_ne_none.mpr present
      exact Standard.not_unwritten_of_number double
        ((Catalogue.isSome_encode_standard backed).mp has) member
  rw [← Bool.not_eq_true, Scheme.mappable_iff, not_or, not_ne_iff]
  exact ⟨Nat.not_lt.mpr high, Scheme.position?_eq_none_iff.mpr ⟨absent, notSubstituted⟩⟩

/-- What is read can be written, unless it is one of the nine. -/
theorem mappable_of_shows (shown : scheme.Shows scalar) (written : scalar ∉ Standard.unwritten) :
    scheme.mappable scalar = true := by
  obtain ⟨charset, -, code, found⟩ := shown
  have kind : scheme.profile.covers charset = true ∨ charset = .latin1 ∨
      charset = .latinGreek := by
    cases charset <;> decide
  have oneToOne : scheme.tables.OneToOne := Catalogue.wellFormed_standard.oneToOne
  rcases kind with covered | second
  · exact Scheme.mappable_of_character? oneToOne covered found
  rw [Scheme.character?_of_single (by rcases second with rfl | rfl <;> decide)] at found
  have back := oneToOne.encode_eq_some_iff.mpr found
  have read : scalar.toNat ∈ Column.numbers (Standard.columns .latinGreek) ∨
      0xA0 ≤ scalar.toNat ∧ scalar.toNat ≤ 0xFF := by
    rcases second with rfl | rfl
    · exact .inr (Catalogue.encode_latin1_iff.mp back).1
    · have has : (Catalogue.standard.encode .latinGreek scalar).isSome = true :=
        Option.isSome_iff_exists.mpr ⟨code, back⟩
      exact .inl ((Catalogue.isSome_encode_standard rfl).mp has)
  rcases Standard.number_of_not_unwritten read written with rfl | ⟨id, double, member⟩
  · exact Scheme.mappable_of_candidate (by decide : .jisRoman ∈ scheme.profile.candidates) rfl
  · exact mappable_of_number double member

def codec : Codec where
  scheme := scheme
  sound := by decide +kernel

theorem named : Codec.named "iso2022_jp_2" = .ok codec := by
  have known : Profile.named? "iso2022_jp_2" = some .japanese2 := by decide +kernel
  rw [Codec.named, known]
  exact Codec.ofScheme_of_sound codec.sound

theorem scheme_of_named {other : Codec} (found : Codec.named "iso2022_jp_2" = .ok other) :
    other.scheme = scheme := by
  rw [← Except.ok.inj (named.symm.trans found)]
  rfl

theorem double : ∀ sub ∈ scheme.profile.substitutions, sub.charset.isDouble = true :=
  Profile.double_of_registered _ (by decide)

/-- A spelling of an unwritten scalar, from Greek or else from Latin-1. -/
def spelling : Char → List UInt8
  | '\u037A' => [0x1B, 0x2E, 0x46, 0x1B, 0x4E, 0x2A]
  | '\u20AF' => [0x1B, 0x2E, 0x46, 0x1B, 0x4E, 0x25]
  | scalar => [0x1B, 0x2E, 0x41, 0x1B, 0x4E, UInt8.ofNat (scalar.toNat - 0x80)]

theorem decode_spelling :
    ∀ scalar ∈ Standard.unwritten, codec.decode (spelling scalar) = .ok [scalar] := by
  have all : Standard.unwritten.all
      (fun scalar => codec.decode (spelling scalar) = .ok [scalar]) = true := by
    decide +kernel
  intro scalar member
  exact of_decide_eq_true (List.all_eq_true.mp all scalar member)

end Published

namespace Codec

variable {codec : Codec}

/-- What a reader of ISO-2022-JP-2 takes strictly can be written back just when none of the nine
scalars is in it, each of which can be read. -/
theorem writes_back_iff (named : Codec.named "iso2022_jp_2" = .ok codec) :
    let strict := codec.withRecovery .strict
    (∀ scalar ∈ Standard.unwritten, ∃ input, strict.decode input = .ok [scalar]) ∧
    ∀ input text, strict.decode input = .ok text →
      ((∃ bytes, strict.encode text = .ok bytes ∧ codec.decode bytes = .ok text) ↔
        ∀ scalar ∈ text, scalar ∉ Standard.unwritten) := by
  intro strict
  have same := Published.scheme_of_named named
  refine ⟨?_, ?_⟩
  · intro scalar member
    refine ⟨Published.spelling scalar, ?_⟩
    have read := Published.decode_spelling scalar member
    rw [decode_strict, same]
    exact read
  intro input text decoded
  obtain ⟨-, read⟩ := Run.ok_of_mapError decoded
  constructor
  · rintro ⟨bytes, encoded, -⟩ scalar member unwritten
    rw [encode_strict, same] at encoded
    have clear := Run.clear_of_andThen (Run.ok_of_mapError encoded).1
    have known :=
      Scheme.mappable_of_encode Published.double Scheme.settled_initial clear scalar member
    rw [Published.not_mappable_of_unwritten unwritten] at known
    contradiction
  · intro written
    apply encode_of_follows
    have read : (codec.scheme.decode .initial input).output = text := read
    have sound := codec.sound
    rw [same] at read sound ⊢
    apply Scheme.follows_of_read Catalogue.wellFormed_standard Published.coherent sound read
    intro scalar member
    rw [← read] at member written
    have shown := Scheme.decode_shows Profile.permits_initial input scalar member
    exact Published.mappable_of_shows shown (written scalar member)

end Codec

namespace Published

/-- An acute by single shift is written back through the supplementary kanji. -/
theorem writes_back_acute :
    codec.decode [0x1B, 0x2E, 0x41, 0x1B, 0x4E, 0x69] = .ok ['é'] ∧
      ∃ bytes, (codec.withRecovery .strict).encode ['é'] = .ok bytes ∧
        codec.decode bytes = .ok ['é'] := by
  have decoded : codec.decode [0x1B, 0x2E, 0x41, 0x1B, 0x4E, 0x69] = .ok ['é'] := by decide +kernel
  refine ⟨decoded, ((Codec.writes_back_iff named).2 _ _ decoded).mpr ?_⟩
  exact List.forall_mem_singleton.mpr (by decide)

/-- A guillemet by single shift is in no set that is written. -/
theorem encode_guillemet :
    Codec.named "iso2022_jp_2" = .ok codec ∧
      codec.decode [0x1B, 0x2E, 0x41, 0x1B, 0x4E, 0x2B] = .ok ['«'] ∧
      (codec.withRecovery .strict).encode ['«'] = .error (.fault (.unmappable '«' 0)) := by
  refine ⟨named, by decide +kernel, Codec.encode_strict_error_iff.mpr ?_⟩
  have unknown : scheme.mappable '«' = false := not_mappable_of_unwritten (by decide)
  have stopped : (scheme.encode .initial ([] ++ ['«'])).fault = some (.unmappable '«' 0) :=
    Scheme.encode_of_unmappable codec.sound double Scheme.settled_initial (List.forall_mem_nil _)
      unknown
  exact stopped

end Published

end CodeExtension
