import CodeExtension.Profile.Registered
import CodeExtension.Proofs.Lookup
import CodeExtension.Scheme.Reading
import CodeExtension.Scheme.Writing

/-! When what is written can be read back: the tables map one-to-one between scalars outside ASCII
and positions of their shape, every set that is written goes where readers look for it, and no
substitution gets in the way of another one or of a table. Then the position chosen for a scalar
reads as that scalar. -/
namespace CodeExtension

/-- The positions that a set of this shape has outside the control columns; for a set of 96
they are those of the right half. -/
def Shape.Admits (code : Code) : Shape → Prop
  | .set94 => 0x21 ≤ code.toNat ∧ code.toNat ≤ 0x7E
  | .set96 => 0xA0 ≤ code.toNat ∧ code.toNat ≤ 0xFF
  | .set94x94 => (0x21 ≤ (Code.row code).toNat ∧ (Code.row code).toNat ≤ 0x7E) ∧
      0x21 ≤ (Code.cell code).toNat ∧ (Code.cell code).toNat ≤ 0x7E

instance (code : Code) : (shape : Shape) → Decidable (shape.Admits code)
  | .set94 => inferInstanceAs (Decidable (_ ∧ _))
  | .set96 => inferInstanceAs (Decidable (_ ∧ _))
  | .set94x94 => inferInstanceAs (Decidable ((_ ∧ _) ∧ _ ∧ _))

theorem graphic_of_position {byte : UInt8} (inside : 0x21 ≤ byte.toNat ∧ byte.toNat ≤ 0x7E) :
    0x20 ≤ byte ∧ byte < 0x80 := by
  rw [UInt8.le_iff_toNat_le, UInt8.lt_iff_toNat_lt]
  exact ⟨Nat.le_of_succ_le inside.1, Nat.lt_succ_of_le (Nat.le_succ_of_le inside.2)⟩

def TableId.shape : TableId → Shape
  | .latinGreek => .set96
  | .jisX0208 | .jisX0212 | .ksX1001 | .gb2312 => .set94x94

theorem GraphicSet.shape_of_table {charset : GraphicSet} {id : TableId}
    (backed : charset.table? = some id) : charset.shape = id.shape := by
  cases charset <;> cases backed <;> rfl

theorem GraphicSet.table_of_double {charset : GraphicSet} (double : charset.shape = .set94x94) :
    charset.table? ≠ none := by
  cases charset <;> cases double <;> exact nofun

structure Catalogue.WellFormed (tables : Catalogue) : Prop where
  oneToOne : tables.OneToOne
  /-- ASCII is left to the sets that have it. -/
  scalars : ∀ id table, tables.find? id = some table → ∀ scalar code,
    table.decode code = some scalar → 0x80 ≤ scalar.toNat
  codes : ∀ id table, tables.find? id = some table → ∀ scalar code,
    table.decode code = some scalar → id.shape.Admits code

/-- The profile designates the set, and readers find it there: directly in G0, by a locking shift
in G1 or by a single shift in G2. -/
def Profile.Places (profile : Profile) (charset : GraphicSet) : Prop :=
  match profile.elementFor? charset with
  | some .g0 => charset.shape ≠ .set96
  | some .g1 => charset.shape ≠ .set96 ∧ profile.lockingShift
  | some .g2 => charset.shape ≠ .set94x94 ∧ profile.singleShift
  | none => False

instance (profile : Profile) (charset : GraphicSet) : Decidable (profile.Places charset) :=
  match found : profile.elementFor? charset with
  | some .g0 => decidable_of_iff (charset.shape ≠ .set96) (by simp only [Profile.Places, found])
  | some .g1 => decidable_of_iff (charset.shape ≠ .set96 ∧ profile.lockingShift)
      (by simp only [Profile.Places, found])
  | some .g2 => decidable_of_iff (charset.shape ≠ .set94x94 ∧ profile.singleShift)
      (by simp only [Profile.Places, found])
  | none => .isFalse (by simp only [Profile.Places, found, not_false_iff])

structure Scheme.Coherent (scheme : Scheme) : Prop where
  placed : ∀ charset ∈ scheme.written, scheme.profile.Places charset
  /-- Substitutions are for scalars outside ASCII and at positions of double-byte sets. -/
  substituted : ∀ sub ∈ scheme.profile.substitutions,
    0x80 ≤ sub.scalar.toNat ∧ sub.charset.shape = .set94x94 ∧ Shape.set94x94.Admits sub.code
  /-- Two scalars never share a position. -/
  unambiguous : ∀ a ∈ scheme.profile.substitutions, ∀ b ∈ scheme.profile.substitutions,
    a.charset.table? = b.charset.table? → a.code = b.code → a.scalar = b.scalar
  /-- A table that has the position has the same scalar there. -/
  agreeing : ∀ sub ∈ scheme.profile.substitutions, ∀ scalar,
    scheme.tables.decode sub.charset sub.code = some scalar → scalar = sub.scalar

namespace Catalogue

variable {tables : Catalogue} {charset : GraphicSet} {scalar : Char} {code : Code}

theorem encode_of_sharesPositions {other : GraphicSet}
    (shared : Profile.sharesPositions charset other) :
    tables.encode charset scalar = tables.encode other scalar := by
  have cases : charset = other ∨ charset.table? ≠ none ∧ charset.table? = other.table? := by
    simpa [Profile.sharesPositions] using shared
  rcases cases with rfl | ⟨backed, same⟩
  · rfl
  · rw [encode_eq_table backed, encode_eq_table (same ▸ backed), tableFor?, tableFor?, same]

/-- A set with control positions has the scalars of ASCII at their own codes and others at
positions of its shape. -/
theorem WellFormed.encode_cases (wellFormed : tables.WellFormed)
    (found : tables.encode charset scalar = some code) :
    charset.shape = .set94 ∧ scalar.toNat < 0x80 ∧ code.toNat = scalar.toNat ∨
    0x80 ≤ scalar.toNat ∧ charset.shape.Admits code := by
  cases backed : charset.table? with
  | some id =>
    obtain ⟨table, loaded, found⟩ := (encode_table_iff backed).mp found
    have entry := (wellFormed.oneToOne id table loaded scalar code).mp found
    rw [GraphicSet.shape_of_table backed]
    exact .inr ⟨wellFormed.scalars id table loaded scalar code entry,
      wellFormed.codes id table loaded scalar code entry⟩
  | none =>
    cases charset with
    | ascii => exact .inl ⟨rfl, encode_ascii_iff.mp found⟩
    | jisRoman =>
      obtain ⟨byte, rfl, roman⟩ := encode_jisRoman_iff.mp found
      rw [Code.toNat_ofByte]
      rcases Roman.encode_cases roman with ⟨rfl, rfl⟩ | ⟨rfl, rfl⟩ | ⟨-, -, ascii, rfl⟩
      · exact .inr ⟨by decide, by decide, by decide⟩
      · exact .inr ⟨by decide, by decide, by decide⟩
      · exact .inl ⟨rfl, ascii, toNat_asciiByte ascii⟩
    | latin1 =>
      obtain ⟨right, same⟩ := encode_latin1_iff.mp found
      refine .inr ⟨by omega, ?_⟩
      show 0xA0 ≤ code.toNat ∧ code.toNat ≤ 0xFF
      rwa [same]
    | _ => cases backed

theorem WellFormed.admits_of_decode (wellFormed : tables.WellFormed)
    (double : charset.shape = .set94x94) (found : tables.decode charset code = some scalar) :
    Shape.set94x94.Admits code := by
  obtain ⟨id, backed⟩ := Option.ne_none_iff_exists'.mp (GraphicSet.table_of_double double)
  obtain ⟨table, loaded, entry⟩ := (decode_table_iff backed).mp found
  rw [← double, GraphicSet.shape_of_table backed]
  exact wellFormed.codes id table loaded scalar code entry

theorem WellFormed.admits_of_encode (wellFormed : tables.WellFormed)
    (outside : 0x80 ≤ scalar.toNat) (found : tables.encode charset scalar = some code) :
    charset.shape.Admits code := by
  rcases wellFormed.encode_cases found with ⟨-, ascii, -⟩ | ⟨-, admits⟩
  · omega
  · exact admits

end Catalogue

/-- Tables made from lists that repeat no scalar and no code are well formed if each entry is. -/
theorem Catalogue.wellFormed_ofEntries {entries : TableId → List Entry}
    (scalars : ∀ id, ((entries id).map (·.scalar)).Nodup)
    (codes : ∀ id, ((entries id).map (·.code)).Nodup)
    (fits : ∀ id, ∀ entry ∈ entries id, 0x80 ≤ entry.scalar.toNat ∧ id.shape.Admits entry.code) :
    WellFormed ⟨fun id => some (CodeTable.ofEntries (entries id))⟩ := by
  refine ⟨?_, ?_, ?_⟩
  · rintro id _ ⟨⟩
    exact CodeTable.oneToOne_of_distinct (scalars id) (codes id)
  · rintro id _ ⟨⟩ scalar code found
    exact (fits id _ ((CodeTable.decode_ofEntries_eq_some_iff (codes id)).mp found)).1
  · rintro id _ ⟨⟩ scalar code found
    exact (fits id _ ((CodeTable.decode_ofEntries_eq_some_iff (codes id)).mp found)).2

namespace Profile

theorem table_of_sharesPositions {a b : GraphicSet} (shared : sharesPositions a b) :
    a.table? = b.table? := by
  have shared : a = b ∨ a.table? ≠ none ∧ a.table? = b.table? := by
    simpa [sharesPositions] using shared
  rcases shared with rfl | ⟨-, same⟩
  · rfl
  · exact same

theorem supports_of_elementFor? {profile : Profile} {charset : GraphicSet} {element : CodeElement}
    (found : profile.elementFor? charset = some element) :
    profile.supports element charset = true := by
  obtain ⟨designation, first, rfl⟩ := Option.map_eq_some_iff.mp found
  have same : designation.charset = charset := by simpa using List.find?_some first
  have listed := List.mem_of_find?_eq_some first
  simp [supports, ← same, listed]

theorem literal?_eq_some {profile : Profile} {charset : GraphicSet} {code : Code} {scalar : Char}
    (found : profile.literal? charset code = some scalar) :
    ∃ sub ∈ profile.substitutions, sub.code = code ∧ sub.charset.table? = charset.table? ∧
      sub.scalar = scalar := by
  obtain ⟨sub, first, rfl⟩ := Option.map_eq_some_iff.mp found
  have fits := List.find?_some first
  simp only [decide_eq_true_eq] at fits
  exact ⟨sub, List.mem_of_find?_eq_some first, fits.1, table_of_sharesPositions fits.2, rfl⟩

theorem literal?_ne_none {profile : Profile} {sub : Substitution}
    (listed : sub ∈ profile.substitutions) : profile.literal? sub.charset sub.code ≠ none := by
  intro absent
  have unfit := List.find?_eq_none.mp (Option.map_eq_none_iff.mp absent) sub listed
  simp [sharesPositions] at unfit

end Profile

namespace Scheme

def character? (scheme : Scheme) (charset : GraphicSet) (code : Code) : Option Char :=
  if charset.isDouble then scheme.doubleByte? charset code else scheme.tables.decode charset code

variable {scheme : Scheme} {charset : GraphicSet} {scalar : Char} {code : Code}

theorem character?_of_double (double : charset.shape = .set94x94) :
    scheme.character? charset code = scheme.doubleByte? charset code :=
  if_pos (GraphicSet.isDouble_iff.mpr double)

theorem character?_of_single (single : charset.shape ≠ .set94x94) :
    scheme.character? charset code = scheme.tables.decode charset code :=
  if_neg (mt GraphicSet.isDouble_iff.mp single)

theorem ascii_of_character? (found : scheme.character? .ascii code = some scalar) :
    scalar.toNat < 0x80 := by
  have found : scheme.tables.decode .ascii code = some scalar := found
  exact (Catalogue.decode_ascii_iff.mp found).1

/-- What a table has at a position is read there: a substitution can only say the same. -/
theorem Coherent.doubleByte?_of_decode (coherent : scheme.Coherent)
    (double : charset.shape = .set94x94)
    (found : scheme.tables.decode charset code = some scalar) :
    scheme.doubleByte? charset code = some scalar := by
  rw [doubleByte?]
  cases fixed : scheme.profile.literal? charset code with
  | none => exact found
  | some literal =>
    obtain ⟨sub, listed, rfl, shared, rfl⟩ := Profile.literal?_eq_some fixed
    have backed : charset.table? ≠ none := GraphicSet.table_of_double double
    have same : scheme.tables.decode sub.charset sub.code = some scalar := by
      rw [Catalogue.decode_eq_table (shared ▸ backed), Catalogue.tableFor?, shared]
      rwa [Catalogue.decode_eq_table backed, Catalogue.tableFor?] at found
    rw [coherent.agreeing sub listed scalar same]
    rfl

theorem Coherent.doubleByte?_substitution (coherent : scheme.Coherent) {sub : Substitution}
    (listed : sub ∈ scheme.profile.substitutions) :
    scheme.doubleByte? sub.charset sub.code = some sub.scalar := by
  rw [doubleByte?]
  cases fixed : scheme.profile.literal? sub.charset sub.code with
  | none => exact absurd fixed (Profile.literal?_ne_none listed)
  | some literal =>
    obtain ⟨other, found, code, shared, rfl⟩ := Profile.literal?_eq_some fixed
    rw [coherent.unambiguous other found sub listed shared code]
    rfl

/-- Readers find nothing outside the rows and cells of a double-byte set. -/
theorem doubleByte?_admits (wellFormed : scheme.tables.WellFormed) (coherent : scheme.Coherent)
    (double : charset.shape = .set94x94) (found : scheme.doubleByte? charset code = some scalar) :
    Shape.set94x94.Admits code := by
  rcases Option.or_eq_some_iff.mp found with literal | ⟨-, entry⟩
  · obtain ⟨sub, listed, rfl, -, -⟩ := Profile.literal?_eq_some literal
    exact (coherent.substituted sub listed).2.2
  · exact wellFormed.admits_of_decode double entry

theorem graphic_of_doubleByte? (wellFormed : scheme.tables.WellFormed) (coherent : scheme.Coherent)
    {first second : UInt8} (double : charset.shape = .set94x94)
    (found : scheme.doubleByte? charset (.pair first second) = some scalar) :
    0x20 ≤ second ∧ second < 0x80 := by
  have cell := graphic_of_position (doubleByte?_admits wellFormed coherent double found).2
  rwa [Code.cell_pair] at cell

/-- The position chosen for a scalar outside ASCII belongs to a set that the profile writes, fits
the shape of that set and reads as the scalar. -/
theorem position?_reads (wellFormed : scheme.tables.WellFormed) (coherent : scheme.Coherent)
    (outside : 0x80 ≤ scalar.toNat) (chosen : scheme.position? scalar = some (charset, code)) :
    charset ∈ scheme.written ∧ charset.shape.Admits code ∧
      scheme.character? charset code = some scalar := by
  rcases Option.or_eq_some_iff.mp chosen with candidate | ⟨-, substitution⟩
  · obtain ⟨first, listed, has⟩ := List.exists_of_findSome?_eq_some candidate
    obtain ⟨position, found, same⟩ := Option.map_eq_some_iff.mp has
    obtain ⟨rfl, rfl⟩ := Prod.mk.inj same
    have back := wellFormed.oneToOne.encode_eq_some_iff.mp found
    refine ⟨List.mem_append_left _ listed, wellFormed.admits_of_encode outside found, ?_⟩
    rw [character?]
    split
    · next double => exact coherent.doubleByte?_of_decode (by simpa using double) back
    · exact back
  · obtain ⟨sub, found, same⟩ := Option.map_eq_some_iff.mp substitution
    obtain ⟨rfl, rfl⟩ := Prod.mk.inj same
    have listed := List.mem_of_find?_eq_some found
    obtain ⟨-, double, admits⟩ := coherent.substituted sub listed
    have scalar : sub.scalar = scalar := by simpa using List.find?_some found
    refine ⟨List.mem_append_right _ (List.mem_map_of_mem listed), double ▸ admits, ?_⟩
    rw [character?_of_double double, ← scalar]
    exact coherent.doubleByte?_substitution listed

/-- Where a scalar outside ASCII has a position, readers find the set and read the scalar. -/
def Legible (scheme : Scheme) : Prop :=
  ∀ scalar charset code, 0x80 ≤ scalar.toNat → scheme.position? scalar = some (charset, code) →
    scheme.profile.Places charset ∧ charset.shape.Admits code ∧
      scheme.character? charset code = some scalar

theorem Coherent.legible (coherent : scheme.Coherent) (wellFormed : scheme.tables.WellFormed) :
    scheme.Legible := by
  intro scalar charset code outside chosen
  obtain ⟨written, reads⟩ := position?_reads wellFormed coherent outside chosen
  exact ⟨coherent.placed charset written, reads⟩

end Scheme

/-! A small scheme that writes through all three elements. -/
namespace Mixed

def entries : TableId → List Entry
  | .jisX0208 => [⟨'あ', 0x2422⟩, ⟨'漢', 0x3441⟩]
  | .ksX1001 => [⟨'가', 0x3021⟩]
  | _ => []

def profile : Profile where
  name := "mixed"
  designations :=
    [⟨.ascii, .g0⟩, ⟨.jisRoman, .g0⟩, ⟨.jisX0208, .g0⟩, ⟨.ksX1001, .g1⟩, ⟨.latin1, .g2⟩]
  candidates := [.jisX0208, .ksX1001, .jisRoman, .latin1]
  substitutions := [Profile.reverseSolidus]
  lockingShift := true
  singleShift := true

def scheme : Scheme := ⟨profile, ⟨fun id => some (CodeTable.ofEntries (entries id))⟩⟩

theorem wellFormed : scheme.tables.WellFormed :=
  Catalogue.wellFormed_ofEntries (fun id => by cases id <;> decide)
    (fun id => by cases id <;> decide) (fun id => by cases id <;> decide)

theorem coherent : scheme.Coherent where
  placed := by decide
  substituted := by decide
  unambiguous := by decide
  agreeing := by
    rintro sub listed scalar found
    obtain rfl := List.mem_singleton.mp listed
    have entry := (CodeTable.decode_ofEntries_eq_some_iff (by decide)).mp found
    simp [entries, Profile.reverseSolidus] at entry

end Mixed

end CodeExtension
