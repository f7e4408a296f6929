import Mathlib.Data.List.Nodup
import Mathlib.Data.Nat.Bitwise
import CodeExtension.Proofs.Coherence

/-! Code charts that map one-to-one. A chart is a list of columns in the order of their codes, so
no code comes twice if the columns are far enough apart. That no number comes twice is found by
going through the chart once with a set of the numbers seen so far, kept as the bits of one
number. -/
namespace CodeExtension

/-- The set of `count` numbers from `first` on. -/
def bitRange (first count : Nat) : Nat := (2 ^ count - 1) <<< first

theorem testBit_bitRange {first count n : Nat} :
    (bitRange first count).testBit n = true ↔ first ≤ n ∧ n < first + count := by
  rw [bitRange, Nat.testBit_shiftLeft, Nat.testBit_two_pow_sub_one]
  simp only [Bool.and_eq_true, decide_eq_true_eq]
  omega

theorem not_testBit_of_and {a b n : Nat} (apart : a &&& b = 0) (member : a.testBit n = true) :
    b.testBit n = false := by
  have none : (a &&& b).testBit n = false := by rw [apart, Nat.zero_testBit]
  rwa [Nat.testBit_and, member, Bool.true_and] at none

namespace Column

/-- The number of the scalar at a place of the column, or zero if there is none. -/
def number (column : Column) (i : Nat) : Nat := (column.cells >>> (16 * (15 - i))) % 65536

def places (column : Column) : List Nat :=
  (List.range 16).filter fun i => column.number i ≠ 0

theorem entries_eq (column : Column) : column.entries =
    column.places.map fun i => ⟨Char.ofNat (column.number i), column.first + UInt16.ofNat i⟩ := by
  rw [entries, places]
  induction List.range 16 with
  | nil => rfl
  | cons i rest ih =>
    rw [List.filterMap_cons, ih]
    cases found : column.number i with
    | zero =>
      rw [List.filter_cons_of_neg (by simp [found])]
      rw [number] at found
      rw [found]
      rfl
    | succ n =>
      rw [List.filter_cons_of_pos (by simp [found]), List.map_cons, found]
      rw [number] at found
      rw [found]
      rfl

def numbers (columns : List Column) : List Nat :=
  columns.flatMap fun column => column.places.map column.number

variable {columns : List Column} {n : Nat}

theorem map_scalar_entries (columns : List Column) :
    (columns.flatMap entries).map (·.scalar) = (numbers columns).map Char.ofNat := by
  rw [numbers, List.map_flatMap, List.map_flatMap]
  simp only [entries_eq, List.map_map, Function.comp_def]

theorem number_lt (column : Column) (i : Nat) : column.number i < 65536 :=
  Nat.mod_lt _ (by decide)

theorem lt_of_mem_numbers (member : n ∈ numbers columns) : n < 65536 := by
  obtain ⟨column, -, inside⟩ := List.mem_flatMap.mp member
  obtain ⟨i, -, rfl⟩ := List.mem_map.mp inside
  exact column.number_lt i

/-- Adds a number to the set, unless it is in there already. -/
def mark (n : Nat) (next : Nat → Bool) (seen : Nat) : Bool :=
  if n = 0 then next seen else !seen.testBit n && next (seen ||| 1 <<< n)

/-- Goes through a chart as long as no number comes twice, and has `last` judge the set of all its
numbers. -/
def scan (columns : List Column) (last : Nat → Bool) : Nat → Bool :=
  columns.foldr (fun column => ((List.range 16).map column.number).foldr mark) last

theorem testBit_mark (seen n m : Nat) :
    (seen ||| 1 <<< n).testBit m = true ↔ seen.testBit m = true ∨ m = n := by
  rw [Nat.one_shiftLeft, Nat.testBit_or, Nat.testBit_two_pow, Bool.or_eq_true, decide_eq_true_eq,
    @eq_comm _ n]

/-- The invariant of the scan: what is marked was not seen before, and no two are the same. -/
theorem foldr_mark {all : List Nat} {last : Nat → Bool} {seen : Nat}
    (marked : all.foldr mark last seen = true) :
    (all.filter (· ≠ 0)).Nodup ∧ (∀ n ∈ all.filter (· ≠ 0), seen.testBit n = false) ∧
      ∃ bits, last bits = true ∧
        ∀ n, bits.testBit n = true ↔ seen.testBit n = true ∨ n ∈ all.filter (· ≠ 0) := by
  induction all generalizing seen with
  | nil => exact ⟨List.nodup_nil, nofun, seen, marked, by simp⟩
  | cons first rest ih =>
    rw [List.foldr_cons, mark] at marked
    split at marked
    · next zero =>
      rw [List.filter_cons_of_neg (by simp [zero])]
      exact ih marked
    next nonzero =>
    obtain ⟨fresh, later⟩ : seen.testBit first = false ∧ _ := by simpa using marked
    obtain ⟨distinct, unseen, bits, judged, members⟩ := ih later
    rw [List.filter_cons_of_pos (by simp [nonzero])]
    refine ⟨List.nodup_cons.mpr ⟨?_, distinct⟩, ?_, bits, judged, ?_⟩
    · intro again
      have := unseen first again
      rw [(testBit_mark seen first first).mpr (.inr rfl)] at this
      contradiction
    · intro n member
      rcases List.mem_cons.mp member with rfl | member
      · exact fresh
      · by_contra before
        have := unseen n member
        rw [(testBit_mark seen first n).mpr (.inl (by simpa using before))] at this
        contradiction
    · intro n
      rw [members, testBit_mark, List.mem_cons, or_assoc]

theorem numbers_of_scan {last : Nat → Bool} (scanned : scan columns last 0 = true) :
    (numbers columns).Nodup ∧
      ∃ bits, last bits = true ∧ ∀ n, bits.testBit n = true ↔ n ∈ numbers columns := by
  have flat : (columns.flatMap fun column => (List.range 16).map column.number).foldr mark last 0 =
      true := by
    rw [List.foldr_flatMap]
    exact scanned
  have shown : (columns.flatMap fun column => (List.range 16).map column.number).filter (· ≠ 0) =
      numbers columns := by
    rw [List.filter_flatMap, numbers]
    simp only [List.filter_map]
    rfl
  obtain ⟨distinct, -, bits, judged, members⟩ := foldr_mark flat
  rw [shown] at distinct members
  exact ⟨distinct, bits, judged, fun n => by simpa using members n⟩

/-- Whether the sixteen places from `first` on are positions of a set of 94, where the two places
around it stay empty. -/
def insideSet (column : Column) (first : Nat) : Bool :=
  0x20 ≤ first ∧ first ≤ 0x70 ∧ (first = 0x20 → column.number 0 = 0) ∧
    (first = 0x70 → column.number 15 = 0)

def fits (column : Column) : Shape → Bool
  | .set94 => column.insideSet column.first.toNat
  | .set96 => 0xA0 ≤ column.first.toNat ∧ column.first.toNat ≤ 0xF0
  | .set94x94 => (0x21 ≤ column.first.toNat / 256 ∧ column.first.toNat / 256 ≤ 0x7E) ∧
      column.insideSet (column.first.toNat % 256)

def Before (a b : Column) : Prop := a.first.toNat + 16 ≤ b.first.toNat

instance (a b : Column) : Decidable (a.Before b) := inferInstanceAs (Decidable (_ ≤ _))

instance : Trans Before Before Before where
  trans {a b c} first second := by
    simp only [Before] at first second ⊢
    omega

variable {column : Column} {i : Nat} {shape : Shape}

theorem mem_places : i ∈ column.places ↔ i < 16 ∧ column.number i ≠ 0 := by
  simp [places]

theorem inside_of_place {first : Nat} (inside : column.insideSet first = true)
    (place : i ∈ column.places) : 0x21 ≤ first + i ∧ first + i ≤ 0x7E := by
  obtain ⟨low, high, lower, upper⟩ : 0x20 ≤ first ∧ first ≤ 0x70 ∧
      (first = 0x20 → column.number 0 = 0) ∧ (first = 0x70 → column.number 15 = 0) :=
    of_decide_eq_true inside
  obtain ⟨small, filled⟩ := mem_places.mp place
  constructor
  · by_contra outside
    obtain ⟨rfl, rfl⟩ : first = 0x20 ∧ i = 0 := by omega
    exact filled (lower rfl)
  · by_contra outside
    obtain ⟨rfl, rfl⟩ : first = 0x70 ∧ i = 15 := by omega
    exact filled (upper rfl)

theorem first_le_of_fits (fits : column.fits shape = true) : column.first.toNat ≤ 0x7EFF := by
  cases shape with
  | set94 =>
    have : column.first.toNat ≤ 0x70 := by simp_all [Column.fits, insideSet]
    omega
  | set96 =>
    have : column.first.toNat ≤ 0xF0 := by simp_all [Column.fits]
    omega
  | set94x94 =>
    have : column.first.toNat / 256 ≤ 0x7E := by simp_all [Column.fits]
    omega

theorem toNat_code (fits : column.fits shape = true) (small : i < 16) :
    (column.first + UInt16.ofNat i).toNat = column.first.toNat + i := by
  have := first_le_of_fits fits
  rw [UInt16.toNat_add, UInt16.toNat_ofNat']
  omega

theorem admits_of_fits (fits : column.fits shape = true) (place : i ∈ column.places) :
    shape.Admits (column.first + UInt16.ofNat i) := by
  have code := toNat_code fits (mem_places.mp place).1
  cases shape with
  | set94 =>
    show _ ∧ _
    rw [code]
    exact inside_of_place fits place
  | set96 =>
    have bounds : 0xA0 ≤ column.first.toNat ∧ column.first.toNat ≤ 0xF0 := by
      simpa [Column.fits] using fits
    have small := (mem_places.mp place).1
    show _ ∧ _
    rw [code]
    omega
  | set94x94 =>
    obtain ⟨row, inside⟩ : (0x21 ≤ column.first.toNat / 256 ∧ column.first.toNat / 256 ≤ 0x7E) ∧
        column.insideSet (column.first.toNat % 256) = true := by
      simpa [Column.fits] using fits
    have cell := inside_of_place inside place
    show (_ ∧ _) ∧ _ ∧ _
    rw [Code.toNat_row, Code.toNat_cell, code]
    omega

theorem nodup_codes (apart : columns.IsChain Before)
    (fits : ∀ column ∈ columns, column.fits shape = true) :
    ((columns.flatMap entries).map (·.code)).Nodup := by
  have within {column : Column} (listed : column ∈ columns) {entry : Entry}
      (member : entry ∈ column.entries) : ∃ i < 16, entry.code.toNat = column.first.toNat + i := by
    rw [entries_eq] at member
    obtain ⟨i, place, rfl⟩ := List.mem_map.mp member
    have small := (mem_places.mp place).1
    exact ⟨i, small, toNat_code (fits column listed) small⟩
  have rising : (columns.flatMap entries).Pairwise fun a b => a.code.toNat < b.code.toNat := by
    refine List.pairwise_flatMap.mpr ⟨?_, ?_⟩
    · intro column listed
      rw [entries_eq, List.pairwise_map]
      refine (List.pairwise_lt_range.filter _).imp_of_mem ?_
      intro i j here there order
      rw [toNat_code (fits column listed) (mem_places.mp here).1,
        toNat_code (fits column listed) (mem_places.mp there).1]
      omega
    · refine (List.isChain_iff_pairwise.mp apart).imp_of_mem ?_
      intro a b here there before x inside y beyond
      obtain ⟨i, small, left⟩ := within here inside
      obtain ⟨j, -, right⟩ := within there beyond
      rw [left, right]
      simp only [Before] at before
      omega
  refine List.pairwise_map.mpr (rising.imp ?_)
  intro a b order same
  rw [same] at order
  exact Nat.lt_irrefl _ order

end Column

section Distinct

variable {columns : List Column} (distinct : (Column.numbers columns).Nodup)
  (scalars : ∀ n ∈ Column.numbers columns, 0x80 ≤ n ∧ n.isValidChar)

include distinct scalars

theorem Column.nodup_scalars : ((columns.flatMap entries).map (·.scalar)).Nodup := by
  rw [map_scalar_entries]
  refine distinct.map_on ?_
  intro n here m there same
  have numbers := congrArg Char.toNat same
  rwa [Char.toNat_ofNat, if_pos (scalars n here).2, Char.toNat_ofNat,
    if_pos (scalars m there).2] at numbers

/-- A table made from a chart has the scalars of the chart's numbers. -/
theorem CodeTable.isSome_encode_ofColumns {scalar : Char} :
    ((ofColumns columns).encode scalar).isSome = true ↔ scalar.toNat ∈ Column.numbers columns := by
  have listed : ((ofColumns columns).encode scalar).isSome = true ↔
      scalar ∈ (columns.flatMap Column.entries).map (·.scalar) := by
    rw [Option.isSome_iff_exists, List.mem_map, ofColumns]
    simp only [encode_ofEntries_eq_some_iff (Column.nodup_scalars distinct scalars)]
    constructor
    · rintro ⟨code, member⟩
      exact ⟨_, member, rfl⟩
    · rintro ⟨entry, member, rfl⟩
      exact ⟨entry.code, member⟩
  rw [listed, Column.map_scalar_entries, List.mem_map]
  constructor
  · rintro ⟨n, member, rfl⟩
    rwa [Char.toNat_ofNat, if_pos (scalars n member).2]
  · intro member
    exact ⟨scalar.toNat, member, Char.ofNat_toNat scalar⟩

end Distinct

theorem Catalogue.wellFormed_ofColumns {columns : TableId → List Column}
    (distinct : ∀ id, (Column.numbers (columns id)).Nodup)
    (scalars : ∀ id, ∀ n ∈ Column.numbers (columns id), 0x80 ≤ n ∧ n.isValidChar)
    (apart : ∀ id, (columns id).IsChain Column.Before)
    (fits : ∀ id, ∀ column ∈ columns id, column.fits id.shape = true) :
    WellFormed ⟨fun id => some (CodeTable.ofColumns (columns id))⟩ := by
  refine wellFormed_ofEntries (fun id => Column.nodup_scalars (distinct id) (scalars id))
    (fun id => Column.nodup_codes (apart id) (fits id)) ?_
  intro id entry member
  obtain ⟨column, listed, inside⟩ := List.mem_flatMap.mp member
  rw [Column.entries_eq] at inside
  obtain ⟨i, place, rfl⟩ := List.mem_map.mp inside
  have shown : column.number i ∈ Column.numbers (columns id) :=
    List.mem_flatMap.mpr ⟨column, listed, List.mem_map_of_mem place⟩
  obtain ⟨outside, valid⟩ := scalars id _ shown
  refine ⟨?_, Column.admits_of_fits (fits id column listed) place⟩
  rw [Char.toNat_ofNat, if_pos valid]
  exact outside

end CodeExtension
