import CodeExtension.Document.Table
import CodeExtension.Proofs.Coherence

/-! Tables and the lists of entries they are made from and written out as. A list is written out
from the side of the codes alone, so reading it back restores what the table decodes, and what it
encodes wherever the two directions agree. They agree unless some entry is new in one direction
only. -/
namespace CodeExtension

theorem Entry.eq_of_fields {a b : Entry} (scalar : a.scalar = b.scalar)
    (code : a.code = b.code) : a = b := by
  cases a
  cases b
  simp_all

namespace CodeTable

/-! What is written out. -/

variable (table : CodeTable)

theorem entries_increasing : table.entries.Pairwise fun a b => a.code < b.code := by
  simp only [entries, List.pairwise_map]
  exact Std.TreeMap.ordered_keys_toList.imp Std.compare_eq_lt.mp

theorem nodup_codes_entries : (table.entries.map (·.code)).Nodup := by
  apply List.pairwise_map.mpr
  apply table.entries_increasing.imp
  intro a b less same
  exact absurd (same ▸ less) (UInt16.lt_irrefl b.code)

theorem length_entries : table.entries.length = table.size := by
  simp [entries, size]

/-- The order leaves no choice: tables that decode alike are written out alike. -/
theorem entries_congr {a b : CodeTable} (same : a.decode = b.decode) : a.entries = b.entries := by
  have equiv : a.scalars.Equiv b.scalars :=
    Std.TreeMap.Equiv.of_forall_constGet?_eq fun code => congrFun same code
  simp only [entries, equiv.toList_eq]

/-! What is read back. -/

theorem decode_ofEntries_entries : (ofEntries table.entries).decode = table.decode := by
  funext code
  apply Option.ext
  intro scalar
  rw [decode_ofEntries_eq_some_iff table.nodup_codes_entries]
  exact mem_entries

theorem entries_ofEntries_entries : (ofEntries table.entries).entries = table.entries :=
  entries_congr table.decode_ofEntries_entries

variable {table}

theorem OneToOne.encode_ofEntries_entries (oneToOne : table.OneToOne) :
    (ofEntries table.entries).encode = table.encode := by
  have distinct : (table.entries.map (·.scalar)).Nodup := by
    apply List.Nodup.map_on
    · intro a first b second same
      have left := (oneToOne a.scalar a.code).mpr (mem_entries.mp first)
      have right := (oneToOne b.scalar b.code).mpr (mem_entries.mp second)
      rw [same, right] at left
      exact Entry.eq_of_fields same (Option.some.inj left).symm
    · exact List.Nodup.of_map _ table.nodup_codes_entries
  funext scalar
  apply Option.ext
  intro code
  rw [encode_ofEntries_eq_some_iff distinct, oneToOne scalar code]
  exact mem_entries

/-- A table made from entries takes, in each direction, the first that has what is looked up. It
is written out as its codes that decode, each once and in increasing order, and there are as many
as its size says. A table read back from that decodes the same and is written out the same, so
that to read it back again changes nothing. If the entries repeat no scalar and no code, the two
directions are inverse to each other, and encoding survives as well. -/
theorem ofEntries_firstMatch (entries : List Entry) :
    let table := ofEntries entries
    let back := ofEntries table.entries
    let again := ofEntries back.entries
    (∀ scalar, table.encode scalar = (entries.find? (·.scalar = scalar)).map (·.code)) ∧
    (∀ code, table.decode code = (entries.find? (·.code = code)).map (·.scalar)) ∧
    (∀ entry, entry ∈ table.entries ↔ table.decode entry.code = some entry.scalar) ∧
    table.entries.Pairwise (fun a b => a.code < b.code) ∧
    table.size = table.entries.length ∧
    back.decode = table.decode ∧ back.entries = table.entries ∧
    again.encode = back.encode ∧ again.decode = back.decode ∧
    ((entries.map (·.scalar)).Nodup → (entries.map (·.code)).Nodup →
      table.OneToOne ∧ back.encode = table.encode) := by
  intro table back again
  have restored : back.entries = table.entries := table.entries_ofEntries_entries
  have stable : again = back := congrArg ofEntries restored
  refine ⟨encode_ofEntries entries, decode_ofEntries entries, fun _ => mem_entries,
    table.entries_increasing, table.length_entries.symm, table.decode_ofEntries_entries, restored,
    by rw [stable], by rw [stable], ?_⟩
  intro scalars codes
  have oneToOne := oneToOne_of_distinct scalars codes
  exact ⟨oneToOne, oneToOne.encode_ofEntries_entries⟩

/-! Entries that clash. -/

section

variable {κ μ : Type} [DecidableEq κ] {key : Entry → κ} {other : Entry → μ} {entries : List Entry}

/-- Key and other together are the whole entry, so to find the other by its key is to find the
entry. -/
theorem map_find?_eq_some_iff (whole : ∀ a b, key a = key b → other a = other b → a = b)
    {entry : Entry} :
    (entries.find? fun e => key e = key entry).map other = some (other entry) ↔
      entries.find? (fun e => key e = key entry) = some entry := by
  rw [Option.map_eq_some_iff]
  constructor
  · rintro ⟨found, first, same⟩
    have keyed : key found = key entry := by simpa using List.find?_some first
    rwa [whole found entry keyed same] at first
  · intro first
    exact ⟨entry, first, rfl⟩

/-- The first entry with a key is in each case also the first with the other, just when an entry
never repeats the other without repeating the key. -/
theorem find?_of_find?_iff [DecidableEq μ] :
    (∀ entry, entries.find? (fun e => key e = key entry) = some entry →
      entries.find? (fun e => other e = other entry) = some entry) ↔
    ∀ before entry after, entries = before ++ entry :: after →
      other entry ∈ before.map other → key entry ∈ before.map key := by
  constructor
  · intro finds before entry after split repeated
    by_contra fresh
    have first : entries.find? (fun e => key e = key entry) = some entry := by
      refine List.find?_eq_some_iff_append.mpr ⟨by simp, before, after, split, ?_⟩
      intro earlier member
      simpa using fun same => fresh (List.mem_map.mpr ⟨earlier, member, same⟩)
    -- An entry before it is found for the other, and it is not the same by its key.
    have found := finds entry first
    obtain ⟨earlier, member, same⟩ := List.mem_map.mp repeated
    have known : (before.find? fun e => other e = other entry).isSome := by
      simpa using ⟨earlier, member, same⟩
    obtain ⟨holder, holds⟩ := Option.isSome_iff_exists.mp known
    rw [split, List.find?_append, holds, Option.some_or] at found
    obtain rfl := Option.some.inj found
    exact fresh (List.mem_map.mpr ⟨holder, List.mem_of_find?_eq_some holds, rfl⟩)
  · intro repeats entry first
    obtain ⟨-, before, after, split, fresh⟩ := List.find?_eq_some_iff_append.mp first
    refine List.find?_eq_some_iff_append.mpr ⟨by simp, before, after, split, ?_⟩
    intro earlier member
    simp only [Bool.not_eq_true', decide_eq_false_iff_not]
    intro same
    have repeated := repeats before entry after split (List.mem_map.mpr ⟨earlier, member, same⟩)
    obtain ⟨holder, holds, equal⟩ := List.mem_map.mp repeated
    simpa [equal] using fresh holder holds

end

variable {entries : List Entry}

theorem encode_ofEntries_entry {entry : Entry} :
    (ofEntries entries).encode entry.scalar = some entry.code ↔
      entries.find? (·.scalar = entry.scalar) = some entry := by
  rw [encode_ofEntries]
  exact map_find?_eq_some_iff fun _ _ => Entry.eq_of_fields

theorem decode_ofEntries_entry {entry : Entry} :
    (ofEntries entries).decode entry.code = some entry.scalar ↔
      entries.find? (·.code = entry.code) = some entry := by
  rw [decode_ofEntries]
  exact map_find?_eq_some_iff fun _ _ code scalar => Entry.eq_of_fields scalar code

/-- Every scalar is encoded to a code that decodes back to it, just when no entry gives a new
scalar a code that was there before. -/
theorem decode_of_encode_iff :
    (∀ entry : Entry, (ofEntries entries).encode entry.scalar = some entry.code →
      (ofEntries entries).decode entry.code = some entry.scalar) ↔
    ∀ before entry after, entries = before ++ entry :: after →
      entry.code ∈ before.map (·.code) → entry.scalar ∈ before.map (·.scalar) := by
  simp only [encode_ofEntries_entry, decode_ofEntries_entry]
  exact find?_of_find?_iff

theorem encode_of_decode_iff :
    (∀ entry : Entry, (ofEntries entries).decode entry.code = some entry.scalar →
      (ofEntries entries).encode entry.scalar = some entry.code) ↔
    ∀ before entry after, entries = before ++ entry :: after →
      entry.scalar ∈ before.map (·.scalar) → entry.code ∈ before.map (·.code) := by
  simp only [encode_ofEntries_entry, decode_ofEntries_entry]
  exact find?_of_find?_iff

theorem exists_decode_of_encode {scalar : Char} {code : Code}
    (found : (ofEntries entries).encode scalar = some code) :
    ∃ holder, (ofEntries entries).decode code = some holder := by
  rw [encode_ofEntries, Option.map_eq_some_iff] at found
  obtain ⟨entry, first, rfl⟩ := found
  have known : (entries.find? (·.code = entry.code)).isSome := by
    simpa using ⟨entry, List.mem_of_find?_eq_some first, rfl⟩
  obtain ⟨holder, holds⟩ := Option.isSome_iff_exists.mp known
  exact ⟨holder.scalar, by rw [decode_ofEntries, holds, Option.map_some]⟩

/-- A table made from entries maps the same pairs in both directions just when each entry repeats
an earlier scalar and an earlier code, or neither. That it never encodes a scalar to a code which
decodes to a different one takes only that no entry gives a new scalar an earlier code. -/
theorem ofEntries_oneToOne_iff (entries : List Entry) :
    ((ofEntries entries).OneToOne ↔
      ∀ before entry after, entries = before ++ entry :: after →
        (entry.scalar ∈ before.map (·.scalar) ↔ entry.code ∈ before.map (·.code))) ∧
    ((∀ scalar code holder, (ofEntries entries).encode scalar = some code →
        (ofEntries entries).decode code = some holder → holder = scalar) ↔
      ∀ before entry after, entries = before ++ entry :: after →
        entry.code ∈ before.map (·.code) → entry.scalar ∈ before.map (·.scalar)) := by
  constructor
  · constructor
    · intro oneToOne before entry after split
      have there := encode_of_decode_iff.mp fun entry => (oneToOne entry.scalar entry.code).mpr
      have back := decode_of_encode_iff.mp fun entry => (oneToOne entry.scalar entry.code).mp
      exact ⟨there before entry after split, back before entry after split⟩
    · intro balanced scalar code
      have there := decode_of_encode_iff.mpr fun before entry after split =>
        (balanced before entry after split).mpr
      have back := encode_of_decode_iff.mpr fun before entry after split =>
        (balanced before entry after split).mp
      exact ⟨there ⟨scalar, code⟩, back ⟨scalar, code⟩⟩
  · rw [← decode_of_encode_iff]
    constructor
    · intro harmless entry found
      obtain ⟨holder, holds⟩ := exists_decode_of_encode found
      rwa [harmless _ _ holder found holds] at holds
    · intro returns scalar code holder found holds
      have same := (returns ⟨scalar, code⟩ found).symm.trans holds
      exact (Option.some.inj same).symm

def clashing : List UInt8 := "[[[\"a\",8481],[\"b\",8481]]]".toUTF8.toList

/-- The second scalar is encoded to the code that decodes to the first. -/
theorem decode_clashing :
    ¬(ofEntries [⟨'a', 0x2121⟩, ⟨'b', 0x2121⟩]).OneToOne ∧
    ∃ table, parse? clashing = some table ∧ table.encode 'b' = some 0x2121 ∧
      table.decode 0x2121 = some 'a' ∧ ¬table.OneToOne := by
  have clash {table : CodeTable} (there : table.encode 'b' = some 0x2121)
      (back : table.decode 0x2121 = some 'a') : ¬table.OneToOne := by
    intro oneToOne
    rw [(oneToOne 'b' 0x2121).mp there] at back
    simp at back
  have read : (parse? clashing).map (fun table => (table.encode 'b', table.decode 0x2121)) =
      some (some 0x2121, some 'a') := by
    decide +kernel
  obtain ⟨table, parsed, found⟩ := Option.map_eq_some_iff.mp read
  obtain ⟨there, back⟩ := Prod.mk.inj found
  refine ⟨clash ?_ ?_, table, parsed, there, back, clash there back⟩
  · simp [encode_ofEntries]
  · simp [decode_ofEntries]

end CodeTable

end CodeExtension
