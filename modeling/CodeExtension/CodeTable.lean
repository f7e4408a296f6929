import Std.Data.TreeMap
import CodeExtension.Code

/-! Mapping tables between scalars and codes. The two directions are kept apart: each keeps the
first entry it was given, so a table with repeated scalars or codes need not be one-to-one. -/
namespace CodeExtension

structure Entry where
  scalar : Char
  code : Code
  deriving DecidableEq

structure CodeTable where
  codes : Std.TreeMap Char Code
  scalars : Std.TreeMap Code Char

namespace CodeTable

def empty : CodeTable := ⟨∅, ∅⟩

/-- Adds an entry in each direction that does not have one yet. -/
def insert (table : CodeTable) (entry : Entry) : CodeTable :=
  ⟨table.codes.insertIfNew entry.scalar entry.code,
    table.scalars.insertIfNew entry.code entry.scalar⟩

def ofEntries (entries : List Entry) : CodeTable := entries.foldl insert empty

def encode (table : CodeTable) (scalar : Char) : Option Code := table.codes[scalar]?

def decode (table : CodeTable) (code : Code) : Option Char := table.scalars[code]?

/-- The number of codes that decode. -/
def size (table : CodeTable) : Nat := table.scalars.size

def isEmpty (table : CodeTable) : Bool := table.scalars.isEmpty

/-- The codes that decode, in increasing order, each with its scalar. -/
def entries (table : CodeTable) : List Entry :=
  table.scalars.toList.map fun (code, scalar) => ⟨scalar, code⟩

@[simp] theorem encode_empty (scalar : Char) : empty.encode scalar = none := by
  simp [empty, encode]

@[simp] theorem decode_empty (code : Code) : empty.decode code = none := by
  simp [empty, decode]

theorem encode_insert (table : CodeTable) (entry : Entry) (scalar : Char) :
    (table.insert entry).encode scalar =
      (table.encode scalar).or (if entry.scalar = scalar then some entry.code else none) := by
  simp only [insert, encode, Std.TreeMap.getElem?_insertIfNew]
  by_cases same : entry.scalar = scalar
  · subst same
    by_cases known : entry.scalar ∈ table.codes <;> simp [known]
  · simp [same]

theorem decode_insert (table : CodeTable) (entry : Entry) (code : Code) :
    (table.insert entry).decode code =
      (table.decode code).or (if entry.code = code then some entry.scalar else none) := by
  simp only [insert, decode, Std.TreeMap.getElem?_insertIfNew]
  by_cases same : entry.code = code
  · subst same
    by_cases known : entry.code ∈ table.scalars <;> simp [known]
  · simp [same]

theorem encode_foldl_insert (entries : List Entry) (table : CodeTable) (scalar : Char) :
    (entries.foldl insert table).encode scalar =
      (table.encode scalar).or ((entries.find? (·.scalar = scalar)).map (·.code)) := by
  induction entries generalizing table with
  | nil => simp
  | cons entry rest ih =>
    rw [List.foldl_cons, ih, encode_insert, List.find?_cons]
    by_cases same : entry.scalar = scalar <;> simp [same]

theorem decode_foldl_insert (entries : List Entry) (table : CodeTable) (code : Code) :
    (entries.foldl insert table).decode code =
      (table.decode code).or ((entries.find? (·.code = code)).map (·.scalar)) := by
  induction entries generalizing table with
  | nil => simp
  | cons entry rest ih =>
    rw [List.foldl_cons, ih, decode_insert, List.find?_cons]
    by_cases same : entry.code = code <;> simp [same]

theorem encode_ofEntries (entries : List Entry) (scalar : Char) :
    (ofEntries entries).encode scalar =
      (entries.find? (·.scalar = scalar)).map (·.code) := by
  simp [ofEntries, encode_foldl_insert]

theorem decode_ofEntries (entries : List Entry) (code : Code) :
    (ofEntries entries).decode code =
      (entries.find? (·.code = code)).map (·.scalar) := by
  simp [ofEntries, decode_foldl_insert]

theorem mem_entries {table : CodeTable} {entry : Entry} :
    entry ∈ table.entries ↔ table.decode entry.code = some entry.scalar := by
  simp only [entries, decode, List.mem_map, Prod.exists,
    Std.TreeMap.mem_toList_iff_getElem?_eq_some]
  constructor
  · rintro ⟨code, scalar, found, rfl⟩
    exact found
  · exact fun found => ⟨entry.code, entry.scalar, found, rfl⟩

end CodeTable

/-- A column of a code chart: sixteen consecutive positions from `first`, whose scalars are the
base 65536 digits of `cells`, most significant first. A zero digit leaves a position empty. -/
structure Column where
  first : Code
  cells : Nat

def Column.entries (column : Column) : List Entry :=
  (List.range 16).filterMap fun i =>
    match (column.cells >>> (16 * (15 - i))) % 65536 with
    | 0 => none
    | scalar => some ⟨Char.ofNat scalar, column.first + UInt16.ofNat i⟩

def CodeTable.ofColumns (columns : List Column) : CodeTable :=
  ofEntries (columns.flatMap Column.entries)

end CodeExtension
