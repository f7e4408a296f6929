import CodeExtension.CodeTable
import CodeExtension.GraphicSet
import CodeExtension.Roman

/-! Looking characters up in graphic sets. A catalogue holds the mapping tables that are loaded;
ASCII, the Roman set and Latin-1 need none. -/
namespace CodeExtension

structure Catalogue where
  find? : TableId → Option CodeTable

namespace Catalogue

def empty : Catalogue := ⟨fun _ => none⟩

/-- Loads a table, in place of any that had its name. -/
def insert (tables : Catalogue) (id : TableId) (table : CodeTable) : Catalogue :=
  ⟨fun other => if other = id then some table else tables.find? other⟩

def contains (tables : Catalogue) (id : TableId) : Bool := (tables.find? id).isSome

/-- The table that a set is read through, if the set needs one and it is loaded. -/
def tableFor? (tables : Catalogue) (charset : GraphicSet) : Option CodeTable :=
  charset.table?.bind tables.find?

def encode (tables : Catalogue) (charset : GraphicSet) (scalar : Char) : Option Code :=
  match charset with
  | .ascii => if scalar.toNat < 0x80 then some (UInt16.ofNat scalar.toNat) else none
  | .jisRoman => (Roman.encode scalar).map Code.ofByte
  | .latin1 =>
    if 0xA0 ≤ scalar.toNat ∧ scalar.toNat ≤ 0xFF then some (UInt16.ofNat scalar.toNat) else none
  | charset => (tables.tableFor? charset).bind (·.encode scalar)

def decode (tables : Catalogue) (charset : GraphicSet) (code : Code) : Option Char :=
  match charset with
  | .ascii => if code < 0x80 then some (Char.ofNat code.toNat) else none
  | .jisRoman => (Code.byte? code).bind Roman.decode
  | .latin1 => if 0xA0 ≤ code ∧ code ≤ 0xFF then some (Char.ofNat code.toNat) else none
  | charset => (tables.tableFor? charset).bind (·.decode code)

/-- The tables that these sets need and the catalogue lacks, each once, in the order of the
sets. -/
def missing (tables : Catalogue) (charsets : List GraphicSet) : List TableId :=
  ((charsets.filterMap GraphicSet.table?).filter (!tables.contains ·)).eraseDups

@[simp] theorem find?_insert_same (tables : Catalogue) (id : TableId) (table : CodeTable) :
    (tables.insert id table).find? id = some table := by
  simp [insert]

@[simp] theorem find?_insert_other {id other : TableId} (tables : Catalogue) (table : CodeTable)
    (h : other ≠ id) : (tables.insert id table).find? other = tables.find? other := by
  simp [insert, h]

end Catalogue

end CodeExtension
