/-! Positions in a graphic set, as sixteen-bit codes: the byte itself for a single-byte set, row
and cell for a double-byte one. -/
namespace CodeExtension

abbrev Code := UInt16

namespace Code

def pair (row cell : UInt8) : Code := UInt16.ofNat (row.toNat * 256 + cell.toNat)

def row (code : Code) : UInt8 := UInt8.ofNat (code.toNat / 256)

def cell (code : Code) : UInt8 := UInt8.ofNat (code.toNat % 256)

def ofByte (byte : UInt8) : Code := UInt16.ofNat byte.toNat

/-- The position in the right half of an 8-bit table that a 7-bit byte stands for. -/
def ofRight (byte : UInt8) : Code := UInt16.ofNat (byte.toNat % 128 + 128)

/-- The 7-bit byte for a position, whichever half of the table it lies in. -/
def toLeft (code : Code) : UInt8 := UInt8.ofNat (code.toNat % 128)

/-- The single byte that is the code, unless the code needs two. -/
def byte? (code : Code) : Option UInt8 :=
  if code.toNat < 256 then some (UInt8.ofNat code.toNat) else none

@[simp] theorem toNat_pair (row cell : UInt8) :
    (pair row cell).toNat = row.toNat * 256 + cell.toNat := by
  have := row.toNat_lt
  have := cell.toNat_lt
  simp only [pair, UInt16.toNat_ofNat']
  omega

@[simp] theorem toNat_row (code : Code) : (row code).toNat = code.toNat / 256 := by
  have := code.toNat_lt
  simp only [row, UInt8.toNat_ofNat']
  omega

@[simp] theorem toNat_cell (code : Code) : (cell code).toNat = code.toNat % 256 := by
  simp only [cell, UInt8.toNat_ofNat']
  omega

@[simp] theorem cell_pair (r c : UInt8) : cell (pair r c) = c := by
  have := c.toNat_lt
  apply UInt8.toNat.inj
  simp only [toNat_cell, toNat_pair]
  omega

@[simp] theorem pair_row_cell (code : Code) : pair (row code) (cell code) = code := by
  apply UInt16.toNat.inj
  simp only [toNat_pair, toNat_row, toNat_cell]
  omega

@[simp] theorem toNat_ofByte (byte : UInt8) : (ofByte byte).toNat = byte.toNat := by
  have := byte.toNat_lt
  simp only [ofByte, UInt16.toNat_ofNat']
  omega

@[simp] theorem toNat_ofRight (byte : UInt8) : (ofRight byte).toNat = byte.toNat % 128 + 128 := by
  simp only [ofRight, UInt16.toNat_ofNat']
  omega

@[simp] theorem toNat_toLeft (code : Code) : (toLeft code).toNat = code.toNat % 128 := by
  simp only [toLeft, UInt8.toNat_ofNat']
  omega

@[simp] theorem cell_ofByte (byte : UInt8) : cell (ofByte byte) = byte := by
  have := byte.toNat_lt
  apply UInt8.toNat.inj
  simp only [toNat_cell, toNat_ofByte]
  omega

theorem ofByte_cell {code : Code} (single : code.toNat < 256) : ofByte (cell code) = code := by
  apply UInt16.toNat.inj
  rw [toNat_ofByte, toNat_cell]
  omega

theorem ofByte_toLeft {code : Code} (left : code.toNat < 128) : ofByte (toLeft code) = code := by
  apply UInt16.toNat.inj
  rw [toNat_ofByte, toNat_toLeft]
  omega

theorem ofRight_toLeft {code : Code} (right : 128 ≤ code.toNat) (single : code.toNat < 256) :
    ofRight (toLeft code) = code := by
  apply UInt16.toNat.inj
  rw [toNat_ofRight, toNat_toLeft]
  omega

@[simp] theorem byte?_ofByte (byte : UInt8) : byte? (ofByte byte) = some byte := by
  have := byte.toNat_lt
  rw [byte?, toNat_ofByte, if_pos this, UInt8.ofNat_toNat]

theorem ofByte_of_byte? {code : Code} {byte : UInt8} (single : byte? code = some byte) :
    ofByte byte = code := by
  simp only [byte?] at single
  split at single
  · obtain rfl := Option.some.inj single
    apply UInt16.toNat.inj
    simp only [toNat_ofByte, UInt8.toNat_ofNat']
    omega
  · contradiction

end Code

end CodeExtension
