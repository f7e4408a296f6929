/-! The Roman set of JIS X 0201: ASCII with the yen sign and the overline in the places of the
reverse solidus and the tilde. -/
namespace CodeExtension.Roman

def encode (scalar : Char) : Option UInt8 :=
  if scalar = '\u00A5' then some 0x5C
  else if scalar = '\u203E' then some 0x7E
  else if scalar = '\\' ∨ scalar = '~' then none
  else if scalar.toNat < 0x80 then some (UInt8.ofNat scalar.toNat)
  else none

def decode (byte : UInt8) : Option Char :=
  if byte = 0x5C then some '\u00A5'
  else if byte = 0x7E then some '\u203E'
  else if byte < 0x80 then some (Char.ofNat byte.toNat)
  else none

end CodeExtension.Roman
