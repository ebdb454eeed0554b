namespace Crc32

/-!
# CRC-32 with the reflected polynomial 0xEDB88320

One octet at a time, one bit at a time, without a table.
-/

/-- Shift one bit out of the register. -/
def shift (register : UInt32) : UInt32 :=
  if register &&& 1 = 1 then (register >>> 1) ^^^ 0xEDB88320 else register >>> 1

def update (register : UInt32) (octet : UInt8) : UInt32 :=
  Nat.repeat shift 8 (register ^^^ octet.toUInt32)

def crc32 (data : List UInt8) : UInt32 := data.foldl update 0xFFFFFFFF ^^^ 0xFFFFFFFF

example : crc32 [49, 50, 51, 52, 53, 54, 55, 56, 57] = 0xCBF43926 := by decide +kernel

end Crc32
