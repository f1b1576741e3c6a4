/-
  The two cyclic redundancy checks in use, both of 32 bits and bit-reflected.

  `Checksum.transfer` is CRC-32 over the payload of a multipart transfer; `Checksum.dictionary` is
  CRC-32C over the content of a dictionary file.  They differ in their polynomial only: both start
  from all ones, take the bytes lowest bit first and complement the result.
-/
import DeviceEnablement.Wire.Bytes

namespace DeviceEnablement.Checksum

/-- The reflected polynomial of CRC-32. -/
def crc32 : UInt32 := 0xEDB88320

/-- The reflected polynomial of CRC-32C. -/
def crc32c : UInt32 := 0x82F63B78

/-- Shifts one bit out of the register; a one that is shifted out adds the polynomial. -/
def shiftBit (polynomial register : UInt32) : UInt32 :=
  if register &&& 1 = 1 then (register >>> 1) ^^^ polynomial else register >>> 1

/-- Shifts `count` bits out of the register. -/
def shiftBits (polynomial : UInt32) : Nat → UInt32 → UInt32
  | 0, register => register
  | count + 1, register => shiftBits polynomial count (shiftBit polynomial register)

/-- Takes one byte into the register. -/
def step (polynomial register : UInt32) (byte : UInt8) : UInt32 :=
  shiftBits polynomial 8 (register ^^^ byte.toUInt32)

/-- The register after all bytes. -/
def update (polynomial register : UInt32) (bytes : Bytes) : UInt32 :=
  bytes.foldl (step polynomial) register

/-- The check of a byte string. -/
def of (polynomial : UInt32) (bytes : Bytes) : UInt32 :=
  update polynomial 0xFFFFFFFF bytes ^^^ 0xFFFFFFFF

/-- The check over the payload of a transfer. -/
def transfer (payload : Bytes) : UInt32 := of crc32 payload

/-- The check over the content of a dictionary file. -/
def dictionary (content : Bytes) : UInt32 := of crc32c content

example : transfer [0x31, 0x32, 0x33, 0x34, 0x35, 0x36, 0x37, 0x38, 0x39] = 0xCBF43926 := by
  decide +kernel

example : dictionary [0x31, 0x32, 0x33, 0x34, 0x35, 0x36, 0x37, 0x38, 0x39] = 0xE3069283 := by
  decide +kernel

end DeviceEnablement.Checksum
