/-!
# Checksums

The cyclic checksum of 32 bits that archives keep of every entry, taken bit by bit with the least
significant bit first.
-/

namespace FeatLoom.Checksum

def divisor : UInt32 := 0xEDB88320

def step (remainder : UInt32) : UInt32 :=
  if remainder &&& 1 == 1 then (remainder >>> 1) ^^^ divisor else remainder >>> 1

def addByte (remainder : UInt32) (byte : UInt8) : UInt32 :=
  Nat.repeat step 8 (remainder ^^^ byte.toUInt32)

def ofBytes (bytes : ByteArray) : UInt32 :=
  bytes.foldl addByte 0xFFFFFFFF ^^^ 0xFFFFFFFF

example : ofBytes ByteArray.empty = 0 := by decide +kernel
example : ofBytes ⟨#[0x31, 0x32, 0x33]⟩ = 0x884863D2 := by decide +kernel

end FeatLoom.Checksum
