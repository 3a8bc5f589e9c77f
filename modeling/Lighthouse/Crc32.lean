/-!
# CRC-32

The checksum of a calibration frame: the reflected polynomial `0xEDB88320`, a register that
starts at all ones and is inverted at the end, one bit at a time.
-/
namespace Lighthouse.Crc32

def stepBit (c : UInt32) : UInt32 :=
  if c &&& 1 = 1 then (c >>> 1) ^^^ 0xEDB88320 else c >>> 1

def stepByte (c : UInt32) (b : UInt8) : UInt32 :=
  let c := c ^^^ b.toUInt32
  stepBit (stepBit (stepBit (stepBit (stepBit (stepBit (stepBit (stepBit c)))))))

def checksum (bytes : List UInt8) : UInt32 :=
  (bytes.foldl stepByte 0xFFFFFFFF) ^^^ 0xFFFFFFFF

end Lighthouse.Crc32
