import Lighthouse.Calibration.Record
import Lighthouse.Crc32
/-!
# OOTX frames

A lighthouse sends its calibration one bit per sync flash. A frame is a preamble of seventeen
zeros and a one, then sixteen-bit words, each followed by a sync bit of one: the payload
length (two bytes, little endian), the payload padded with a zero byte to an even length, and
the CRC-32 of the unpadded payload (four bytes, little endian). Inside a word the bytes go in
order and the bits of a byte most significant first.
-/
namespace Lighthouse.Ootx

/-- Zero bits that open a frame. -/
def preambleLength : Nat := 17

/-- The largest padded payload a receiver takes. -/
def maxPacketLength : Nat := 64

def byteBits (b : UInt8) : List Bool :=
  (List.range 8).reverse.map fun k => (b.toNat >>> k) % 2 = 1

/-- Bytes in words of two, each word's sixteen bits followed by a sync bit. -/
def wordBits : List UInt8 → List Bool
  | a :: b :: rest => byteBits a ++ byteBits b ++ [true] ++ wordBits rest
  | [a] => byteBits a ++ [true]
  | [] => []

def checksumBytes (c : UInt32) : List UInt8 :=
  [c.toUInt8, (c >>> 8).toUInt8, (c >>> 16).toUInt8, (c >>> 24).toUInt8]

/-- The bytes a frame carries after its preamble: length, padded payload, checksum. -/
def frameBytes (payload : List UInt8) : List UInt8 :=
  let n := payload.length
  [(n % 256).toUInt8, (n / 256 % 256).toUInt8] ++ payload ++ List.replicate (n % 2) 0 ++
    checksumBytes (Crc32.checksum payload)

/-- The bits of the frame of a payload; the length must fit in two bytes. -/
def frameBits (payload : List UInt8) : Except EncodeError (List Bool) :=
  if payload.length ≥ Nat.pow 2 16 then .error .tooBig
  else .ok (List.replicate preambleLength false ++ [true] ++ wordBits (frameBytes payload))

end Lighthouse.Ootx
