import Lighthouse.Ootx.Frame
/-!
# Receiving OOTX frames bit by bit

`Decoder.feed` takes one bit at a time. It counts the zeros before each bit; a one after at
least `preambleLength` zeros starts a frame wherever the decoder was. A frame is then read as
its length word, the padded payload and the checksum, every seventeenth bit being a sync bit
that carries nothing. A length of zero or above the largest packet rejects the frame. At the
frame's last bit the payload is checked against its CRC-32 and, when it matches and is long
enough, read as a calibration record stamped with that bit's timecode.
-/
namespace Lighthouse.Ootx

/-- Where a decoder is within a frame. -/
inductive Phase where
  | preamble
  | length
  | payload
  | checksum
  deriving DecidableEq, Repr, Inhabited

def Phase.name : Phase → String
  | .preamble => "preamble"
  | .length => "length"
  | .payload => "payload"
  | .checksum => "checksum"

/-- Bits of a word before its sync bit. -/
def wordLength : Nat := 16

def swap16 (v : Int) : Int := ((v * 256) % 65536) + ((v / 256) % 256)

/-- The four bytes of a 32-bit word reversed; higher bits are dropped first. -/
def swap32 (v : Int) : Int :=
  let w := (v % Nat.pow 2 32).toNat
  ((w % 256) * Nat.pow 2 24 + (w / 256 % 256) * Nat.pow 2 16 + (w / Nat.pow 2 16 % 256) * 256 + w / Nat.pow 2 24 : Nat)

/-- A frame receiver: the phase, the counters within the frame and the statistics. -/
structure Decoder where
  /-- The largest padded payload accepted. -/
  maxPacket : Nat
  /-- Zeros needed before a one starts a frame. -/
  preambleLength : Int
  phase : Phase := .preamble
  /-- Zeros seen since the last one. -/
  zeros : Nat := 0
  length : Nat := 0
  pad : Nat := 0
  /-- Payload bytes completed in this frame, in order. -/
  bytes : List UInt8 := []
  /-- The payload byte being filled. -/
  pending : Nat := 0
  /-- Bytes completed in the current part of the frame. -/
  pos : Nat := 0
  /-- Bits read of the current word. -/
  syn : Nat := 0
  /-- The checksum bits read so far. -/
  crc : Nat := 0
  packetsDecoded : Nat := 0
  crcFailures : Nat := 0
  oversized : Nat := 0
  deriving Inhabited

namespace Decoder

/-- A fresh decoder with the given largest packet and preamble; a negative packet length is
refused. -/
def create (maxPacket : Int) (preambleLength : Int) : Except Fault Decoder :=
  if maxPacket < 0 then .error (Fault.value "negative count")
  else .ok { maxPacket := maxPacket.toNat, preambleLength }

/-- A fresh decoder with the standard preamble and packet limit. -/
def standard : Decoder :=
  { maxPacket := Ootx.maxPacketLength, preambleLength := (Ootx.preambleLength : Int) }

/-- Back to waiting for a preamble, keeping the statistics. -/
def reset (d : Decoder) : Decoder :=
  { d with phase := .preamble, zeros := 0, length := 0, pad := 0, pos := 0, syn := 0, crc := 0 }

/-- One bit of the length word, or at its sync bit the decision on the frame. -/
def onLength (d : Decoder) (bit : Bool) : Decoder :=
  if d.syn = wordLength then
    let len := (swap16 d.length).toNat
    let pad := len % 2
    if 0 < len + pad ∧ len + pad ≤ d.maxPacket then
      { d with length := len, pad, phase := .payload, syn := 0, pos := 0, bytes := [],
               pending := 0 }
    else { d with length := len, pad, phase := .preamble, oversized := d.oversized + 1 }
  else
    { d with length := d.length ||| ((if bit then 1 else 0) <<< (wordLength - 1 - d.syn)),
             syn := d.syn + 1 }

/-- One bit of the payload. -/
def onPayload (d : Decoder) (bit : Bool) : Decoder :=
  let d := if d.syn = 8 ∨ d.syn = wordLength then
      { d with pos := d.pos + 1, bytes := d.bytes ++ [d.pending.toUInt8], pending := 0 }
    else d
  if (d.syn = 8 ∨ d.syn = wordLength) ∧ d.pos = d.length + d.pad then
    { d with phase := .checksum, syn := 0, pos := 0, crc := 0 }
  else if d.syn = wordLength then { d with syn := 0 }
  else
    { d with pending := d.pending ||| ((if bit then 1 else 0) <<< (7 - d.syn % 8)),
             syn := d.syn + 1 }

/-- The end of a frame: the payload checked against the received checksum and read. -/
def finish (d : Decoder) (timecode : Int) : Decoder × Option Calibration :=
  let payload := d.bytes.take d.length
  if (Crc32.checksum payload).toNat ≠ (swap32 d.crc).toNat then
    ({ d with crcFailures := d.crcFailures + 1 }, none)
  else
    match Calibration.ofPayload payload timecode with
    | .error _ => (d, none)
    | .ok r => ({ d with packetsDecoded := d.packetsDecoded + 1 }, some r)

/-- One bit of the checksum, or at the frame's last bit its end. -/
def onChecksum (d : Decoder) (bit : Bool) (timecode : Int) : Decoder × Option Calibration :=
  let d := if d.syn = 8 ∨ d.syn = wordLength then { d with pos := d.pos + 1 } else d
  if (d.syn = 8 ∨ d.syn = wordLength) ∧ d.pos = 4 then
    let (d, r) := d.finish timecode
    ({ d with phase := .preamble, pos := 0, syn := 0, zeros := 0, length := 0 }, r)
  else if d.syn = wordLength then ({ d with syn := 0 }, none)
  else
    ({ d with crc := d.crc ||| ((if bit then 1 else 0) <<< (31 - (d.pos * 8 + d.syn % 8))),
              syn := d.syn + 1 }, none)

/-- Takes one bit with its sync flash's timecode; gives the record completed by it, if any. -/
def feed (d : Decoder) (bit : Bool) (timecode : Int) : Decoder × Option Calibration :=
  if bit ∧ (d.zeros : Int) ≥ d.preambleLength then
    ({ d with phase := .length, length := 0, pos := 0, syn := 0, zeros := 0 }, none)
  else
    let d := if bit then { d with zeros := 0 } else { d with zeros := d.zeros + 1 }
    match d.phase with
    | .preamble => (d, none)
    | .length => (d.onLength bit, none)
    | .payload => (d.onPayload bit, none)
    | .checksum => d.onChecksum bit timecode

end Decoder

end Lighthouse.Ootx
