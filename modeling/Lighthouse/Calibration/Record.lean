import Lighthouse.Half
import Lighthouse.Fault
import Lighthouse.Json.Coerce
/-!
# Lighthouse calibration records

A lighthouse broadcasts a fixed-layout payload of at least 33 bytes: firmware version, serial
number, two rotors' sweep corrections as binary16 numbers, accelerometer readings and status
bytes. `Calibration.ofPayload` reads one, `Calibration.toPayload` writes the 33-byte form.

Writing keeps the low byte of every one-byte field and rounds each correction to binary16, so
reading back what was written gives the record with those reductions applied; the version and
the serial must fit in two and four unsigned bytes, and the serial must be an integer text.
-/
namespace Lighthouse

/-- Sweep corrections of one rotor. -/
structure Motor where
  phase : Bits64 := .zero
  tilt : Bits64 := .zero
  curve : Bits64 := .zero
  gibbousPhase : Bits64 := .zero
  gibbousMagnitude : Bits64 := .zero
  deriving Inhabited

/-- The calibration record of a lighthouse. -/
structure Calibration where
  serial : String
  fwVersion : Int := 0
  hwVersion : Int := 0
  motors : Motor × Motor := ({}, {})
  accel : List Int := [0, 0, 0]
  sysUnlockCount : Int := 0
  modeCurrent : Int := 0
  sysFaults : Int := 0
  /-- Timecode of the sync flash that completed the frame. -/
  timestamp : Int := 0
  deriving Inhabited

def Calibration.ofSerial (serial : String) : Calibration := { serial }

/-- Why a payload cannot be read. -/
inductive PayloadError where
  | tooShort (n : Nat)

/-- Why a record cannot be written as a payload. -/
inductive EncodeError where
  /-- A negative number in an unsigned field. -/
  | negative
  /-- A number too large for its unsigned field. -/
  | tooBig
  /-- A serial that is no integer text. -/
  | notInteger (text : String)
  /-- A serial whose numeral has more digits than may be read. -/
  | tooManyDigits (digits : Nat)
  /-- An accelerometer reading past the end of the payload. -/
  | outOfRange

/-- The least payload length. -/
def payloadLength : Nat := 33

namespace PayloadError

def toFault : PayloadError → Fault
  | .tooShort n => Fault.value s!"OOTX payload too short: {n} < {payloadLength} bytes"

end PayloadError

namespace EncodeError

/-- The fault of an encoding error. -/
def toFault : EncodeError → Fault
  | .negative => Fault.overflow "can't convert negative int to unsigned"
  | .tooBig => Fault.overflow "int too big to convert"
  | .notInteger t => Fault.value (Text.invalidLiteralMessage t)
  | .tooManyDigits n => Fault.value (Text.tooManyDigitsMessage n)
  | .outOfRange => Fault.index "bytearray index out of range"

end EncodeError

namespace Payload

/-- The byte at an offset (zero past the end). -/
def byte (data : List UInt8) (i : Nat) : Nat := (data.getD i 0).toNat

/-- A little-endian unsigned number of `n` bytes at an offset. -/
def unsigned (data : List UInt8) (off : Nat) : Nat → Nat
  | 0 => 0
  | n + 1 => byte data off + 256 * unsigned data (off + 1) n

def signed (data : List UInt8) (i : Nat) : Int :=
  let b := byte data i
  if b ≥ 128 then (b : Int) - 256 else b

def half (data : List UInt8) (i : Nat) : Bits64 := ⟨Half.widen (unsigned data i 2)⟩

/-- The binary16 number at an offset of a buffer, as a float. The offset must lie within the
buffer and leave two bytes after it. -/
def halfAt (data : List UInt8) (offset : Int) : Outcome Float :=
  if offset < 0 ∨ offset > data.length then
    .error (Fault.value
      s!"offset must be non-negative and no greater than buffer length ({data.length})")
  else if data.length - offset.toNat < 2 then
    .error (Fault.value "buffer is smaller than requested size")
  else .ok (Half.toFloat (unsigned data offset.toNat 2))

/-- The little-endian bytes of an unsigned number in `n` bytes. -/
def bytesOf (v : Int) (n : Nat) : Except EncodeError (List UInt8) :=
  if v < 0 then .error .negative
  else if v ≥ Nat.pow 256 n then .error .tooBig
  else .ok ((List.range n).map fun k => (v.toNat / Nat.pow 256 k % 256).toUInt8)

def lowByte (v : Int) : UInt8 := (v % 256).toNat.toUInt8

def put (buf : List UInt8) (off : Nat) (bs : List UInt8) : List UInt8 :=
  bs.zipIdx.foldl (fun acc p => acc.set (off + p.2) p.1) buf

end Payload

namespace Calibration

open Payload

/-- The corrections of a rotor read at its five offsets. -/
def motorAt (data : List UInt8) (phase tilt curve gphase gmag : Nat) : Motor :=
  ⟨half data phase, half data tilt, half data curve, half data gphase, half data gmag⟩

/-- Reads a record from a payload, stamped with a timecode. -/
def ofPayload (data : List UInt8) (timestamp : Int) : Except PayloadError Calibration :=
  if data.length < payloadLength then .error (.tooShort data.length)
  else .ok {
    serial := toString (unsigned data 0x02 4)
    fwVersion := unsigned data 0x00 2
    hwVersion := byte data 0x0F
    motors := (motorAt data 0x06 0x0A 0x10 0x17 0x1B, motorAt data 0x08 0x0C 0x12 0x19 0x1D)
    accel := [signed data 0x14, signed data 0x15, signed data 0x16]
    sysUnlockCount := byte data 0x0E
    modeCurrent := signed data 0x1F
    sysFaults := signed data 0x20
    timestamp }

/-- The offsets of the ten binary16 fields with the values a record puts there. -/
def halfFields (r : Calibration) : List (Nat × Bits64) :=
  let m0 := r.motors.1
  let m1 := r.motors.2
  [(0x06, m0.phase), (0x08, m1.phase), (0x0A, m0.tilt), (0x0C, m1.tilt),
   (0x10, m0.curve), (0x12, m1.curve), (0x17, m0.gibbousPhase), (0x19, m1.gibbousPhase),
   (0x1B, m0.gibbousMagnitude), (0x1D, m1.gibbousMagnitude)]

/-- Writes the 33-byte payload of a record. The version is checked before the serial. -/
def toPayload (r : Calibration) : Except EncodeError (List UInt8) := do
  let fw ← bytesOf r.fwVersion 2
  let serial ← match Text.readInteger r.serial with
    | .value n => pure n
    | .invalid => .error (.notInteger r.serial)
    | .tooLong n => .error (.tooManyDigits n)
  let serialBytes ← bytesOf serial 4
  let buf := List.replicate payloadLength (0 : UInt8)
  let buf := put buf 0x00 fw
  let buf := put buf 0x02 serialBytes
  let buf := r.halfFields.foldl (fun acc p => put acc p.1 (Half.bytesOf (Half.narrow p.2.bits))) buf
  let buf := buf.set 0x0E (lowByte r.sysUnlockCount)
  let buf := buf.set 0x0F (lowByte r.hwVersion)
  if 0x14 + r.accel.length > payloadLength then .error .outOfRange
  let buf := put buf 0x14 (r.accel.map lowByte)
  let buf := buf.set 0x1F (lowByte r.modeCurrent)
  pure (buf.set 0x20 (lowByte r.sysFaults))

/-- The rotor corrections as rows `phase, tilt, curve, gibbous phase, gibbous magnitude`. -/
def params (r : Calibration) : List (List Float) :=
  [r.motors.1, r.motors.2].map fun m =>
    [m.phase.toFloat, m.tilt.toFloat, m.curve.toFloat, m.gibbousPhase.toFloat,
      m.gibbousMagnitude.toFloat]

end Calibration

end Lighthouse
