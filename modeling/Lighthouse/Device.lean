import Lighthouse.Receiver
import Lighthouse.Calibration.Table
import Lighthouse.Light
/-!
# Tracker devices

A device runs one tracker's `Receiver` against the lighthouse `Table` that all trackers share.
A record decoded in a slot is stored in the table; when the table takes it, the slot's
lighthouse becomes the stored record and the device reports it. A sweep report becomes a
`Light`: tick offsets turn into angles and lengths into seconds.
-/
namespace Lighthouse

/-- What a device tells its owner while taking a pulse: a light, or a record stored in the table
from one of its decoder slots. -/
inductive DeviceEvent where
  | light (l : Light)
  | lighthouse (slot : Nat) (r : Calibration)

/-- One tracker's receiver and counters. -/
structure Device where
  serial : String
  receiver : Receiver
  processed : Nat := 0
  lightsEmitted : Nat := 0
  deriving Inhabited

namespace Device

/-- A device with `numSlots` fresh decoder slots. -/
def create (serial : String) (numSensors numSlots : Int) : Device :=
  { serial, receiver := Receiver.create (List.replicate numSlots.toNat {}) numSensors }

def lightOf (serial : String) (t : SweepTicks) : Light :=
  { tracker := serial, lighthouse := t.lighthouse.serial, axis := t.axis, syncTime := t.syncTime
    pulses := ((t.sensors.zip t.angles).zip (t.lengths.zip t.sweepTimes)).map fun p =>
      { sensor := p.1.1, angle := Ticks.angleOfInt p.1.2, duration := Ticks.secondsOfInt p.2.1,
        timestamp := p.2.2 } }

/-- One pulse's course through a device: the events it raised in order, each with the device
and table as they stood when it was raised, then the device and table once the pulse is taken,
or as far as it got when `failure` is set. -/
structure Course where
  events : List (Device × Table × DeviceEvent) := []
  device : Device
  table : Table
  failure : Option Fault := none

/-- Takes one pulse with the shared table. A light goes out with the device as it stands when
the sweep is reported; a record stored in the table makes its slot's lighthouse the stored one
before it is reported. -/
def step (d : Device) (table : Table) (timecode sensor length : Int) : Course :=
  let d := { d with processed := d.processed + 1 }
  let p := d.receiver.step timecode sensor length
  let (d, events) := match p.report with
    | some (rx, t) =>
      let d := { d with receiver := rx, lightsEmitted := d.lightsEmitted + 1 }
      (d, [(d, table, DeviceEvent.light (lightOf d.serial t))])
    | none => (d, [])
  let d := { d with receiver := p.final }
  match p.failure, p.record with
  | some f, _ => { events, device := d, table, failure := some f }
  | none, some (slot, rec) =>
    match table.update rec with
    | (table, some stored) =>
      let d := { d with receiver := d.receiver.identify slot stored }
      { events := events ++ [(d, table, DeviceEvent.lighthouse slot stored)], device := d, table }
    | (table, none) => { events, device := d, table }
  | none, none => { events, device := d, table }

def packetsDecoded (d : Device) : Nat :=
  (d.receiver.channels.map (·.decoder.packetsDecoded)).foldl (· + ·) 0

def crcFailures (d : Device) : Nat :=
  (d.receiver.channels.map (·.decoder.crcFailures)).foldl (· + ·) 0

def stats (d : Device) : Json :=
  .obj [("serial", .str d.serial), ("pulses_processed", .int d.processed),
    ("pulses_dropped", .int d.receiver.dropped), ("lights_emitted", .int d.lightsEmitted),
    ("packets_decoded", .int d.packetsDecoded), ("crc_failures", .int d.crcFailures),
    ("acode_offset", .float d.receiver.acodeOffset)]

end Device

end Lighthouse
