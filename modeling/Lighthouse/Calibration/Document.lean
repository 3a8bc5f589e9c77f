import Lighthouse.Calibration.Record
/-!
# Calibration records as documents

A record's document has the keys `serial`, `fw_version`, `hw_version`, `motors` (two objects
with `phase`, `tilt`, `curve`, `gibbous_phase`, `gibbous_magnitude`), `accel`,
`sys_unlock_count`, `mode_current`, `sys_faults` and `timestamp`. Reading one, every key but
`serial` may be missing and then takes the record's default; a number may be written as the
text `NaN`, `Infinity` or `-Infinity`.
-/
namespace Lighthouse

namespace Motor

def toJson (m : Motor) : Json :=
  .obj [("phase", .float m.phase.toFloat), ("tilt", .float m.tilt.toFloat),
    ("curve", .float m.curve.toFloat), ("gibbous_phase", .float m.gibbousPhase.toFloat),
    ("gibbous_magnitude", .float m.gibbousMagnitude.toFloat)]

/-- A float field of a document, zero when missing. -/
def floatField (j : Json) (k : String) : Bits64 :=
  Bits64.ofFloat (((j.get? k).bind (fun v => v.num? Binary64.ofInt)).getD 0.0)

def ofJson (j : Json) : Motor :=
  ⟨floatField j "phase", floatField j "tilt", floatField j "curve",
    floatField j "gibbous_phase", floatField j "gibbous_magnitude"⟩

end Motor

namespace Calibration

/-- The document of a record. -/
def toJson (r : Calibration) : Json :=
  .obj [("serial", .str r.serial), ("fw_version", .int r.fwVersion),
    ("hw_version", .int r.hwVersion),
    ("motors", .arr [r.motors.1.toJson, r.motors.2.toJson]),
    ("accel", .arr (r.accel.map .int)), ("sys_unlock_count", .int r.sysUnlockCount),
    ("mode_current", .int r.modeCurrent), ("sys_faults", .int r.sysFaults),
    ("timestamp", .int r.timestamp)]

/-- An integer field of a document, zero when missing. -/
def intField (j : Json) (k : String) : Int := ((j.get? k).bind Json.int?).getD 0

/-- A record read from a document. -/
def ofJson (j : Json) : Calibration :=
  let motors := match j.get? "motors" with
    | some (.arr [a, b]) => (Motor.ofJson a, Motor.ofJson b)
    | _ => ({}, {})
  { serial := (j.getD "serial").display
    fwVersion := intField j "fw_version"
    hwVersion := intField j "hw_version"
    motors
    accel := match j.get? "accel" with
      | some (.arr xs) => xs.map fun x => x.int?.getD 0
      | _ => [0, 0, 0]
    sysUnlockCount := intField j "sys_unlock_count"
    modeCurrent := intField j "mode_current"
    sysFaults := intField j "sys_faults"
    timestamp := intField j "timestamp" }

end Calibration

end Lighthouse
