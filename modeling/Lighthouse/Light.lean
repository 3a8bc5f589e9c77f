import Lighthouse.Json.Dynamic
/-!
# Lights

A `Light` is what one tracker saw of one lighthouse sweep: for every sensor hit, its sweep
angle in radians, the pulse duration in seconds and the timecode of the hit. Its document has
the keys `tracker`, `lighthouse`, `axis`, `sync_time` and `pulses`; reading one converts each
field leniently (`Json.toInt`, `Json.toFloat`, `Json.display`), `sync_time` and a pulse's
`timestamp` default to zero and `pulses` to none. A missing required key is a key fault, and a
value that is no object has no keys to look in (`Json.require`).
-/
namespace Lighthouse

/-- One sensor hit within a sweep. -/
structure Pulse where
  sensor : Int
  /-- Sweep angle, radians. -/
  angle : Float
  /-- Pulse duration, seconds. -/
  duration : Float
  /-- Timecode of the hit. -/
  timestamp : Int := 0
  deriving Inhabited

/-- All hits of one tracker during one lighthouse sweep. -/
structure Light where
  tracker : String
  lighthouse : String
  axis : Int
  /-- Timecode of the sync flash. -/
  syncTime : Int
  pulses : List Pulse := []
  deriving Inhabited

namespace Pulse

def toJson (p : Pulse) : Json :=
  .obj [("sensor", .int p.sensor), ("angle", .float p.angle), ("duration", .float p.duration),
    ("timestamp", .int p.timestamp)]

def ofJson (j : Json) : Outcome Pulse := do
  let sensor ← (← j.require "sensor").toInt
  let angle ← (← j.require "angle").toFloat
  let duration ← (← j.require "duration").toFloat
  let timestamp ← ((j.get? "timestamp").getD (.int 0)).toInt
  pure { sensor, angle, duration, timestamp }

end Pulse

namespace Light

def toJson (l : Light) : Json :=
  .obj [("tracker", .str l.tracker), ("lighthouse", .str l.lighthouse), ("axis", .int l.axis),
    ("sync_time", .int l.syncTime), ("pulses", .arr (l.pulses.map Pulse.toJson))]

/-- A light read from a document. -/
def ofJson (j : Json) : Outcome Light := do
  let tracker := (← j.require "tracker").display
  let lighthouse := (← j.require "lighthouse").display
  let axis ← (← j.require "axis").toInt
  let syncTime ← ((j.get? "sync_time").getD (.int 0)).toInt
  let pulses ← (← ((j.get? "pulses").getD (.arr [])).iterate).mapM Pulse.ofJson
  pure { tracker, lighthouse, axis, syncTime, pulses }

end Light

end Lighthouse
