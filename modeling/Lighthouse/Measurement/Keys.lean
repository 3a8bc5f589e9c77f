import Lighthouse.Measurement
import Lighthouse.Order.RunSort
/-!
# Bundles keyed by document values

A light document may hold any value in its `tracker`, `lighthouse` and `axis` fields and in a
pulse's `sensor`, and a bundle built straight from such documents keys its levels by those
values as they are: trackers, then lighthouses, time bins, sensors and axes, each level a
mapping in the order its keys first came. Two values are one key when `Json.sameKey` says so
(`1`, `1.0` and `true` are one key), and a level keeps the key value that opened it. Lists and
objects cannot be keys (`Json.asKey`). A measurement opens its tracker, lighthouse and bin even
when it has no pulses.

Listing a bundle walks it level by level, each level's keys sorted by the list sort
(`RunSort.sort`) under `Json.lessThan`. Keys that cannot be ordered against each other fail at
the first comparison between them, and the walk stops at the first level that fails.
-/
namespace Lighthouse

/-- One hit of a light document: its sensor and angle as given. -/
structure KeyedPulse where
  sensor : Json
  angle : Json
  deriving Inhabited

/-- A light document with its keys as given. -/
structure KeyedLight where
  tracker : Json
  lighthouse : Json
  axis : Json
  pulses : List KeyedPulse := []
  deriving Inhabited

/-- A light document read without converting its fields. The keys `tracker`, `lighthouse` and
`axis`, and a pulse's `sensor`, `angle` and `duration`, are required. -/
def KeyedLight.ofJson (j : Json) : Outcome KeyedLight := do
  let tracker ← j.require "tracker"
  let lighthouse ← j.require "lighthouse"
  let axis ← j.require "axis"
  let pulses ← (← ((j.get? "pulses").getD (.arr [])).iterate).mapM fun p => do
    let sensor ← p.require "sensor"
    let angle ← p.require "angle"
    let _ ← p.require "duration"
    pure { sensor, angle : KeyedPulse }
  pure { tracker, lighthouse, axis, pulses }

/-- A level of a bundle: keys in the order they came, each with what lies below it. -/
abbrev KeyedLevel (κ β : Type) := List (κ × β)

/-- Angles grouped by tracker, lighthouse, time bin, sensor and axis. -/
abbrev KeyedBundle :=
  KeyedLevel Json (KeyedLevel Json
    (KeyedLevel Float (KeyedLevel Json (KeyedLevel Json (List Json)))))

/-- One listed group: its five keys and its angles in arrival order. -/
structure KeyedRow where
  tracker : Json
  lighthouse : Json
  bin : Float
  sensor : Json
  axis : Json
  angles : List Json
  deriving Inhabited

namespace KeyedLevel

variable {κ β : Type}

/-- The level with the entry of key `k` changed by `f`; an absent key is opened with `empty`
at the end. A present key keeps its own value. -/
def update (same : κ → κ → Bool) (xs : KeyedLevel κ β) (k : κ) (empty : β) (f : β → β) :
    KeyedLevel κ β :=
  if xs.any (same ·.1 k) then xs.map fun p => if same p.1 k then (p.1, f p.2) else p
  else xs ++ [(k, f empty)]

/-- The entries of a level with their keys sorted by `lt`. -/
def sorted (lt : κ → κ → Outcome Bool) (xs : KeyedLevel κ β) : Outcome (KeyedLevel κ β) :=
  RunSort.sort (fun a b => lt a.1 b.1) xs

end KeyedLevel

namespace KeyedBundle

/-- Files a light's angles at time bin `bin` of its tracker and lighthouse. Each key is checked
as it is reached: tracker, lighthouse, then sensor and axis pulse by pulse. -/
def add (b : KeyedBundle) (bin : Float) (l : KeyedLight) : Outcome KeyedBundle := do
  let tracker ← l.tracker.asKey
  let lighthouse ← l.lighthouse.asKey
  let hits ← l.pulses.mapM fun p => do pure (← p.sensor.asKey, ← l.axis.asKey, p.angle)
  let file := fun (sensors : KeyedLevel Json (KeyedLevel Json (List Json))) =>
    hits.foldl (fun sensors (s, axis, angle) =>
      sensors.update Json.sameKey s [] fun axes =>
        axes.update Json.sameKey axis [] fun angles => angles ++ [angle]) sensors
  pure (b.update Json.sameKey tracker [] fun lighthouses =>
    lighthouses.update Json.sameKey lighthouse [] fun bins =>
      bins.update (· == ·) bin [] file)

/-- Groups timed light documents; a resolution at or below zero is refused (NaN passes, and fails
when a time is binned). -/
def ofLights (ms : List (Float × KeyedLight)) (res : Float) : Outcome KeyedBundle :=
  if res ≤ 0.0 then
    .error (Fault.value s!"resolution must be positive, got {Json.floatShown res}")
  else
    ms.foldlM (fun b (time, l) => do b.add (← timeBin time res) l) []

/-- The groups of a bundle, walked with every level's keys in order. -/
def rows (b : KeyedBundle) : Outcome (List KeyedRow) := do
  let floatLt := fun (x y : Float) => (pure (x < y) : Outcome Bool)
  (← KeyedLevel.sorted Json.lessThan b).foldlM (fun acc (tracker, lighthouses) => do
    (← KeyedLevel.sorted Json.lessThan lighthouses).foldlM (fun acc (lighthouse, bins) => do
      (← KeyedLevel.sorted floatLt bins).foldlM (fun acc (bin, sensors) => do
        (← KeyedLevel.sorted Json.lessThan sensors).foldlM (fun acc (sensor, axes) => do
          pure (acc ++ (← KeyedLevel.sorted Json.lessThan axes).map fun (axis, angles) =>
            { tracker, lighthouse, bin, sensor, axis, angles })) acc) acc) acc) []

end KeyedBundle

end Lighthouse
