import Lighthouse.Geometry.Sweep
import Lighthouse.Calibration.Record
import Lighthouse.Ootx.Frame
import Lighthouse.Ticks
import Lighthouse.Fault
import Lighthouse.Receiver
/-!
# Synthetic pulse trains

A simulated tracker produces the raw `(timecode, sensor, length)` pulses that a real tracker
would report for lighthouses at known poses, including the calibration stream that the sync
flashes carry one bit at a time, so that the whole processing chain can run without hardware.

Cycles follow a fixed schedule of `400000` ticks each. Every cycle each lighthouse flashes in
slot order, `19200` ticks apart, and one of them sweeps: lighthouse `k` sweeps axis 0 in cycle
`2k` and axis 1 in cycle `2k + 1`, modulo twice the number of lighthouses; every other flash
carries the skip bit. The length of a flash encodes its sync code (`syncLength`). A sensor is
hit when its sweep angle is within sixty degrees of the lighthouse's axis, at the tick of that
angle rounded to the nearest integer, a half to even, counted from the start of the sweeping
lighthouse's slot (from the end of its flash for the first slot). The angles come from a
`View`, the geometry of one tracker pose; a capture takes the view of each pose it is given.
-/
namespace Lighthouse

/-- The ticks of one cycle. -/
def cycleTicks : Int := 400000

/-- The ticks between the flashes of consecutive slots. -/
def slotSpacing : Int := 19200

/-- One simulated pulse: its time in seconds, timecode, sensor and length in ticks. -/
structure SimPulse where
  time : Float
  timecode : Int
  sensor : Int
  length : Int
  deriving Inhabited

/-- A simulated lighthouse: its calibration record, its pose in the outer frame, and the bits of
the frame that carries its record. -/
structure SimLighthouse where
  record : Calibration
  transform : Transform
  bits : List Bool

instance : Inhabited SimLighthouse := ⟨⟨Calibration.ofSerial "", Transform.identity, []⟩⟩

/-- A simulated lighthouse broadcasting its record. -/
def SimLighthouse.create (record : Calibration) (transform : Transform) :
    Outcome SimLighthouse := do
  let payload ← match record.toPayload with
    | .ok p => pure p
    | .error e => .error e.toFault
  let bits ← match Ootx.frameBits payload with
    | .ok b => pure b
    | .error e => .error e.toFault
  pure { record, transform, bits }

def SimLighthouse.bit (lh : SimLighthouse) (cycle : Nat) : Bool :=
  lh.bits.getD (cycle % lh.bits.length) false

/-- The sweep angles at which a lighthouse at a pose sees a sensor of the tracker, given in the
tracker's frame: the geometry of one tracker pose. -/
abbrev View := Transform → Vec3 → Float × Float

/-- The view of a tracker at pose `vTt`: each sensor carried into the outer frame and seen from the
lighthouse. -/
def View.ofPose (vTt : Transform) : View := fun vTl s => sweepAngles vTl (vTt.applyTo s)

/-- A simulated tracker: its serial, sensor positions, the lighthouses it sees, where its clock
starts, the length of a sweep hit and the next cycle. -/
structure SimTracker where
  serial : String
  sensors : List Vec3
  lighthouses : List SimLighthouse
  startTimecode : Int := 1000000
  startTime : Float := 0.0
  sweepLength : Int := 200
  cycle : Nat := 0

namespace SimTracker

/-- Cycles per second of the schedule. -/
def cyclesPerSecond : Float := 48000000.0 / 400000.0

def syncCode (st : SimTracker) (lh : SimLighthouse) (slot sweeper : Nat) (sweep : Bool) : Int :=
  let acode : Int := (st.cycle % 2 : Nat)
  let acode := if lh.bit st.cycle then acode + 2 else acode
  if slot != sweeper || !sweep then acode + 4 else acode

/-- The tick of a sweep angle, rounded to the nearest integer. -/
def angleTicks (angle : Float) : Outcome Int :=
  let t := Ticks.ofAngle angle
  if t.isNaN then .error (Fault.value "cannot convert float NaN to integer")
  else if t.isInf then .error (Fault.overflow "cannot convert float infinity to integer")
  else .ok (Binary64.roundHalfEven t)

/-- The pulses of the next cycle with the tracker seen through `view`, and the tracker advanced by
one cycle. -/
def cyclePulses (st : SimTracker) (view : View) (sweep : Bool) :
    Outcome (SimTracker × List SimPulse) := do
  let n := st.lighthouses.length
  if n = 0 then .error ⟨.zeroDivision, "integer modulo by zero"⟩
  let sweeper := st.cycle / 2 % n
  let axis := st.cycle % 2
  let base : Int := st.cycle * cycleTicks
  let slots := st.lighthouses.zipIdx
  let flashes := slots.map fun (lh, slot) =>
    let length := syncLength (st.syncCode lh slot sweeper sweep)
    (base + slot * slotSpacing, (0 : Int), length)
  let starts := flashes.zipIdx.map fun ((offset, _, length), slot) =>
    if slot = 0 then offset + length else offset
  let hits ← if sweep then do
      let lh := st.lighthouses.getD sweeper default
      let half := st.sweepLength / 2
      let start := starts.getD sweeper 0
      st.sensors.zipIdx.foldlM (fun (acc : List (Int × Int × Int)) (s, k) => do
        let (a0, a1) := view lh.transform s
        let angle := if axis = 0 then a0 else a1
        if angle.abs ≥ Ticks.pi / 3.0 then pure acc
        else
          let ticks ← angleTicks angle
          pure (acc ++ [(start + ticks - half, (k : Int), st.sweepLength)])) []
    else pure []
  let events := (flashes ++ hits).mergeSort fun a b => a.1 ≤ b.1
  let pulses := events.map fun (ticks, sensor, length) =>
    { time := st.startTime + Ticks.secondsOfInt ticks
      timecode := Ticks.wrap (st.startTimecode + ticks), sensor, length : SimPulse }
  pure ({ st with cycle := st.cycle + 1 }, pulses)

/-- The pulses of `cycles` cycles at one pose. -/
def run (st : SimTracker) (view : View) (cycles : Nat) (sweep : Bool) :
    Outcome (SimTracker × List SimPulse) :=
  (List.range cycles).foldlM (fun (acc : SimTracker × List SimPulse) _ => do
    let (st, ps) ← acc.1.cyclePulses view sweep
    pure (st, acc.2 ++ ps)) (st, [])

/-- The schedule advanced without pulses, as when the tracker is hidden. -/
def idle (st : SimTracker) (cycles : Nat) : SimTracker := { st with cycle := st.cycle + cycles }

/-- One full sweep of every lighthouse axis, starting at the next cycle that begins a round,
then a cycle of flashes only, which completes the last sweep without starting another. -/
def capture (st : SimTracker) (vTt : Transform) : Outcome (SimTracker × List SimPulse) := do
  let n := st.lighthouses.length
  if n = 0 then .error ⟨.zeroDivision, "integer modulo by zero"⟩
  let rem := st.cycle % (2 * n)
  let st := if rem = 0 then st else st.idle (2 * n - rem)
  let (st, a) ← st.run (View.ofPose vTt) (2 * n) true
  let (st, b) ← st.run (View.ofPose vTt) 1 false
  pure (st, a ++ b)

/-- The schedule advanced to the first cycle that starts at or after a time, if it is later. -/
def idleUntil (st : SimTracker) (time : Float) : Outcome SimTracker := do
  let c := ((time - st.startTime) * cyclesPerSecond - 1e-9).ceil
  if c.isNaN then .error (Fault.value "cannot convert float NaN to integer")
  if c.isInf then .error (Fault.overflow "cannot convert float infinity to integer")
  let target := Binary64.truncate c
  pure (if target > st.cycle then { st with cycle := target.toNat } else st)

/-- Cycles needed for every lighthouse to deliver one complete calibration frame. -/
def warmupCycles (st : SimTracker) : Outcome Nat :=
  match st.lighthouses.map (·.bits.length) with
  | [] => .error (Fault.value "max() arg is an empty sequence")
  | l :: ls => .ok (2 * ls.foldl max l + 2)

end SimTracker

/-- A warm-up at the first pose, then a capture of each pose `spacing` seconds apart. -/
def simulatePulses (st : SimTracker) (poses : List Transform) (spacing : Float) (warmup : Bool) :
    Outcome (SimTracker × List SimPulse) := do
  let (st, pre) ← match warmup, poses with
    | true, p :: _ => do
      let (st, a) ← st.run (View.ofPose p) (← st.warmupCycles) true
      let (st, b) ← st.run (View.ofPose p) 1 false
      pure (st, a ++ b)
    | _, _ => pure (st, [])
  let t0 := st.startTime + (Float.ofNat st.cycle / SimTracker.cyclesPerSecond).ceil + spacing
  poses.zipIdx.foldlM (fun (acc : SimTracker × List SimPulse) (p, k) => do
    let st ← acc.1.idleUntil (t0 + Float.ofNat k * spacing)
    let (st, ps) ← st.capture p
    pure (st, acc.2 ++ ps)) (st, pre)

end Lighthouse
