import Lighthouse.Random.Normal
import Lighthouse.Calibration.Record
import Lighthouse.Geometry.Transform
import Lighthouse.Half
/-!
# Random scenarios

A synthetic capture needs plausible lighthouse records and tracker poses. `randomRecord` gives a
record whose corrections are small: per rotor a phase and a tilt of deviation `0.01`, a curve of
deviation `0.001`, a gibbous phase uniform in `[-π, π)` and a gibbous magnitude of deviation
`0.001`, each rounded to binary16 as the payload carries it. `randomPose` puts a tracker around
`(0.7, 0, 2.5)`, within `0.3`, `0.2` and `0.3` along the axes, with a rotation vector of
deviation `0.2` per component.

Draws are taken in a fixed order from one generator, rotor by rotor and field by field, so a
seed fixes the whole scenario.
-/
namespace Lighthouse

open Lighthouse.Random

/-- The value of a draw after rounding to binary16. -/
def halfRounded (x : Float) : Bits64 := Bits64.ofFloat (Half.toFloat (Half.ofFloat x))

/-- One rotor's corrections drawn in field order. -/
def randomMotor (g : Pcg) : Motor × Pcg :=
  let (phase, g) := normal 0.0 0.01 g
  let (tilt, g) := normal 0.0 0.01 g
  let (curve, g) := normal 0.0 0.001 g
  let pi : Float := 3.141592653589793
  let (gphase, g) := uniform (-pi) (pi - -pi) g
  let (gmag, g) := normal 0.0 0.001 g
  ({ phase := halfRounded phase, tilt := halfRounded tilt, curve := halfRounded curve
     gibbousPhase := halfRounded gphase, gibbousMagnitude := halfRounded gmag }, g)

/-- A record with small random corrections for a serial. -/
def randomRecord (serial : String) (g : Pcg) : Calibration × Pcg :=
  let (m0, g) := randomMotor g
  let (m1, g) := randomMotor g
  ({ serial, fwVersion := 0x0266, hwVersion := 9, motors := (m0, m1), accel := [0, 0, 127]
     sysUnlockCount := 1, modeCurrent := 0, sysFaults := 0 }, g)

/-- A tracker pose near the middle of the tracked volume. -/
def randomPose (g : Pcg) : Transform × Pcg :=
  let (x, g) := uniform (-0.3) (0.3 - -0.3) g
  let (y, g) := uniform (-0.2) (0.2 - -0.2) g
  let (z, g) := uniform (-0.3) (0.3 - -0.3) g
  let (rx, g) := normal 0.0 0.2 g
  let (ry, g) := normal 0.0 0.2 g
  let (rz, g) := normal 0.0 0.2 g
  (⟨⟨0.7 + x, y, 2.5 + z⟩, ⟨rx, ry, rz⟩⟩, g)

/-- `n` poses drawn one after another. -/
def randomPoses (n : Nat) (g : Pcg) : List Transform × Pcg :=
  (List.range n).foldl (fun (acc : List Transform × Pcg) _ =>
    let (p, g) := randomPose acc.2
    (acc.1 ++ [p], g)) ([], g)

end Lighthouse
