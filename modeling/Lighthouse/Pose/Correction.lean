import Lighthouse.Calibration.Record
import Lighthouse.Json.Array
/-!
# Sweep angle corrections

A lighthouse's rotors are not ideal: each axis has a phase offset, a tilt and a curvature that
depend on the other axis's angle, and a periodic gibbous term. `correctAngles` removes them from
a pair of raw angles, each axis from the raw value of the other. `correctAnglesOf` takes them
from arrays, failing where an index or a rotor row does not fit.
-/
namespace Lighthouse

/-- The five corrections of one rotor. -/
structure RotorCorrection where
  phase : Float
  tilt : Float
  curve : Float
  gibbousPhase : Float
  gibbousMagnitude : Float
  deriving Inhabited

def Motor.correction (m : Motor) : RotorCorrection :=
  ⟨m.phase.toFloat, m.tilt.toFloat, m.curve.toFloat, m.gibbousPhase.toFloat,
    m.gibbousMagnitude.toFloat⟩

def Calibration.corrections (r : Calibration) : RotorCorrection × RotorCorrection :=
  (r.motors.1.correction, r.motors.2.correction)

/-- One axis corrected from the raw angle of the other axis. -/
def RotorCorrection.apply (p : RotorCorrection) (angle other : Float) : Float :=
  let a := angle - p.phase
  let a := a - p.tilt * other
  let a := a - p.curve * other * other
  a - p.gibbousMagnitude * (other + p.gibbousPhase).cos

/-- Both angles corrected, each from the raw value of the other. -/
def correctAngles (raw : Float × Float) (p : RotorCorrection × RotorCorrection) : Float × Float :=
  (p.1.apply raw.1 raw.2, p.2.apply raw.2 raw.1)

/-- The fault of reading index `i` of an array whose first axis has `n` entries. -/
def axisFault (i n : Nat) : Fault :=
  Fault.index s!"index {i} is out of bounds for axis 0 with size {n}"

/-- The fault of indexing an array with no axes. -/
def zeroDimFault : Fault :=
  Fault.index "too many indices for array: array is 0-dimensional, but 1 were indexed"

/-- Both angles corrected, read from an array of raw angles and an array of rotor rows in the
order the first axis needs them: rotor row 0 unpacked into its five corrections, raw angles 1
and 0, then rotor row 1. -/
def correctAnglesOf (raw params : NumArray) : Outcome (Float × Float) := do
  let row (i : Nat) : Outcome RotorCorrection :=
    match params.shape with
    | [] => .error zeroDimFault
    | [n] =>
      if i < n then .error (Fault.type "cannot unpack non-iterable numpy.float64 object")
      else .error (axisFault i n)
    | n :: c :: _ =>
      if n ≤ i then .error (axisFault i n)
      else if c < 5 then .error (Fault.value s!"not enough values to unpack (expected 5, got {c})")
      else if 5 < c then .error (Fault.value "too many values to unpack (expected 5)")
      else match params.rows[i]? with
        | some [a, b, c, d, e] => .ok ⟨a, b, c, d, e⟩
        | _ => .error (Fault.value "setting an array element with a sequence.")
  let angle (i : Nat) : Outcome Float :=
    match raw.shape with
    | [] => .error zeroDimFault
    | n :: _ =>
      match raw.values[i]? with
      | some x => if i < n then .ok x else .error (axisFault i n)
      | none => .error (axisFault i n)
  let p₀ ← row 0
  let r₁ ← angle 1
  let r₀ ← angle 0
  let p₁ ← row 1
  pure (correctAngles (r₀, r₁) (p₀, p₁))

end Lighthouse
