import Lighthouse.Pose.Perspective
import Lighthouse.Pose.Correction
import Lighthouse.Pose.Table
import Lighthouse.Geometry.AxisAngle
import Lighthouse.Measurement
import Lighthouse.Binary64.Tangent
import Lighthouse.Json.Array
/-!
# Tracker poses from sweep angles

Each lighthouse is treated as a pinhole camera. The two sweep angles of a sensor become the point
`(f tan a₀, f tan a₁)` of an image plane at the principal distance `f = w / (2 tan(fov / 2))`,
and the pose of the tracker in the lighthouse's frame follows from a perspective-n-point solver
(`PnpSolver`) given the sensors' known positions. A solve needs at least the minimum number of
correspondences (never fewer than four); the solver may fail, and the estimator counts its
solutions and failures. `PnpSolver.epnp` is the solver of `Perspective.solve`, which fails for
fewer than four points or for a number of image points other than that of the object points.
The rotation of a pose is given as a rotation vector, passed once through its matrix and back.
Tangents are the vector routine's (`Binary64.tangent`), whose last bit near a tie decides the
image points.

`Estimator.estimate` solves every lighthouse, tracker and time bin of a bundle, with the mean
angles of every sensor that has both axes, corrected by the lighthouse's calibration when asked.
-/
namespace Lighthouse

/-- A perspective-n-point solver: the rotation vector and the translation that carry the object
points into the frame of a camera seeing them at the image points, or none when it fails. -/
abbrev PnpSolver := Perspective.Scene → Option (Vec3 × Vec3)

/-- The efficient perspective-n-point solver of `Perspective.solve`, with its rotation as a
rotation vector. It needs four points or more, as many as the image points, and fails
otherwise. -/
def PnpSolver.epnp : PnpSolver := fun sc =>
  if sc.points.size < 4 || sc.image.size != sc.points.size then none
  else
    let pose := Perspective.solve sc
    some (AxisAngle.ofMatrix (pose.rows.map fun r => #[r.x, r.y, r.z]), pose.t)

/-- The fewest correspondences a solve accepts. -/
def leastCorrespondences : Float := 4.0

/-- A pose estimator: the synthetic camera, the solve settings and the running counts. -/
structure Estimator where
  fov : Float := 2.0944
  imageWidth : Float := 1.0
  minCorrespondences : Float := leastCorrespondences
  correct : Bool := false
  solutions : Nat := 0
  failures : Nat := 0
  deriving Inhabited

namespace Estimator

/-- An estimator with the given settings. The minimum is raised to four the way `max` keeps the
larger of two values: four replaces the given value only when it is above it, so NaN stays, and
a value that is no number cannot be compared with four. -/
def create (fov imageWidth : Float) (minCorrespondences : Json) (correct : Bool) :
    Outcome Estimator := do
  let given ← match minCorrespondences with
    | .int n => pure (Binary64.ofInt n)
    | .bool b => pure (if b then 1.0 else 0.0)
    | .float x => pure x
    | other => .error (Fault.type
        s!"\x27>\x27 not supported between instances of \x27int\x27 and \x27{Json.typeName other}\x27")
  pure { fov, imageWidth, correct
         minCorrespondences := if leastCorrespondences > given then leastCorrespondences else given }

/-- The distance from the centre of projection to the image plane. -/
def principalDistance (e : Estimator) : Float :=
  e.imageWidth / (2.0 * Binary64.tangent (e.fov / 2.0))

def imagePoint (e : Estimator) (angles : Float × Float) : Float × Float :=
  let z := e.principalDistance
  (z * Binary64.tangent angles.1, z * Binary64.tangent angles.2)

/-- An image point taken to normalised coordinates by a camera with focal length `f`, principal
point at the origin and no lens distortion, then back to the image plane, as a solve sees it. -/
def normalise (f : Float) (p : Float × Float) : Float × Float :=
  let ifx := 1.0 / f
  let x := (p.1 - 0.0) * ifx
  let y := (p.2 - 0.0) * ifx
  let plain := (x, y)
  -- the identity tilt, then the reciprocal of the third coordinate
  let tx := ((0.0 + 1.0 * x) + 0.0 * y) + 0.0 * 1.0
  let ty := ((0.0 + 0.0 * x) + 1.0 * y) + 0.0 * 1.0
  let tw := ((0.0 + 0.0 * x) + 0.0 * y) + 1.0 * 1.0
  let invProj := if tw == 0.0 then 1.0 else 1.0 / tw
  let x0 := invProj * tx
  let y0 := invProj * ty
  -- five rounds of the distortion inverse, with every coefficient zero
  let step := fun (q : Float × Float × Bool) =>
    let (x, y, stop) := q
    if stop then q
    else
      let r2 := x * x + y * y
      let icdist := (1.0 + ((0.0 * r2 + 0.0) * r2 + 0.0) * r2) /
        (1.0 + ((0.0 * r2 + 0.0) * r2 + 0.0) * r2)
      if icdist < 0.0 then (plain.1, plain.2, true)
      else
        let dx := 2.0 * 0.0 * x * y + 0.0 * (r2 + 2.0 * x * x) + 0.0 * r2 + 0.0 * r2 * r2
        let dy := 0.0 * (r2 + 2.0 * y * y) + 2.0 * 0.0 * x * y + 0.0 * r2 + 0.0 * r2 * r2
        ((x0 - dx) * icdist, (y0 - dy) * icdist, false)
  let (x, y, _) := (List.range 5).foldl (fun q _ => step q) (x0, y0, false)
  let xx := 1.0 * x + 0.0 * y + 0.0
  let yy := 0.0 * x + 1.0 * y + 0.0
  let ww := 1.0 / (0.0 * x + 0.0 * y + 1.0)
  ((xx * ww) * f + 0.0, (yy * ww) * f + 0.0)

/-- The scene a solve hands to the perspective-n-point solver: the synthetic camera, the object
points, and the image points as the solver's undistortion gives them back. -/
def scene (e : Estimator) (obj : Array Vec3) (img : Array (Float × Float)) : Perspective.Scene :=
  let f := e.principalDistance
  { camera := ⟨f, f, 0.0, 0.0⟩, points := obj, image := img.map (normalise f) }

/-- The pose `[tx, ty, tz, rx, ry, rz]` of a solver's answer, its rotation vector passed once
through its matrix and back. -/
def poseOf (a : Vec3 × Vec3) : List Float :=
  let r := AxisAngle.ofMatrix (AxisAngle.toMatrix a.1)
  [a.2.x, a.2.y, a.2.z, r.x, r.y, r.z]

/-- The pose of the object points in the camera's frame, or none when there are fewer points than
the minimum or the solver fails. A solve the solver answers counts a solution, and one it fails
counts a failure. -/
def solve (e : Estimator) (pnp : PnpSolver) (obj : Array Vec3) (img : Array (Float × Float)) :
    Estimator × Option (List Float) :=
  if Float.ofNat obj.size < e.minCorrespondences then (e, none)
  else match pnp (e.scene obj img) with
    | some a => ({ e with solutions := e.solutions + 1 }, some (poseOf a))
    | none => ({ e with failures := e.failures + 1 }, none)

/-- The number of sensors in a table: its first dimension. A table of no dimensions has no
length. -/
def tableLength (table : NumArray) : Outcome Nat :=
  match table.shape with
  | [] => .error (Fault.type "len() of unsized object")
  | n :: _ => .ok n

/-- The position of a sensor in a tracker's table: the first three entries along the second
dimension of its row, with whatever dimensions follow, flattened. A negative index counts from
the end. The table needs at least two dimensions. -/
def sensorPoint (table : NumArray) (s : Int) : Outcome (List Float) :=
  match table.shape with
  | n :: cols :: rest =>
    let i := if s < 0 then s + n else s
    if i < 0 then .error ⟨.index, s!"index {s} is out of bounds for axis 0 with size {n}"⟩
    else
      let inner := rest.foldl (· * ·) 1
      let row := (table.values.drop (i.toNat * cols * inner)).take (cols * inner)
      .ok (row.take (min 3 cols * inner))
  | dims => .error ⟨.index,
      s!"too many indices for array: array is {dims.length}-dimensional, but 2 were indexed"⟩

/-- The correspondences of one tracker, lighthouse and bin: the sensor positions, flattened, and
the image points. -/
def correspondences (e : Estimator) (b : Bundle) (tracker lighthouse : String) (bin : Float)
    (table : NumArray) (params : Option (RotorCorrection × RotorCorrection)) :
    Outcome (Array (List Float) × Array (Float × Float)) :=
  (b.sensors tracker lighthouse bin).foldlM
    (fun (acc : Array (List Float) × Array (Float × Float)) s => do
      if s ≥ ((← tableLength table) : Int) then return acc
      match meanAngles (b.angles? tracker lighthouse bin s 0) (b.angles? tracker lighthouse bin s 1)
      with
      | none => pure acc
      | some angles =>
        let angles := match e.correct, params with
          | true, some p => correctAngles angles p
          | _, _ => angles
        let p ← sensorPoint table s
        pure (acc.1.push p, acc.2.push (e.imagePoint angles))) (#[], #[])

def triples : List Float → List Vec3
  | x :: y :: z :: rest => ⟨x, y, z⟩ :: triples rest
  | _ => []

/-- The solve of one bin's correspondences. Too few of them give no pose; the positions, all
flattened, must then make whole points, and a count of points other than that of the image
points is a failed solve. -/
def solveCorrespondences (e : Estimator) (pnp : PnpSolver) (obj : Array (List Float))
    (img : Array (Float × Float)) : Outcome (Estimator × Option (List Float)) :=
  if Float.ofNat obj.size < e.minCorrespondences then .ok (e, none)
  else
    let flat := obj.toList.flatten
    if flat.length % 3 ≠ 0 then
      .error (Fault.value s!"cannot reshape array of size {flat.length} into shape (1,3)")
    else if flat.length / 3 ≠ img.size then .ok ({ e with failures := e.failures + 1 }, none)
    else .ok (e.solve pnp (triples flat).toArray img)

/-- Poses for every lighthouse, tracker and bin of a bundle with enough data, lighthouses and
trackers in the given order and bins in increasing order. -/
def estimate (e : Estimator) (pnp : PnpSolver) (b : Bundle) (trackers : List (String × NumArray))
    (lighthouses : List (String × Option (RotorCorrection × RotorCorrection))) :
    Outcome (Estimator × PoseTable) :=
  lighthouses.foldlM (fun (acc : Estimator × PoseTable) (lh, params) =>
    trackers.foldlM (fun (acc : Estimator × PoseTable) (tr, table) =>
      (b.bins tr lh).foldlM (fun (acc : Estimator × PoseTable) bin => do
        let (e, poses) := acc
        let (obj, img) ← e.correspondences b tr lh bin table params
        let (e, pose) ← e.solveCorrespondences pnp obj img
        pure (match pose with
          | some p => (e, poses.insert tr bin lh p)
          | none => (e, poses))) acc) acc) (e, {})

end Estimator

end Lighthouse
