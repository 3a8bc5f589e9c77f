import Lighthouse.Geometry.Rotation
import Lighthouse.Json.Array
/-!
# Rigid transforms

A transform `aTb` maps points of frame `b` into frame `a`: a translation and a rotation vector,
six numbers `[tx, ty, tz, rx, ry, rz]`. `compose aTb bTc = aTc`, `invert aTb = bTa`, and
`toPose7` / `ofPose7` convert to and from `[x, y, z, qx, qy, qz, qw]`.

`residual mTs mTt sTt` measures how far the pose `sTt` of a tracker seen by a slave lighthouse,
carried into the master frame by `mTs`, is from the pose `mTt` the master saw: the translation
difference and the rotation vector of `R_mt · (R_ms · R_st)⁻¹`.
-/
namespace Lighthouse

/-- A rigid transform: translation and rotation vector. -/
structure Transform where
  t : Vec3
  r : Vec3
  deriving Inhabited

namespace Transform

def identity : Transform := ⟨Vec3.zero, Vec3.zero⟩

def rotation (a : Transform) : Rotation := Rotation.ofRotvec a.r

/-- `aTb` then `bTc`: the transform `aTc`. -/
def compose (a b : Transform) : Outcome Transform := do
  let ra := a.rotation
  let rb := b.rotation
  let t := (ra.apply b.t).add a.t
  pure ⟨t, (← ra.compose rb).toRotvec⟩

def invert (a : Transform) : Transform :=
  let ri := a.rotation.inv
  ⟨(ri.apply a.t).neg, ri.toRotvec⟩

/-- A point of frame `b` in frame `a`. -/
def applyTo (a : Transform) (p : Vec3) : Vec3 := (a.rotation.apply p).add a.t

def toList (a : Transform) : List Float := a.t.toList ++ a.r.toList

/-- Translation and quaternion `[x, y, z, qx, qy, qz, qw]`. -/
def toPose7 (a : Transform) : List Float :=
  let q := a.rotation
  a.t.toList ++ [q.x, q.y, q.z, q.w]

/-- A transform from translation and quaternion; the quaternion is normalised and must not be
zero. -/
def ofPose7 (xs : List Float) : Outcome Transform :=
  match xs with
  | [x, y, z, qx, qy, qz, qw] => do
    let q ← Rotation.ofQuat qx qy qz qw
    pure ⟨⟨x, y, z⟩, q.toRotvec⟩
  | _ => .error (Fault.value
      s!"Expected 7 values [x, y, z, qx, qy, qz, qw], got {shapeText [xs.length]}")

/-- A transform from at least six numbers (more are ignored); fewer leave the rotation vector
short. -/
def ofList (xs : List Float) : Outcome Transform :=
  match xs with
  | x :: y :: z :: rx :: ry :: rz :: _ => .ok ⟨⟨x, y, z⟩, ⟨rx, ry, rz⟩⟩
  | _ => .error (Fault.value
      s!"Expected `rot_vec` to have shape (3,) or (N, 3), got {shapeText [xs.length - 3]}")

/-- A transform from an array of exactly seven numbers, translation and quaternion. -/
def ofPose7Array (a : NumArray) : Outcome Transform :=
  if a.shape = [7] then ofPose7 a.values
  else .error (Fault.value
    s!"Expected 7 values [x, y, z, qx, qy, qz, qw], got {shapeText a.shape}")

/-- The points of an array of shape `(3,)` or `(P, 3)`, and whether it was a single point. -/
def pointsOf (a : NumArray) : Outcome (List Vec3 × Bool) :=
  match a.shape with
  | [] => .error (Fault.index "tuple index out of range")
  | [3] => .ok ((Vec3.ofList? a.values).toList, true)
  | [_, 3] => .ok ((a.rows.filterMap Vec3.ofList?), false)
  | s => .error (Fault.value s!"Expected input of shape (3,) or (P, 3), got {shapeText s}.")

/-- Points of frame `b` in frame `a`, in the shape they came in. -/
def applyArray (a : Transform) (pts : NumArray) : Outcome NumArray := do
  let (ps, single) ← pointsOf pts
  let qs := ps.map a.applyTo
  pure ⟨if single then [3] else [qs.length, 3], qs.flatMap Vec3.toList⟩

/-- The disagreement between a tracker pose seen by the master and by a slave lighthouse. -/
def residual (mTs mTt sTt : Transform) : Outcome Transform := do
  let rms := mTs.rotation
  let rst := sTt.rotation
  let rmt := mTt.rotation
  let r ← rmt.compose (← rms.compose rst).inv
  pure ⟨mTt.t.sub ((rms.apply sTt.t).add mTs.t), r.toRotvec⟩

end Transform

end Lighthouse
