import Lighthouse.Geometry.Vec3
import Lighthouse.Fault
/-!
# Rotations as unit quaternions

A rotation is held as a quaternion `(x, y, z, w)` of unit length, scalar last, without making
`w` nonnegative. `ofQuat` divides by the length and `compose` normalises its product the same
way; both refuse a quaternion whose length is zero or not a number. `inv` conjugates. `ofRotvec` and `toRotvec` convert from
and to rotation vectors (axis times angle), with Taylor series below an angle of `1e-3`;
`toRotvec` first turns the quaternion to `w ≥ 0`, so angles lie in `[0, π]`. A rotation moves a
vector through its matrix.
-/
namespace Lighthouse

/-- A unit quaternion, scalar last. -/
structure Rotation where
  x : Float
  y : Float
  z : Float
  w : Float
  deriving Inhabited

namespace Rotation

def identity : Rotation := ⟨0.0, 0.0, 0.0, 1.0⟩

def vec (q : Rotation) : Vec3 := ⟨q.x, q.y, q.z⟩

/-- A quaternion divided by its length; a length of zero or NaN is refused. -/
def ofQuat (x y z w : Float) : Outcome Rotation :=
  let n := (x * x + y * y + z * z + w * w).sqrt
  if n == 0.0 || n.isNaN then .error (Fault.value "Found zero norm quaternions in `quat`.")
  else .ok ⟨x / n, y / n, z / n, w / n⟩

/-- The rotation of a rotation vector. -/
def ofRotvec (v : Vec3) : Rotation :=
  let angle := v.norm
  let scale :=
    if angle ≤ 1e-3 then
      let a2 := angle * angle
      0.5 - a2 / 48.0 + a2 * a2 / 3840.0
    else (angle / 2.0).sin / angle
  ⟨scale * v.x, scale * v.y, scale * v.z, (angle / 2.0).cos⟩

/-- The rotation vector of a rotation, with angle in `[0, π]`. -/
def toRotvec (q : Rotation) : Vec3 :=
  let q := if q.w < 0.0 then Rotation.mk (-q.x) (-q.y) (-q.z) (-q.w) else q
  let angle := 2.0 * Float.atan2 q.vec.norm q.w
  let scale :=
    if angle ≤ 1e-3 then
      let a2 := angle * angle
      2.0 + a2 / 12.0 + 7.0 * a2 * a2 / 2880.0
    else angle / (angle / 2.0).sin
  ⟨scale * q.x, scale * q.y, scale * q.z⟩

/-- The rotation `p` after `q`, normalised. The scalar part subtracts the three products of
the vector parts one after another. -/
def compose (p q : Rotation) : Outcome Rotation :=
  let c := p.vec.cross q.vec
  ofQuat (p.w * q.x + q.w * p.x + c.x) (p.w * q.y + q.w * p.y + c.y)
    (p.w * q.z + q.w * p.z + c.z) (p.w * q.w - p.x * q.x - p.y * q.y - p.z * q.z)

def inv (q : Rotation) : Rotation := ⟨-q.x, -q.y, -q.z, q.w⟩

/-- The rows of the rotation matrix. -/
def matrix (q : Rotation) : Vec3 × Vec3 × Vec3 :=
  let xx := q.x * q.x
  let yy := q.y * q.y
  let zz := q.z * q.z
  let ww := q.w * q.w
  let xy := q.x * q.y
  let zw := q.z * q.w
  let xz := q.x * q.z
  let yw := q.y * q.w
  let yz := q.y * q.z
  let xw := q.x * q.w
  (⟨xx - yy - zz + ww, 2.0 * (xy - zw), 2.0 * (xz + yw)⟩,
   ⟨2.0 * (xy + zw), -xx + yy - zz + ww, 2.0 * (yz - xw)⟩,
   ⟨2.0 * (xz - yw), 2.0 * (yz + xw), -xx - yy + zz + ww⟩)

/-- A row of the matrix against a vector: the first and third products are summed in one lane,
the second in another, the lanes added and then added to zero. -/
def rowTimes (row v : Vec3) : Float := ((row.x * v.x + row.z * v.z) + row.y * v.y) + 0.0

def apply (q : Rotation) (v : Vec3) : Vec3 :=
  let m := q.matrix
  ⟨rowTimes m.1 v, rowTimes m.2.1 v, rowTimes m.2.2 v⟩

end Rotation

end Lighthouse
