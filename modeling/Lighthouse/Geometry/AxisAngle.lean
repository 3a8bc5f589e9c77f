import Lighthouse.Linear.Jacobi
import Lighthouse.Geometry.Vec3
/-!
# Rotation vectors and rotation matrices

A rotation vector `r` stands for the rotation by `|r|` about the axis `r / |r|`.
`AxisAngle.toMatrix` gives its matrix `cos θ I + (1 - cos θ) r̂ r̂ᵀ + sin θ [r̂]ₓ`, the identity
when `|r|` is below the machine epsilon. `AxisAngle.ofMatrix` first replaces the matrix by the
nearest rotation `U Vᵀ` from its singular value decomposition, then reads the angle from the
trace and the axis from the skew part; near a half turn, where the skew part vanishes, the axis
comes from the diagonal instead. A matrix with an entry outside `[-100, 100)` or a NaN gives the
zero vector.
-/
namespace Lighthouse.AxisAngle

open Linear

/-- The rotation matrix of a rotation vector, as three rows. -/
def toMatrix (v : Vec3) : Rows :=
  let theta := (v.x * v.x + v.y * v.y + v.z * v.z).sqrt
  if theta < machineEpsilon then #[#[1.0, 0.0, 0.0], #[0.0, 1.0, 0.0], #[0.0, 0.0, 1.0]]
  else
    let c := theta.cos
    let s := theta.sin
    let c1 := 1.0 - c
    let itheta := if theta == 0.0 then 0.0 else 1.0 / theta
    let x := v.x * itheta
    let y := v.y * itheta
    let z := v.z * itheta
    let eye := #[1.0, 0.0, 0.0, 0.0, 1.0, 0.0, 0.0, 0.0, 1.0]
    let rrt := #[x * x, x * y, x * z, x * y, y * y, y * z, x * z, y * z, z * z]
    let skew := #[0.0, -z, y, z, 0.0, -x, -y, x, 0.0]
    let e := fun k => (eye.getD k 0.0 * c + rrt.getD k 0.0 * c1) + skew.getD k 0.0 * s
    (Array.range 3).map fun i => (Array.range 3).map fun j => e (3 * i + j)

/-- Whether every entry lies in `[-100, 100)`. -/
def inRange (m : Rows) : Bool :=
  m.all fun row => row.all fun x => -100.0 ≤ x && x < 100.0

/-- The larger of a number and zero, a NaN kept. -/
def atLeastZero (t : Float) : Float := if t < 0.0 then 0.0 else t

/-- The rotation vector of a rotation matrix given as three rows. -/
def ofMatrix (m : Rows) : Vec3 :=
  if !inRange m then ⟨0.0, 0.0, 0.0⟩
  else
    let d := Svd.ofSquare m 3
    -- the nearest rotation `U Vᵀ`
    let r := fun i j => ((0.0 + Rows.entry d.u 0 i * Rows.entry d.vt 0 j) + Rows.entry d.u 1 i * Rows.entry d.vt 1 j) +
      Rows.entry d.u 2 i * Rows.entry d.vt 2 j
    let rx := r 2 1 - r 1 2
    let ry := r 0 2 - r 2 0
    let rz := r 1 0 - r 0 1
    let s := ((rx * rx + ry * ry + rz * rz) * 0.25).sqrt
    let c := (r 0 0 + r 1 1 + r 2 2 - 1.0) * 0.5
    let c := if c > 1.0 then 1.0 else if c < -1.0 then -1.0 else c
    let theta := c.acos
    if s < 1e-5 then
      if c > 0.0 then ⟨0.0, 0.0, 0.0⟩
      else
        let x := (atLeastZero ((r 0 0 + 1.0) * 0.5)).sqrt
        let y := (atLeastZero ((r 1 1 + 1.0) * 0.5)).sqrt * (if r 0 1 < 0.0 then -1.0 else 1.0)
        let z := (atLeastZero ((r 2 2 + 1.0) * 0.5)).sqrt * (if r 0 2 < 0.0 then -1.0 else 1.0)
        let z := if x.abs < y.abs && x.abs < z.abs && ((r 1 2 > 0.0) != (y * z > 0.0)) then -z
          else z
        let theta := theta / (x * x + y * y + z * z).sqrt
        ⟨x * theta, y * theta, z * theta⟩
    else
      let vth := 1.0 / (2.0 * s) * theta
      ⟨rx * vth, ry * vth, rz * vth⟩

end Lighthouse.AxisAngle
