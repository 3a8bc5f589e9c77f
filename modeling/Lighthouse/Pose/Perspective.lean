import Lighthouse.Linear.Jacobi
import Lighthouse.Geometry.Vec3
/-!
# Pose from point correspondences by control points

`Perspective.solve` finds the rotation `R` and translation `t` that carry object points into
the frame of a pinhole camera seeing them at given image points, by the efficient
perspective-n-point method. Every object point is written as a weighted sum of four control
points: their centroid and the centroid moved along the principal axes of the points. Each
correspondence gives two linear equations in the twelve camera coordinates of the control
points; the solution lies in the span of the four right singular vectors of the system with the
smallest singular values. The weights `β` of those vectors come from the six distances between
control points, which a rigid motion keeps: three linearisations, each refined by five
Gauss-Newton steps with a Householder solve. Each candidate gives the camera coordinates of the
points, whose rigid alignment with the object points gives `R` and `t`; the candidate with the
least mean reprojection error wins, an earlier one on ties.
-/
namespace Lighthouse.Perspective

open Linear

/-- The intrinsic parameters of a pinhole camera: focal lengths and principal point. -/
structure Camera where
  fu : Float
  fv : Float
  uc : Float
  vc : Float

/-- The fixed data of one solve: the camera, the object points and the image points. -/
structure Scene where
  camera : Camera
  points : Array Vec3
  image : Array (Float × Float)

def Scene.count (sc : Scene) : Float := Float.ofNat sc.points.size

def coord (p : Vec3) : Nat → Float
  | 0 => p.x
  | 1 => p.y
  | _ => p.z

/-- The point with coordinates given by a function of the index. -/
def ofCoord (f : Nat → Float) : Vec3 := ⟨f 0, f 1, f 2⟩

/-- The centroid of the points, each coordinate summed in order and divided by the count. -/
def centroid (ps : Array Vec3) : Vec3 :=
  let n := Float.ofNat ps.size
  let s := ps.foldl Vec3.add Vec3.zero
  ⟨s.x / n, s.y / n, s.z / n⟩

/-- The control points: the centroid, then the centroid moved along each principal axis by the
root mean square spread along it. -/
def controlPoints (sc : Scene) : Array Vec3 :=
  let c0 := centroid sc.points
  let centred : Rows := sc.points.map fun p => #[p.x - c0.x, p.y - c0.y, p.z - c0.z]
  let d := Svd.ofSquare (mulTransposed centred 3) 3
  #[c0] ++ (Array.range 3).map fun i =>
    let k := (d.w.getD i 0.0 / sc.count).sqrt
    let u := d.u.getD i #[]
    ofCoord fun j => coord c0 j + k * u.getD j 0.0

/-- The weights of each object point on the four control points. -/
def weights (sc : Scene) (cws : Array Vec3) : Array (Array Float) :=
  let c0 := cws.getD 0 Vec3.zero
  let cc : Rows := (Array.range 3).map fun i =>
    (Array.range 3).map fun j => coord (cws.getD (j + 1) Vec3.zero) i - coord c0 i
  let ci := invert cc 3
  sc.points.map fun p =>
    let a := (Array.range 3).map fun j =>
      Rows.entry ci j 0 * (p.x - c0.x) + Rows.entry ci j 1 * (p.y - c0.y) + Rows.entry ci j 2 * (p.z - c0.z)
    #[1.0 - a.getD 0 0.0 - a.getD 1 0.0 - a.getD 2 0.0] ++ a

/-- The two rows of the linear system contributed by one correspondence. -/
def systemRows (cam : Camera) (as : Array Float) (u v : Float) : Array (Array Float) :=
  let r1 := (List.range 4).foldl (fun r i =>
    let a := as.getD i 0.0
    r ++ #[a * cam.fu, 0.0, a * (cam.uc - u)]) #[]
  let r2 := (List.range 4).foldl (fun r i =>
    let a := as.getD i 0.0
    r ++ #[0.0, a * cam.fv, a * (cam.vc - v)]) #[]
  #[r1, r2]

/-- The dot product of two points, summed in coordinate order. -/
def dot3 (a b : Vec3) : Float := a.x * b.x + a.y * b.y + a.z * b.z

def dist2 (a b : Vec3) : Float :=
  (a.x - b.x) * (a.x - b.x) + (a.y - b.y) * (a.y - b.y) + (a.z - b.z) * (a.z - b.z)

/-- The four null-space vectors, the last rows of `ut` from the end, each as four points. -/
def nullVectors (ut : Rows) : Array (Array Vec3) :=
  (Array.range 4).map fun i =>
    let v := ut.getD (11 - i) #[]
    (Array.range 4).map fun j => ofCoord fun k => v.getD (3 * j + k) 0.0

/-- The six pairs of control points, in order. -/
def controlPairs : List (Nat × Nat) := [(0, 1), (0, 2), (0, 3), (1, 2), (1, 3), (2, 3)]

/-- The six-by-ten matrix of the distance constraints in the products of the weights `β`. -/
def distanceMatrix (ut : Rows) : Rows :=
  let vs := nullVectors ut
  let dv (i : Nat) (pr : Nat × Nat) : Vec3 :=
    let v := vs.getD i #[]
    Vec3.sub (v.getD pr.1 Vec3.zero) (v.getD pr.2 Vec3.zero)
  controlPairs.toArray.map fun pr =>
    let d := fun i => dv i pr
    #[dot3 (d 0) (d 0), 2.0 * dot3 (d 0) (d 1), dot3 (d 1) (d 1), 2.0 * dot3 (d 0) (d 2),
      2.0 * dot3 (d 1) (d 2), dot3 (d 2) (d 2), 2.0 * dot3 (d 0) (d 3),
      2.0 * dot3 (d 1) (d 3), 2.0 * dot3 (d 2) (d 3), dot3 (d 3) (d 3)]

/-- The squared distances between the control points, in pair order. -/
def controlDistances (cws : Array Vec3) : Array Float :=
  controlPairs.toArray.map fun (i, j) => dist2 (cws.getD i Vec3.zero) (cws.getD j Vec3.zero)

/-- The columns of the distance matrix picked by index. -/
def pick (l : Rows) (cols : List Nat) : Rows := l.map fun row => (cols.map fun c => row.getD c 0.0).toArray

/-- The first linearisation: `β₁²`, `β₁β₂`, `β₁β₃`, `β₁β₄`. -/
def betasFirst (l : Rows) (rho : Array Float) : Array Float :=
  let b := solve (pick l [0, 1, 3, 6]) 4 rho
  let b0 := b.getD 0 0.0
  if b0 < 0.0 then
    let s := (-b0).sqrt
    #[s, -b.getD 1 0.0 / s, -b.getD 2 0.0 / s, -b.getD 3 0.0 / s]
  else
    let s := b0.sqrt
    #[s, b.getD 1 0.0 / s, b.getD 2 0.0 / s, b.getD 3 0.0 / s]

/-- The second linearisation: `β₁²`, `β₁β₂`, `β₂²`. -/
def betasSecond (l : Rows) (rho : Array Float) : Array Float :=
  let b := solve (pick l [0, 1, 2]) 3 rho
  let b0 := b.getD 0 0.0
  let b2 := b.getD 2 0.0
  let (x, y) :=
    if b0 < 0.0 then ((-b0).sqrt, if b2 < 0.0 then (-b2).sqrt else 0.0)
    else (b0.sqrt, if b2 > 0.0 then b2.sqrt else 0.0)
  let x := if b.getD 1 0.0 < 0.0 then -x else x
  #[x, y, 0.0, 0.0]

/-- The third linearisation: `β₁²`, `β₁β₂`, `β₂²`, `β₁β₃`, `β₂β₃`. -/
def betasThird (l : Rows) (rho : Array Float) : Array Float :=
  let b := solve (pick l [0, 1, 2, 3, 4]) 5 rho
  let b0 := b.getD 0 0.0
  let b2 := b.getD 2 0.0
  let (x, y) :=
    if b0 < 0.0 then ((-b0).sqrt, if b2 < 0.0 then (-b2).sqrt else 0.0)
    else (b0.sqrt, if b2 > 0.0 then b2.sqrt else 0.0)
  let x := if b.getD 1 0.0 < 0.0 then -x else x
  #[x, y, b.getD 3 0.0 / x, 0.0]

/-- The Jacobian and the residual of the distance constraints at `β`. -/
def gaussNewtonSystem (l : Rows) (rho : Array Float) (b : Array Float) : Rows × Array Float :=
  let b0 := b.getD 0 0.0
  let b1 := b.getD 1 0.0
  let b2 := b.getD 2 0.0
  let b3 := b.getD 3 0.0
  let rows := (Array.range 6).map fun i =>
    let r := fun k => Rows.entry l i k
    #[2.0 * r 0 * b0 + r 1 * b1 + r 3 * b2 + r 6 * b3,
      r 1 * b0 + 2.0 * r 2 * b1 + r 4 * b2 + r 7 * b3,
      r 3 * b0 + r 4 * b1 + 2.0 * r 5 * b2 + r 8 * b3,
      r 6 * b0 + r 7 * b1 + r 8 * b2 + 2.0 * r 9 * b3]
  let rhs := (Array.range 6).map fun i =>
    let r := fun k => Rows.entry l i k
    rho.getD i 0.0 -
      (r 0 * b0 * b0 + r 1 * b0 * b1 + r 2 * b1 * b1 + r 3 * b0 * b2 + r 4 * b1 * b2 +
        r 5 * b2 * b2 + r 6 * b0 * b3 + r 7 * b1 * b3 + r 8 * b2 * b3 + r 9 * b3 * b3)
  (rows, rhs)

/-- The state of a Householder factorisation: the matrix being reduced and the two diagonals
that describe the reflections and `R`. -/
structure Householder where
  a : Rows
  d1 : Array Float
  d2 : Array Float

/-- Column `k` reduced by a Householder reflection, or none when its pivot scale is zero. The
scale is the largest magnitude among rows `k` to `nr - 2` of the column. -/
def Householder.column (nr nc : Nat) (h : Householder) (k : Nat) : Option Householder :=
  let eta := ((List.range nr).filter (fun i => k ≤ i ∧ i + 1 < nr)).foldl
    (fun e i => let x := (Rows.entry h.a i k).abs; if e < x then x else e) (Rows.entry h.a k k).abs
  if eta == 0.0 then none
  else
    let inv := 1.0 / eta
    let below := (List.range nr).filter (k ≤ ·)
    let a := below.foldl (fun a i =>
      a.modify i fun row => row.modify k (· * inv)) h.a
    let sum2 := below.foldl (fun s i => s + Rows.entry a i k * Rows.entry a i k) 0.0
    let sigma := sum2.sqrt
    let sigma := if Rows.entry a k k < 0.0 then -sigma else sigma
    let a := a.modify k fun row => row.modify k (· + sigma)
    let akk := Rows.entry a k k
    let d1 := sigma * akk
    let a := ((List.range nc).filter (k < ·)).foldl (fun a j =>
      let sum := below.foldl (fun s i => s + Rows.entry a i k * Rows.entry a i j) 0.0
      let tau := sum / d1
      below.foldl (fun a i => a.modify i fun row => row.modify j (· - tau * Rows.entry a i k)) a) a
    some { a, d1 := h.d1.set! k d1, d2 := h.d2.set! k (-eta * sigma) }

/-- The least-squares solution of a six-by-four system by Householder reflections, or none when
a pivot column vanishes. -/
def householderSolve (a : Rows) (b : Array Float) : Option (Array Float) := do
  let nr := 6
  let nc := 4
  let h ← (List.range nc).foldlM (Householder.column nr nc)
    ⟨a, Array.replicate nc 0.0, Array.replicate nc 0.0⟩
  -- `b ← Qᵀ b`
  let b := (List.range nc).foldl (fun b j =>
    let below := (List.range nr).filter (j ≤ ·)
    let tau := below.foldl (fun s i => s + Rows.entry h.a i j * b.getD i 0.0) 0.0
    let tau := tau / h.d1.getD j 0.0
    below.foldl (fun b i => b.modify i (· - tau * Rows.entry h.a i j)) b) b
  -- `x ← R⁻¹ b`
  let last := b.getD (nc - 1) 0.0 / h.d2.getD (nc - 1) 0.0
  let x := (List.range (nc - 1)).reverse.foldl (fun x i =>
    let sum := ((List.range nc).filter (i < ·)).foldl (fun s j => s + Rows.entry h.a i j * x.getD j 0.0) 0.0
    x.set! i ((b.getD i 0.0 - sum) / h.d2.getD i 0.0)) ((Array.replicate nc 0.0).set! (nc - 1) last)
  pure x

/-- Five Gauss-Newton steps on `β`; a step whose system is singular repeats the previous
step. -/
def refine (l : Rows) (rho : Array Float) (b : Array Float) : Array Float :=
  let (b, _) := (List.range 5).foldl (fun (acc : Array Float × Array Float) _ =>
    let (b, x) := acc
    let (a, rhs) := gaussNewtonSystem l rho b
    let x := (householderSolve a rhs).getD x
    (b.zipWith (· + ·) x, x)) (b, Array.replicate 4 0.0)
  b

/-- The camera coordinates of the control points for weights `β`. -/
def cameraControls (ut : Rows) (b : Array Float) : Array Vec3 :=
  let vs := nullVectors ut
  (Array.range 4).map fun j => ofCoord fun k =>
    (List.range 4).foldl (fun s i => s + b.getD i 0.0 * coord ((vs.getD i #[]).getD j Vec3.zero) k)
      0.0

/-- The camera coordinates of every point from its weights. -/
def cameraPoints (alphas : Array (Array Float)) (ccs : Array Vec3) : Array Vec3 :=
  alphas.map fun a => ofCoord fun j =>
    a.getD 0 0.0 * coord (ccs.getD 0 Vec3.zero) j + a.getD 1 0.0 * coord (ccs.getD 1 Vec3.zero) j +
      a.getD 2 0.0 * coord (ccs.getD 2 Vec3.zero) j + a.getD 3 0.0 * coord (ccs.getD 3 Vec3.zero) j

/-- A rotation matrix as three rows, and a translation. -/
structure RigidPose where
  rows : Array Vec3
  t : Vec3
  deriving Inhabited

/-- The rigid motion that best aligns the object points with their camera coordinates. -/
def align (pws pcs : Array Vec3) : RigidPose :=
  let pc0 := centroid pcs
  let pw0 := centroid pws
  let abt : Rows := (Array.range 3).map fun j => (Array.range 3).map fun k =>
    (pcs.zip pws).foldl (fun s (pc, pw) =>
      s + (coord pc j - coord pc0 j) * (coord pw k - coord pw0 k)) 0.0
  let d := Svd.ofSquare abt 3
  -- `R = U Vᵀ`: entry `(i, j)` is the sum over `k` of `U i k · V j k`
  let r := fun i j =>
    Rows.entry d.u 0 i * Rows.entry d.vt 0 j + Rows.entry d.u 1 i * Rows.entry d.vt 1 j + Rows.entry d.u 2 i * Rows.entry d.vt 2 j
  let rows := (Array.range 3).map fun i => ofCoord (r i)
  let m := fun i j => r i j
  let det := m 0 0 * m 1 1 * m 2 2 + m 0 1 * m 1 2 * m 2 0 + m 0 2 * m 1 0 * m 2 1 -
    m 0 2 * m 1 1 * m 2 0 - m 0 1 * m 1 0 * m 2 2 - m 0 0 * m 1 2 * m 2 1
  let rows := if det < 0.0 then rows.modify 2 Vec3.neg else rows
  let t := ofCoord fun i => coord pc0 i - dot3 (rows.getD i Vec3.zero) pw0
  { rows, t }

/-- The mean distance between the image points and the projections of the object points. -/
def reprojectionError (sc : Scene) (p : RigidPose) : Float :=
  let cam := sc.camera
  let r := fun i => p.rows.getD i Vec3.zero
  let sum := (sc.points.zip sc.image).foldl (fun s (pw, (u, v)) =>
    let xc := dot3 (r 0) pw + p.t.x
    let yc := dot3 (r 1) pw + p.t.y
    let invZ := 1.0 / (dot3 (r 2) pw + p.t.z)
    let ue := cam.uc + cam.fu * xc * invZ
    let ve := cam.vc + cam.fv * yc * invZ
    s + ((u - ue) * (u - ue) + (v - ve) * (v - ve)).sqrt) 0.0
  sum / sc.count

/-- The pose for one choice of `β` and its reprojection error. The control points are mirrored
when the first point lies behind the camera. -/
def candidate (sc : Scene) (alphas : Array (Array Float)) (ut : Rows) (b : Array Float) :
    RigidPose × Float :=
  let ccs := cameraControls ut b
  let pcs := cameraPoints alphas ccs
  let pcs := if (pcs.getD 0 Vec3.zero).z < 0.0 then pcs.map Vec3.neg else pcs
  let pose := align sc.points pcs
  (pose, reprojectionError sc pose)

/-- The pose of the camera relative to the object points. -/
def solve (sc : Scene) : RigidPose :=
  let cws := controlPoints sc
  let alphas := weights sc cws
  let m : Rows := (alphas.zip sc.image).foldl (fun m (a, (u, v)) =>
    m ++ systemRows sc.camera a u v) #[]
  let ut := (Svd.ofSquare (mulTransposed m 12) 12).u
  let l := distanceMatrix ut
  let rho := controlDistances cws
  let c1 := candidate sc alphas ut (refine l rho (betasFirst l rho))
  let c2 := candidate sc alphas ut (refine l rho (betasSecond l rho))
  let c3 := candidate sc alphas ut (refine l rho (betasThird l rho))
  let best := if c2.2 < c1.2 then c2 else c1
  let best := if c3.2 < best.2 then c3 else best
  best.1

end Lighthouse.Perspective
