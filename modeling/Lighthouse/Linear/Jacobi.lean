/-!
# Singular value decomposition by one-sided Jacobi rotations

The pose estimator's decompositions are small (at most twelve by twelve), and its answers
depend on their last bits, so the algorithm is fixed step by step.

The input is given transposed: `n` rows of length `m`, the columns of the matrix `A`. A sweep
visits every pair of rows `i < j` in order; when their inner product `p` is not negligible
against the squared norms `a`, `b` of the two rows, the pair is rotated so that it becomes
orthogonal, and the same rotation is applied to the rows of `Vᵀ`, which start as the identity.
Sweeps stop when one changes nothing, or after `max m 30` of them. The singular values are the
norms of the rows, sorted in decreasing order by selection with the rows following them; each
row divided by its norm is a left singular vector. A row whose norm is not above the least
normal number is replaced by a pseudo-random vector made orthogonal to the rows before it.

`solve` is the least-squares solution `Σ (uᵢ·b / wᵢ) vᵢ` over the singular values above
`2 ε Σ w`, and `invert` the inverse assembled the same way.
-/
namespace Lighthouse.Linear

abbrev Rows := Array (Array Float)

/-- The entry in row `i` and column `j`, zero outside the matrix. -/
def Rows.entry (a : Rows) (i j : Nat) : Float := (a.getD i #[]).getD j 0.0

/-- The transpose of a matrix with `cols` columns. -/
def Rows.transpose (a : Rows) (cols : Nat) : Rows :=
  (Array.range cols).map fun j => a.map fun row => row.getD j 0.0

/-- The inner product of two vectors, summed from zero in index order. -/
def inner (a b : Array Float) : Float := (a.zip b).foldl (fun s (x, y) => s + x * y) 0.0

/-- The squared norm of a vector, summed from zero in index order. -/
def sumSquares (a : Array Float) : Float := a.foldl (fun s t => s + t * t) 0.0

/-- `Aᵀ A` for a matrix with `cols` columns: entry `(i, j)` for `i ≤ j` is the sum over the
rows of `A` in order, and the lower triangle mirrors the upper one. -/
def mulTransposed (a : Rows) (cols : Nat) : Rows :=
  let upper (i j : Nat) : Float := a.foldl (fun s row => s + row.getD i 0.0 * row.getD j 0.0) 0.0
  (Array.range cols).map fun i => (Array.range cols).map fun j =>
    if i ≤ j then upper i j else upper j i

/-- The length of the hypotenuse, as the larger leg times `√(1 + r²)` where `r` is the ratio of
the smaller leg to the larger. -/
def hypot (a b : Float) : Float :=
  let a := a.abs
  let b := b.abs
  if a > b then
    let r := b / a
    a * (1.0 + r * r).sqrt
  else if b > 0.0 then
    let r := a / b
    b * (1.0 + r * r).sqrt
  else 0.0

/-- The machine epsilon of binary64, `2⁻⁵²`. -/
def machineEpsilon : Float := Float.ofBits 0x3CB0000000000000

/-- The least positive normal binary64 number, `2⁻¹⁰²²`. -/
def leastNormal : Float := Float.ofBits 0x0010000000000000

/-- The multiply-with-carry generator that supplies the signs of replacement vectors. -/
def scrambleNext (state : UInt64) : UInt64 :=
  (state &&& (0xFFFFFFFF : UInt64)) * (4164903690 : UInt64) + (state >>> (32 : UInt64))

/-- The seed of the generator. -/
def scrambleSeed : UInt64 := 0x12345678

/-- The rows `i` and `j` turned by the rotation with cosine `c` and sine `s`. -/
def rotatePair (c s : Float) (x y : Array Float) : Array Float × Array Float :=
  (x.zipWith (fun p q => c * p + s * q) y, x.zipWith (fun p q => c * q - s * p) y)

/-- The work of a decomposition: the rows being orthogonalised, their squared norms, and the
accumulated rotations. -/
structure JacobiState where
  rows : Rows
  norms : Array Float
  vt : Rows
  changed : Bool := false

/-- The rotation of one pair of rows, or nothing when they are already orthogonal enough. -/
def JacobiState.pair (eps : Float) (st : JacobiState) (i j : Nat) : JacobiState :=
  let ai := st.rows.getD i #[]
  let aj := st.rows.getD j #[]
  let a := st.norms.getD i 0.0
  let b := st.norms.getD j 0.0
  let p := inner ai aj
  if p.abs ≤ eps * (a * b).sqrt then st
  else
    let p := p * 2.0
    let beta := a - b
    let gamma := hypot p beta
    let (c, s) :=
      if beta < 0.0 then
        let delta := (gamma - beta) * 0.5
        let s := (delta / gamma).sqrt
        (p / (gamma * s * 2.0), s)
      else
        let c := ((gamma + beta) / (gamma * 2.0)).sqrt
        (c, p / (gamma * c * 2.0))
    let (ri, rj) := rotatePair c s ai aj
    let (vi, vj) := rotatePair c s (st.vt.getD i #[]) (st.vt.getD j #[])
    { rows := (st.rows.set! i ri).set! j rj
      norms := (st.norms.set! i (sumSquares ri)).set! j (sumSquares rj)
      vt := (st.vt.set! i vi).set! j vj
      changed := true }

def JacobiState.sweep (eps : Float) (n : Nat) (st : JacobiState) : JacobiState :=
  (List.range n).foldl (fun st i =>
    ((List.range n).filter (i < ·)).foldl (fun st j => st.pair eps i j) st)
    { st with changed := false }

/-- Sweeps until one changes nothing, at most `fuel` of them. -/
def JacobiState.sweeps (eps : Float) (n : Nat) : JacobiState → Nat → JacobiState
  | st, 0 => st
  | st, fuel + 1 =>
    let st := st.sweep eps n
    if st.changed then sweeps eps n st fuel else st

/-- The rows and their norms sorted by decreasing norm, by selection: each place takes the
first largest of the norms from it on. -/
def sortByNorm (n : Nat) (st : JacobiState) : JacobiState :=
  (List.range n).foldl (fun st i =>
    let j := ((List.range n).filter (i < ·)).foldl
      (fun j k => if st.norms.getD j 0.0 < st.norms.getD k 0.0 then k else j) i
    if i = j then st
    else
      { st with
        norms := st.norms.swapIfInBounds i j
        rows := st.rows.swapIfInBounds i j
        vt := st.vt.swapIfInBounds i j }) st

/-- A pseudo-random vector of entries `± 1/m`, with the generator's next state. -/
def randomRow (m : Nat) (state : UInt64) : Array Float × UInt64 :=
  let val := 1.0 / Float.ofNat m
  (List.range m).foldl (fun (acc : Array Float × UInt64) _ =>
    let st := scrambleNext acc.2
    let bit := st &&& (256 : UInt64)
    (acc.1.push (if bit != 0 then val else -val), st)) (#[], state)

/-- A vector made orthogonal to each earlier row in turn, rescaled to unit sum of magnitudes
after each step. -/
def orthogonalize (eps : Float) (earlier : List (Array Float)) (x : Array Float) :
    Array Float :=
  earlier.foldl (fun x r =>
    let d := inner x r
    let t := x.zipWith (fun p q => p - d * q) r
    let total := t.foldl (fun s v => s + v.abs) 0.0
    let k := if total > eps * 100.0 then 1.0 / total else 0.0
    t.map (· * k)) x

/-- Row `i` replaced by random vectors until one has a norm above the least normal number, at
most `tries` times: the row, its norm and the generator's state. -/
def replaceRow (eps : Float) (m : Nat) (earlier : List (Array Float)) :
    Array Float → Float → UInt64 → Nat → Array Float × Float × UInt64
  | row, sd, state, 0 => (row, sd, state)
  | row, sd, state, tries + 1 =>
    if sd ≤ leastNormal then
      let (x, state) := randomRow m state
      let x := orthogonalize eps earlier (orthogonalize eps earlier x)
      replaceRow eps m earlier x (sumSquares x).sqrt state tries
    else (row, sd, state)

/-- The result of a decomposition `A = U diag(w) Vᵀ`: the singular values in decreasing order,
the left singular vectors `u` as rows, and the rows of `Vᵀ`. -/
structure Svd where
  w : Array Float
  u : Rows
  vt : Rows
  deriving Inhabited

/-- The decomposition of the matrix whose columns are the `n` rows of `cols`, each of length `m`. -/
def jacobi (cols : Rows) (m : Nat) : Svd :=
  let n := cols.size
  let eps := machineEpsilon * 10.0
  let st : JacobiState :=
    { rows := cols, norms := cols.map sumSquares
      vt := (Array.range n).map fun i => (Array.range n).map fun k => if i = k then 1.0 else 0.0 }
  let st := st.sweeps eps n (max m 30)
  let st := { st with norms := st.rows.map fun r => (sumSquares r).sqrt }
  let st := sortByNorm n st
  let (rows, _) := (List.range n).foldl (fun (acc : Rows × UInt64) i =>
    let (rows, state) := acc
    let (row, sd, state) := replaceRow eps m (rows.toList.take i) (rows.getD i #[])
      (st.norms.getD i 0.0) state 100
    let k := if sd > leastNormal then 1.0 / sd else 0.0
    (rows.set! i (row.map (· * k)), state)) (st.rows, scrambleSeed)
  { w := st.norms, u := rows, vt := st.vt }

/-- The decomposition of a square matrix of size `n`: `u` holds the left singular vectors as
rows, so `U` is its transpose. -/
def Svd.ofSquare (a : Rows) (n : Nat) : Svd := jacobi (a.transpose n) n

/-- The singular values that count in a back substitution: those above `2 ε Σ w`. -/
def Svd.kept (d : Svd) : List Nat :=
  let threshold := d.w.foldl (· + ·) 0.0 * (machineEpsilon * 2.0)
  (List.range d.w.size).filter fun i => !((d.w.getD i 0.0).abs ≤ threshold)

/-- The least-squares solution of `A x = b` for an `m × n` matrix with `m ≥ n`. -/
def solve (a : Rows) (n : Nat) (b : Array Float) : Array Float :=
  let d := jacobi (a.transpose n) a.size
  d.kept.foldl (fun x i =>
    let s := inner (d.u.getD i #[]) b * (1.0 / d.w.getD i 0.0)
    x.zipWith (fun xj vj => xj + s * vj) (d.vt.getD i #[])) (Array.replicate n 0.0)

/-- The inverse of a square matrix of size `n` by its decomposition, singular directions left
out. -/
def invert (a : Rows) (n : Nat) : Rows :=
  let d := Svd.ofSquare a n
  d.kept.foldl (fun x i =>
    let wi := 1.0 / d.w.getD i 0.0
    let col := (d.u.getD i #[]).map (· * wi)
    let v := d.vt.getD i #[]
    (Array.range n).map fun r =>
      (x.getD r #[]).zipWith (fun xrj bj => xrj + v.getD r 0.0 * bj) col)
    (Array.replicate n (Array.replicate n 0.0))

end Lighthouse.Linear
