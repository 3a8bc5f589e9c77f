import Lighthouse.Binary64.Fused
/-!
# Dot products and matrix products

The least-squares solver's sums are formed in a fixed order, each product fused into the running
sum, because their last bits steer every later step.

* `dot` is a chain of fused multiply-adds from zero, in index order, then added to zero. From
  sixteen entries on, the largest multiple of sixteen is first summed in lanes (`laneDot`).
* `transposeTimes J r` is `Jᵀ r`. A single column is a `dot`. Otherwise the rows of `Jᵀ` are
  taken four at a time: within such a group, the columns of `Jᵀ` go in groups of eight, four, two
  and one (`pairedChain`); a group of four or two is one fused chain that starts from the rounded
  product of its second column, a group of eight is two such groups of four, and each sum is
  added to the row; a single column adds its rounded product.
  The rows left over after the groups of four each take one fused chain over all columns, in
  pairs of products when `Jᵀ` has only two or three rows.
* `gram A B` is `Aᵀ B`, every entry a fused chain over the rows.
-/
namespace Lighthouse.Linear

open Binary64 (fusedMulAdd)

/-- Products of paired entries fused into `acc` one after another. -/
def fusedChain (acc : Float) : List Float → List Float → Float
  | x :: xs, y :: ys => fusedChain (fusedMulAdd x y acc) xs ys
  | _, _ => acc

/-- One fused step of every lane: lane `l` adds the product of the entries at `i + l`. -/
def laneStep (x y : Nat → Float) (acc : Array Float) (i : Nat) : Array Float :=
  acc.mapIdx fun l a => fusedMulAdd (x (i + l)) (y (i + l)) a

/-- The sum of `x i * y i` over the first `n` entries, `n` a multiple of sixteen, in the order
of the vector kernel: thirty-two lanes over blocks of thirty-two, each lane folded with the lane
four above it into eight, then eight lanes over a last block of sixteen, and the lanes summed
four groups at a time, then in halves, then in one addition. -/
def laneDot (x y : Nat → Float) (n : Nat) : Float :=
  let wide := n / 32
  let w := (List.range wide).foldl (fun w b => laneStep x y w (32 * b)) (Array.replicate 32 0.0)
  -- lane `l` of group `g` is the sum of wide lanes `8g + l` and `8g + 4 + l`
  let g := (List.range 16).toArray.map fun k =>
    w.getD (8 * (k / 4) + k % 4) 0.0 + w.getD (8 * (k / 4) + 4 + k % 4) 0.0
  let low := (List.range ((n - 32 * wide) / 8)).foldl (fun acc b => laneStep x y acc (32 * wide + 8 * b))
    (g.extract 0 8)
  let s := (List.range 4).map fun l =>
    low.getD l 0.0 + low.getD (4 + l) 0.0 + g.getD (8 + l) 0.0 + g.getD (12 + l) 0.0
  (s.getD 0 0.0 + s.getD 2 0.0) + (s.getD 1 0.0 + s.getD 3 0.0)

/-- The dot product of two vectors: the first sixteen-entry multiple by `laneDot`, the rest each
fused into the sum in index order, and the total added to zero. -/
def dot (xs ys : List Float) : Float :=
  let n := min xs.length ys.length
  let head := n - n % 16
  let x := fun i => xs.getD i 0.0
  let y := fun i => ys.getD i 0.0
  let start := if head = 0 then 0.0 else laneDot x y head
  0.0 + fusedChain start (xs.drop head) (ys.drop head)

def norm (xs : List Float) : Float := (dot xs xs).sqrt

def columns (rows : List (List Float)) : List (List Float) :=
  match rows with
  | [] => []
  | r :: _ => (List.range r.length).map fun k => rows.map fun row => row.getD k 0.0

/-- Entry `i` of a vector, zero past its end. -/
def entry (xs : List Float) (i : Nat) : Float := xs.getD i 0.0

/-- The products `a k * x k` of a group of columns `start, start + 1, …` in one fused chain
that starts from the rounded product of the second column, the first column fused onto it. -/
def pairedChain (a x : Nat → Float) (start width : Nat) : Float :=
  ((List.range width).drop 2).foldl (fun acc k => fusedMulAdd (a (start + k)) (x (start + k)) acc)
    (fusedMulAdd (a start) (x start) (a (start + 1) * x (start + 1)))

/-- An entry `y` of a row inside a group of four rows, plus `α` times the row's products with
the first `n` entries of `x`: columns in groups of eight, each the sums of its two halves
(`pairedChain` against `α x`) added to `y` in turn; then groups of four and two (`pairedChain`),
each group's sum times `α` fused onto `y`; then a last single column whose rounded product with
`α x` is added. -/
def groupedRow (α : Float) (a x : Nat → Float) (n : Nat) (y : Float) : Float :=
  let xα := fun k => α * x k
  let y := (List.range (n / 8)).foldl
    (fun y g => (y + pairedChain a xα (8 * g) 4) + pairedChain a xα (8 * g + 4) 4) y
  let s := 8 * (n / 8)
  let (y, s) := if n % 8 ≥ 4 then (fusedMulAdd α (pairedChain a x s 4) y, s + 4) else (y, s)
  let (y, s) := if n % 4 ≥ 2 then (fusedMulAdd α (pairedChain a x s 2) y, s + 2) else (y, s)
  if n % 2 = 1 then y + a s * (α * x s) else y

/-- A row of `Jᵀ` inside a group of four rows, summed over its columns against `x`. -/
def groupRow (row x : List Float) : Float :=
  groupedRow 1.0 (entry row) (entry x) x.length 0.0

/-- A leftover row of `Jᵀ`, summed over its columns against `x`; `paired` sums two products
at a time over each group of four columns. -/
def tailRow (paired : Bool) (row x : List Float) : Float :=
  let c := x.length
  let quads := if paired then c / 4 else 0
  let pairStep (acc : Float) (k : Nat) : Float :=
    acc + fusedMulAdd (entry row k) (entry x k) (entry row (k + 1) * entry x (k + 1))
  let acc := (List.range quads).foldl (fun acc q => pairStep (pairStep acc (4 * q)) (4 * q + 2))
    0.0
  let acc := ((List.range (c - 4 * quads)).map (· + 4 * quads)).foldl
    (fun acc k => fusedMulAdd (entry row k) (entry x k) acc) acc
  fusedMulAdd 1.0 acc 0.0

/-- `Jᵀ r` for a matrix `J` given by rows. -/
def transposeTimes (j : List (List Float)) (r : List Float) : List Float :=
  let cols := columns j
  match cols with
  | [c] => [dot c r]
  | _ =>
    let n := cols.length
    let grouped := n - n % 4
    let paired := grouped = 0
    (List.range n).map fun k =>
      let row := cols.getD k []
      if k < grouped then groupRow row r else tailRow paired row r

/-- `Aᵀ B` for matrices given by rows with the same number of rows. -/
def gram (a b : List (List Float)) : List (List Float) :=
  let ca := columns a
  let cb := columns b
  ca.map fun u => cb.map fun v => 0.0 + fusedChain 0.0 u v

end Lighthouse.Linear
