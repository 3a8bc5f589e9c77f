import Lighthouse.Linear.Products
import Lighthouse.Linear.Compressed
import Lighthouse.Solver.Loss
import Lighthouse.Fault
import Lighthouse.Text.Quoted
import Lighthouse.Linear.Broadcast
/-!
# Least-squares problems

A problem holds named blocks of parameters and residual blocks, each an array function of some
of the parameter blocks with a Huber loss (`Solver/Loss`) or a plain square. A block keeps the
shape it was given; the solver moves its values in row-major order, and the square of a residual
array is its product with itself (`selfProduct`), which only vectors and arrays of one entry
have as a number. Blocks marked
constant are read but not moved by a solve. The free blocks, in the order they were added, make
up the state vector of the solver; `offsets` gives each free block its place in it.

`linearize` evaluates one residual block with central-difference derivatives: parameter `v` is
moved by `h = step · max(1, |v|)` each way and the column of the Jacobian is the difference of
the two residuals over `2h`; the step is read as a number where the first difference is taken.
`normalEquations` assembles the Gauss-Newton system `H δ = -g` from all blocks, each weighted by
its Huber weight, `H` as triplets summed into a column matrix; a residual of two or more
dimensions cannot add to the gradient (`gradientShapeFault`).
-/
namespace Lighthouse

/-- A block of parameters, its shape, and whether the solver holds it fixed. The solver moves
the values in row-major order. -/
structure ParamBlock where
  values : List Float
  shape : List Nat := [values.length]
  constant : Bool := false
  deriving Inhabited

def ParamBlock.array (b : ParamBlock) : NumArray := ⟨b.shape, b.values⟩

/-- A residual block: a function of parameter blocks, given by their indices, and the scale of
its Huber loss, or none for a plain square. -/
structure ResidualBlock where
  eval : List NumArray → Outcome NumArray
  blocks : List Nat
  lossScale : Option Float

instance : Inhabited ResidualBlock := ⟨⟨fun _ => .ok (NumArray.vector []), [], none⟩⟩

/-- A residual of vectors as a residual of arrays: the arguments' values in row-major order,
the result a vector. -/
def ResidualBlock.ofVectors (f : List (List Float) → Outcome (List Float)) :
    List NumArray → Outcome NumArray :=
  fun args => do pure (NumArray.vector (← f (args.map (·.values))))

/-- The square `r · r` of a residual, formed as the matrix product of the array with itself,
which must be a single number. An array of no dimensions has no such product; a vector gives
its dot product; otherwise the last two dimensions must agree, and every dimension must be one.
-/
def selfProduct (r : NumArray) : Outcome Float :=
  match r.shape.reverse with
  | [] => .error (Fault.value ("matmul: Input operand 0 does not have enough dimensions (has 0, " ++
      "gufunc core with signature (n?,k),(k,m?)->(n?,m?) requires 1)"))
  | [_] => .ok (Linear.dot r.values r.values)
  | q :: p :: batch =>
    if p ≠ q then .error (Fault.value ("matmul: Input operand 1 has a mismatch in its core " ++
      s!"dimension 0, with gufunc signature (n?,k),(k,m?)->(n?,m?) (size {p} is different from {q})"))
    else if NumArray.shapeSize batch * p * p ≠ 1 then
      .error (Fault.type "only length-1 arrays can be converted to Python scalars")
    else .ok (Linear.dot r.values r.values)

/-- A least-squares problem over parameter blocks named by keys. -/
structure Problem (κ : Type) where
  keys : List κ := []
  blocks : List ParamBlock := []
  residuals : List ResidualBlock := []

namespace Problem

variable {κ : Type} [BEq κ]

def indexOf? (p : Problem κ) (k : κ) : Option Nat := p.keys.findIdx? (· == k)

def block? (p : Problem κ) (k : κ) : Option ParamBlock :=
  (p.indexOf? k).bind fun i => p.blocks[i]?

/-- A block added under a new key, or the existing block under a known key, then marked
constant if `constant` is set. -/
def addBlock (p : Problem κ) (k : κ) (values : NumArray) (constant : Bool) : Problem κ :=
  match p.indexOf? k with
  | none => { p with keys := p.keys ++ [k], blocks := p.blocks ++ [⟨values.values, values.shape, constant⟩] }
  | some i =>
    if constant then { p with blocks := p.blocks.modify i fun b => { b with constant := true } }
    else p

/-- A residual block over the blocks under some keys; unknown keys are refused, named in the
fault by `shown`. -/
def addResidual (p : Problem κ) (shown : κ → String)
    (eval : List NumArray → Outcome NumArray) (ks : List κ) (lossScale : Option Float) :
    Outcome (Problem κ) :=
  let missing := ks.filter fun k => (p.indexOf? k).isNone
  if missing.isEmpty then
    .ok { p with residuals := p.residuals ++ [⟨eval, ks.filterMap p.indexOf?, lossScale⟩] }
  else .error ⟨.key,
    Text.quoted ("Unknown parameter blocks: [" ++ ", ".intercalate (missing.map shown) ++ "]")⟩

/-- The free blocks' indices, in order. -/
def freeIndices (p : Problem κ) : List Nat :=
  (List.range p.blocks.length).filter fun i => !(p.blocks.getD i default).constant

def numFree (p : Problem κ) : Nat :=
  (p.freeIndices.map fun i => (p.blocks.getD i default).values.length).foldl (· + ·) 0

/-- The place of each free block in the state vector, by block index. -/
def offsets (p : Problem κ) : List (Nat × Nat) :=
  (p.freeIndices.foldl (fun (acc : List (Nat × Nat) × Nat) i =>
    (acc.1 ++ [(i, acc.2)], acc.2 + (p.blocks.getD i default).values.length)) ([], 0)).1

def argsOf (p : Problem κ) (r : ResidualBlock) : List NumArray :=
  r.blocks.map fun i => (p.blocks.getD i default).array

def residualCost (p : Problem κ) (r : ResidualBlock) : Outcome Float := do
  let v ← r.eval (p.argsOf r)
  let s ← selfProduct v
  pure (match r.lossScale with
    | none => 0.5 * s
    | some c => 0.5 * huberLoss s c)

/-- The total cost, summed over the residual blocks in order. -/
def cost (p : Problem κ) : Outcome Float :=
  p.residuals.foldlM (fun acc r => do pure (acc + (← p.residualCost r))) 0.0

/-- The state vector: the free blocks' values in order. -/
def state (p : Problem κ) : List Float :=
  p.freeIndices.flatMap fun i => (p.blocks.getD i default).values

def setState (p : Problem κ) (x : List Float) : Problem κ :=
  { p with blocks := (p.blocks.zip (List.range p.blocks.length)).map fun (b, i) =>
      match (p.offsets.find? (·.1 == i)) with
      | some (_, off) => { b with values := (x.drop off).take b.values.length }
      | none => b }

/-- The fault of adding a block's part of the gradient, `Jᵀ r` for a block of `bs` parameters,
to its `bs` entries of the gradient when the residual `r` has two or more dimensions: the product
keeps the leading dimensions of `r`, and the sum would need more dimensions than the gradient. -/
def gradientShapeFault (bs : Nat) (r : List Nat) : Fault :=
  Fault.value (s!"non-broadcastable output operand with shape {NumArray.compactShape [bs]} " ++
    s!"doesn\x27t match the broadcast shape {NumArray.compactShape (r.take (r.length - 2) ++ [bs, bs])}")

/-- The fault, if any, of joining the free blocks into one state array along their first
dimension: a block of no dimensions cannot be joined, and every other block must match the
first in its number of dimensions and in each dimension after the first. -/
def joinFault (shapes : List (List Nat)) : Option Fault :=
  match shapes with
  | [] => none
  | first :: rest =>
    if first.isEmpty then some (Fault.value "zero-dimensional arrays cannot be concatenated")
    else (rest.zip (List.range' 1 rest.length)).findSome? fun (s, i) =>
      if s.length ≠ first.length then
        some (Fault.value ("all the input arrays must have same number of dimensions, but the " ++
          s!"array at index 0 has {first.length} dimension(s) and the array at index {i} has " ++
          s!"{s.length} dimension(s)"))
      else ((first.zip s).zip (List.range first.length)).findSome? fun ((a, b), d) =>
        if d ≠ 0 ∧ a ≠ b then
          some (Fault.value ("all the input array dimensions except for the concatenation " ++
            s!"axis must match exactly, but along dimension {d}, the array at index 0 has size " ++
            s!"{a} and the array at index {i} has size {b}"))
        else none

/-- The scale of a difference step: the magnitude when it exceeds one, else one. -/
def stepScale (v : Float) : Float := if v.abs > 1.0 then v.abs else 1.0

/-- The Jacobian of a residual with respect to argument `i`, by central differences, as rows. -/
def jacobian (r : ResidualBlock) (args : List NumArray) (i : Nat) (m : Nat) (step : Outcome Float) :
    Outcome (List (List Float)) := do
  let a := args.getD i (NumArray.vector [])
  let vals := a.values
  let cols ← (List.range vals.length).mapM fun k => do
    let v := vals.getD k 0.0
    let h := (← step) * stepScale v
    let plus ← r.eval (args.set i { a with values := vals.set k (v + h) })
    let minus ← r.eval (args.set i { a with values := vals.set k (v - h) })
    pure ((plus.values.zip minus.values).map fun (a, b) => (a - b) / (2.0 * h))
  pure ((List.range m).map fun row => cols.map fun c => c.getD row 0.0)

/-- A residual block evaluated with its Jacobians for the free blocks it reads, each paired
with its block's offset, and its Huber weight. -/
def linearize (p : Problem κ) (r : ResidualBlock) (step : Outcome Float) :
    Outcome (NumArray × List (Nat × List (List Float)) × Float) := do
  let args := p.argsOf r
  let v ← r.eval args
  let offs := p.offsets
  let jacs ← ((r.blocks.zip (List.range r.blocks.length)).filterMap fun (b, i) =>
      (offs.find? (·.1 == b)).map fun (_, off) => (i, off)).mapM fun (i, off) => do
    pure (off, ← jacobian r args i v.size step)
  let s ← selfProduct v
  let w := match r.lossScale with
    | none => 1.0
    | some c => huberWeight s c
  pure (v, jacs, w)

/-- The weighted normal equations `H δ = -g` over all residual blocks: `H` as a column matrix
and `g`. -/
def normalEquations (p : Problem κ) (n : Nat) (step : Outcome Float) :
    Outcome (Linear.ColumnMatrix × List Float) := do
  let lins ← p.residuals.mapM fun r => p.linearize r step
  let (trips, g) ← lins.foldlM (fun (acc : List (Nat × Nat × Float) × List Float) (v, jacs, w) => do
    let (trips, g) := acc
    if let some (_, ji) := jacs.head? then
      if v.shape.length ≥ 2 then .error (gradientShapeFault ((ji.head?.map List.length).getD 0) v.shape)
    let (trips, g) := jacs.foldl (fun (acc : List (Nat × Nat × Float) × List Float) (oi, ji) =>
      let (trips, g) := acc
      let gi := Linear.transposeTimes ji v.values
      let g := (List.range g.length).map fun k =>
        let x := g.getD k 0.0
        if oi ≤ k ∧ k < oi + gi.length then x + w * gi.getD (k - oi) 0.0 else x
      let trips := jacs.foldl (fun trips (oj, jj) =>
        let h := Linear.gram ji jj
        trips ++ ((h.zip (List.range h.length)).flatMap fun (row, a) =>
          (row.zip (List.range row.length)).map fun (x, b) => (oi + a, oj + b, w * x))) trips
      (trips, g)) (trips, g)
    pure (trips, g)) ([], List.replicate n 0.0)
  pure (Linear.ColumnMatrix.ofTriplets n trips, g)

end Problem

end Lighthouse
