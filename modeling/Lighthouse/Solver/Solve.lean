import Lighthouse.Solver.Problem
import Lighthouse.Solver.Options
import Lighthouse.Linear.Factor
/-!
# The Levenberg-Marquardt solve

`Problem.solve` minimises the total cost over the free blocks. Each iteration linearises every
residual block and solves `(H + λ D) δ = -g`, where `D` is the diagonal of `H` clamped to
`[10⁻⁶, 10³²]` and the damping `λ` starts at the initial damping. A step is taken when it lowers
the cost; then `λ` shrinks tenfold (not below `10⁻¹²`). Otherwise, or when the system cannot be
solved, `λ` grows tenfold and the step is tried again, until `λ` passes `10¹⁶`.

A solve ends with convergence when the gradient is within its tolerance, when the step is small
against the state, when an accepted step lowers the cost by a small fraction of it, or when no
damping gives a lower cost; without convergence when the iterations or the time run out; and
with failure when the initial cost is not finite. The summary names the reason, and records
each damping loop's entry damping and its number of sparse solves.

The options are read as numbers where the solve first uses them, so an option of the wrong kind
fails a solve only once it is reached. `solveWith` takes the clock, read before each iteration,
and the sparse solver as parameters; `solve` runs with `timeSpent` and `Linear.solveSystem`.
-/
namespace Lighthouse

/-- How a solve ended. -/
inductive Termination where
  | convergence
  | noConvergence
  | failure
  deriving DecidableEq, Inhabited

def Termination.name : Termination → String
  | .convergence => "CONVERGENCE"
  | .noConvergence => "NO_CONVERGENCE"
  | .failure => "FAILURE"

/-- The outcome of a solve. -/
structure Summary where
  termination : Termination
  iterations : Nat := 0
  initialCost : Float := 0.0
  finalCost : Float := 0.0
  numResidualBlocks : Nat := 0
  numParameters : Nat := 0
  message : String := ""
  /-- Each damping loop run, as the damping it was entered with and the sparse solves it made. -/
  loops : List (Float × Nat) := []
  deriving Inhabited

def Summary.usable (s : Summary) : Bool := s.termination != .failure

/-- The sparse solves a solve made: those of its damping loops, summed. -/
def Summary.sparseSolves (s : Summary) : Nat := s.loops.foldr (fun l n => l.2 + n) 0

def Summary.toJson (s : Summary) : Json :=
  .obj [("termination", .str s.termination.name), ("iterations", .int s.iterations),
    ("initial_cost", .float s.initialCost), ("final_cost", .float s.finalCost),
    ("num_residual_blocks", .int s.numResidualBlocks), ("num_parameters", .int s.numParameters),
    ("message", .str s.message), ("usable", .bool s.usable)]

namespace SolverOptions

/-- An option read as a number where a float is compared with it (`x <= option`). -/
def comparedWith (j : Json) : Outcome Float :=
  j.realOf fun ty => s!"\x27<=\x27 not supported between instances of \x27float\x27 and \x27{ty}\x27"

/-- An option read as a number where it is compared with a float (`option <= x`). -/
def compared (j : Json) : Outcome Float :=
  j.realOf fun ty => s!"\x27<=\x27 not supported between instances of \x27{ty}\x27 and \x27float\x27"

/-- An option read as a number where a float is added to it (`x + option`). -/
def addend (j : Json) : Outcome Float :=
  j.realOf fun ty => s!"unsupported operand type(s) for +: \x27float\x27 and \x27{ty}\x27"

/-- An option read as a number where it multiplies a float (`option * x`): a text or a list is a
sequence, which only an integer repeats. -/
def factor (j : Json) : Outcome Float :=
  match j with
  | .str _ | .arr _ => .error (Fault.type "can\x27t multiply sequence by non-int of type \x27float\x27")
  | other => other.realOf fun ty => s!"unsupported operand type(s) for *: \x27{ty}\x27 and \x27float\x27"

/-- The iteration limit, an integer. -/
def iterationLimit (j : Json) : Outcome Int :=
  match j with
  | .int n => .ok n
  | .bool b => .ok (if b then 1 else 0)
  | .float _ => .error (Fault.type "\x27float\x27 object cannot be interpreted as an integer")
  | .str _ => .error (Fault.type "can only concatenate str (not \"int\") to str")
  | .arr _ => .error (Fault.type "can only concatenate list (not \"int\") to list")
  | other => .error (Fault.type
      s!"unsupported operand type(s) for +: \x27{Json.typeName other}\x27 and \x27int\x27")

/-- The time limit, a number the time spent is compared with. -/
def timeLimit (j : Json) : Outcome Float :=
  j.realOf fun ty => s!"\x27>\x27 not supported between instances of \x27float\x27 and \x27{ty}\x27"

end SolverOptions

/-- A solver of sparse square systems `A x = b`: the solution, or none when `A` cannot be
factored. -/
abbrev SparseSolver := Linear.ColumnMatrix → List Float → Option (List Float)

/-- The time a solve is taken to have spent, in seconds, whenever it compares its time limit
before an iteration: a limit below this stops a solve before its first iteration, and a larger
one (or NaN) is never reached. -/
def timeSpent : Float := 1e-5

/-- The largest damping tried. -/
def maxDamping : Float := 1e16

/-- The smallest damping kept after a success. -/
def minDamping : Float := 1e-12

/-- The most trials one damping loop makes. A positive damping passes `maxDamping` within a few
hundred trials, so only a damping that is not positive, which never grows, meets this bound: such
a loop repeats its trial for as long as it runs. -/
def trialBound : Nat := Nat.pow 2 64

/-- A diagonal entry of `H` clamped for the damping term. -/
def clampDiagonal (x : Float) : Float :=
  if x < 1e-6 then 1e-6 else if x > 1e32 then 1e32 else x

def allFinite (xs : List Float) : Bool := xs.all fun x => !(x.isNaN || x.isInf)

/-- The largest magnitude of a nonempty vector; NaN if any entry is NaN. -/
def maxAbs (xs : List Float) : Float :=
  match xs with
  | [] => 0.0
  | x :: rest => rest.foldl (fun m y => if m.isNaN || y.isNaN then Float.ofBits 0x7FF8000000000000
      else if y.abs > m then y.abs else m) x.abs

namespace Problem

variable {κ : Type} [BEq κ]

/-- The state of the damping loop of one iteration. -/
structure StepState (κ : Type) where
  problem : Problem κ
  x : List Float
  cost : Float
  damping : Float
  accepted : Bool := false
  converged : Option String := none
  solves : Nat := 0

/-- Steps tried with growing damping until one lowers the cost, the step is negligible, or the
damping passes its limit. Each trial makes one sparse solve. -/
def tryDamping (o : SolverOptions) (solve : SparseSolver) (h : Linear.ColumnMatrix)
    (g diag : List Float) (st : StepState κ) : Nat → Outcome (StepState κ)
  | 0 => .ok st
  | fuel + 1 =>
    if !(st.damping ≤ maxDamping) then .ok st
    else
      let a := h.addDiagonal (diag.map (st.damping * ·))
      let delta := (solve a (g.map (-·))).getD (g.map fun _ => Float.ofBits 0x7FF8000000000000)
      let st := { st with solves := st.solves + 1 }
      if !allFinite delta then
        tryDamping o solve h g diag { st with damping := st.damping * 10.0 } fuel
      else do
        let tol ← SolverOptions.addend o.parameterTolerance
        if Linear.norm delta ≤ tol * (Linear.norm st.x + tol) then
          .ok { st with converged := some "Parameter tolerance reached" }
        else
          let moved := (st.x.zip delta).map fun (a, b) => a + b
          let trial := st.problem.setState moved
          let newCost ← trial.cost
          if !(newCost.isNaN || newCost.isInf) && newCost < st.cost then
            let reduction := st.cost - newCost
            let damping :=
              if minDamping > st.damping / 10.0 then minDamping else st.damping / 10.0
            let st := { st with
              problem := trial, x := moved, cost := newCost, accepted := true, damping }
            let ftol ← SolverOptions.factor o.functionTolerance
            .ok (if reduction ≤ ftol * newCost then
              { st with converged := some "Function tolerance reached" } else st)
          else
            tryDamping o solve h g diag
              { st with problem := st.problem.setState st.x, damping := st.damping * 10.0 } fuel

/-- The state after an iteration loop: the summary so far and the problem. The damping is the
option as given until the first damping loop reads it. -/
structure LoopState (κ : Type) where
  summary : Summary
  problem : Problem κ
  x : List Float
  cost : Float
  damping : Json
  done : Bool := false

/-- One iteration of the solve. -/
def iterate (o : SolverOptions) (solve : SparseSolver) (n : Nat) (st : LoopState κ) (it : Nat) :
    Outcome (LoopState κ) := do
  if st.done then return st
  let st := { st with summary := { st.summary with iterations := it } }
  let (h, g) ← st.problem.normalEquations n (SolverOptions.factor o.jacobianStep)
  if maxAbs g ≤ (← SolverOptions.comparedWith o.gradientTolerance) then
    return { st with
      done := true
      summary := { st.summary with
        termination := .convergence, message := "Gradient tolerance reached" } }
  let diag := h.diagonal.map clampDiagonal
  let damping ← SolverOptions.compared st.damping
  let s ← tryDamping o solve h g diag ⟨st.problem, st.x, st.cost, damping, false, none, 0⟩
    trialBound
  let st := { st with
    problem := s.problem, x := s.x, cost := s.cost, damping := .float s.damping
    summary := { st.summary with loops := st.summary.loops ++ [(damping, s.solves)] } }
  match s.converged with
  | some msg => return { st with
      done := true, summary := { st.summary with termination := .convergence, message := msg } }
  | none =>
    if !s.accepted then
      return { st with
        problem := st.problem.setState st.x
        done := true
        summary := { st.summary with
          termination := .convergence, message := "No further cost reduction" } }
    return st

/-- Iterations from number `it` on, at most `budget` of them, until one ends the solve or the
time has run out (`expired`) before one starts. -/
def runIterations (o : SolverOptions) (solve : SparseSolver) (n : Nat) (expired : Nat → Bool)
    (st : LoopState κ) (it : Nat) : Nat → Outcome (LoopState κ)
  | 0 => .ok st
  | budget + 1 => do
    if expired it then
      return { st with
        done := true, summary := { st.summary with message := "Maximum solver time reached" } }
    let st ← iterate o solve n st it
    if st.done then pure st else runIterations o solve n expired st (it + 1) budget

/-- The problem solved from its current values with the sparse solver `solve`, with `clock it`
the time spent when iteration `it` is about to start: the summary and the problem holding the
final estimate. -/
def solveWith (clock : Nat → Float) (solve : SparseSolver) (p : Problem κ) (o : SolverOptions) :
    Outcome (Summary × Problem κ) := do
  let n := p.numFree
  let summary : Summary :=
    { termination := .noConvergence, numResidualBlocks := p.residuals.length, numParameters := n }
  let cost ← p.cost
  let summary := { summary with initialCost := cost, finalCost := cost }
  if cost.isNaN || cost.isInf then
    return ({ summary with termination := .failure, message := "Initial cost is not finite" }, p)
  if n = 0 || p.residuals.isEmpty then
    return ({ summary with termination := .convergence, message := "Nothing to optimize" }, p)
  let _ ← o.threads.gtInt 1
  if let some f := Problem.joinFault (p.freeIndices.map fun i => (p.blocks.getD i default).shape) then
    .error f
  let maxIterations ← SolverOptions.iterationLimit o.maxIterations
  if maxIterations ≤ 0 then return ({ summary with message := "Maximum iterations reached" }, p)
  let limit ← SolverOptions.timeLimit o.maxTime
  let st ← runIterations o solve n (fun it => clock it > limit)
    { summary, problem := p, x := p.state, cost, damping := o.initialDamping } 1
    maxIterations.toNat
  let summary := if st.done then st.summary
    else { st.summary with message := "Maximum iterations reached" }
  pure ({ summary with finalCost := st.cost }, st.problem)

/-- The problem solved from its current values, the time spent read as `timeSpent` and the
systems solved by `Linear.solveSystem`. -/
def solve (p : Problem κ) (o : SolverOptions) : Outcome (Summary × Problem κ) :=
  p.solveWith (fun _ => timeSpent) Linear.solveSystem o

end Problem

end Lighthouse
