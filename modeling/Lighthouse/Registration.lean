import Lighthouse.Solver.Solve
import Lighthouse.Pose.Table
import Lighthouse.Geometry.Transform
import Lighthouse.Journal
import Lighthouse.Decimal.Text
import Lighthouse.Linear.Products
/-!
# Registering lighthouses

The lighthouses see the same tracker at the same time, each in its own frame. Registration
estimates every slave lighthouse's transform into the frame of the master, the first
lighthouse, which stays at the identity. Each tracker pose seen by the master and a slave in the
same time bin gives one residual block, `Transform.residual`, over the slave's transform, with
both poses held constant. The solution replaces the transforms only when it is usable.
-/
namespace Lighthouse

/-- The names of the blocks of a registration problem. -/
inductive RegistrationKey where
  /-- The transform of a slave lighthouse. -/
  | lighthouse (serial : String)
  /-- A tracker pose in a time bin seen by a lighthouse; `slot` is the bin's place among the
  tracker's bins. -/
  | pose (tracker : String) (bin : Float) (slot : Nat) (lighthouse : String)

namespace RegistrationKey

/-- Keys are equal when their parts are. A bin is the entry of the pose table it came from, so
two pose keys name the same bin when they come from the same place in the tracker's bins, also
for a bin that is a NaN (which no number equals). -/
def beq : RegistrationKey → RegistrationKey → Bool
  | .lighthouse a, .lighthouse b => a == b
  | .pose t _ i l, .pose t' _ i' l' => t == t' && i == i' && l == l'
  | _, _ => false

instance : BEq RegistrationKey := ⟨beq⟩

/-- The text of a key in a fault. -/
def shown : RegistrationKey → String
  | .lighthouse s => s!"(\x27lighthouse\x27, \x27{s}\x27)"
  | .pose t b _ l => s!"(\x27pose\x27, \x27{t}\x27, {Json.floatShown b}, \x27{l}\x27)"

end RegistrationKey

/-- The residual of a slave transform against a tracker pose seen by the master and by the
slave: `Transform.residual` on blocks `[slave transform, master pose, slave pose]`. -/
def registrationResidual (args : List (List Float)) : Outcome (List Float) := do
  let mTs ← Transform.ofList (args.getD 0 [])
  let mTt ← Transform.ofList (args.getD 1 [])
  let sTt ← Transform.ofList (args.getD 2 [])
  pure (← Transform.residual mTs mTt sTt).toList

/-- The registration problem over copies of the transforms, master first. -/
def registrationProblem (transforms : List (String × List Float)) (poses : PoseTable)
    (lossScale : Option Float) : Outcome (Problem RegistrationKey) :=
  match transforms with
  | [] => .ok {}
  | (master, _) :: slaves =>
    slaves.foldlM (fun p (slave, t) => do
      let p := p.addBlock (.lighthouse slave) (NumArray.vector t) false
      poses.trackers.foldlM (fun p (tracker, bins) =>
        bins.zipIdx.foldlM (fun p ((bin, seen), slot) =>
          match seen.find? (·.1 == master), seen.find? (·.1 == slave) with
          | some (_, mp), some (_, sp) =>
            let mk := RegistrationKey.pose tracker bin slot master
            let sk := RegistrationKey.pose tracker bin slot slave
            let p := (p.addBlock mk (NumArray.vector mp) true).addBlock sk (NumArray.vector sp) true
            p.addResidual RegistrationKey.shown (ResidualBlock.ofVectors registrationResidual)
              [.lighthouse slave, mk, sk]
              lossScale
          | _, _ => .ok p) p) p) {}

/-- The journal line of a registered transform: its translation to four places and the
translation's length. -/
def registeredLine (serial : String) (t : List Float) : JournalEntry :=
  let place (i : Nat) := Decimal.fixed 4 (t.getD i 0.0)
  Journal.info Journal.registrationSource (serial ++ ": " ++ place 0 ++ " " ++ place 1 ++ " " ++
    place 2 ++ " (" ++ Decimal.fixed 4 (Linear.norm (t.take 3)) ++ "m)")

/-- The solve of a registration: its summary, the transforms afterwards, master first, and the
journal of the solve, which tells whether a solution was found and lists the transforms found. -/
def register (transforms : List (String × List Float)) (poses : PoseTable) (o : SolverOptions)
    (lossScale : Option Float) : Outcome (Summary × List (String × List Float) × Journal) := do
  match transforms with
  | [] => pure ({ termination := .failure, message := "No lighthouses" }, transforms, [])
  | (master, _) :: slaves =>
    let start := Journal.info Journal.registrationSource
      "Estimating master -> slave lighthouse transforms."
    let p ← registrationProblem transforms poses lossScale
    if !slaves.isEmpty && p.residuals.isEmpty then
      return ({ termination := .failure,
                message := "No correspondences between master and slave lighthouses" },
        transforms, [start, ⟨.warning, Journal.registrationSource,
          "No lighthouse pairs observed the same tracker pose"⟩])
    let (summary, p) ← p.solve o
    if !summary.usable then
      return (summary, transforms, [start, Journal.info Journal.registrationSource "- Solution not found"])
    let solved := (master, List.replicate 6 0.0) :: slaves.map fun (s, t) =>
      (s, ((p.block? (.lighthouse s)).map (·.values)).getD t)
    pure (summary, solved, [start, Journal.info Journal.registrationSource "- Solution found"] ++
      solved.map fun (s, t) => registeredLine s t)

end Lighthouse
